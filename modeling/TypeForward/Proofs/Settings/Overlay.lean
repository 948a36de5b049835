import TypeForward.Settings.Layers

/-! Maps made by putting entries one after the other: of the entries for a key the last one counts. A layer of settings
put over others therefore wins wherever it has a setting, with its provenance. -/
namespace TypeForward

namespace Entries

variable {κ α β : Type}

/-- The last of the entries whose key is as asked. -/
def last? (p : κ → Prop) [DecidablePred p] (entries : List (κ × α)) : Option α :=
  (entries.reverse.find? fun entry => decide (p entry.1)).map (·.2)

section Last

variable {p : κ → Prop} [DecidablePred p]

@[simp] theorem last?_nil : last? p ([] : List (κ × α)) = none := rfl

theorem last?_cons (entry : κ × α) (rest : List (κ × α)) :
    last? p (entry :: rest) = (last? p rest).or (if p entry.1 then some entry.2 else none) := by
  rw [last?, List.reverse_cons, List.find?_append, Option.map_or]
  by_cases h : p entry.1 <;> simp [last?, h]

theorem last?_eq_none_iff {entries : List (κ × α)} : last? p entries = none ↔ ∀ entry ∈ entries, ¬ p entry.1 := by
  simp [last?, List.find?_eq_none]

/-- After the last entry that counts there is no other. -/
theorem last?_eq_some {entries : List (κ × α)} {a : α} (h : last? p entries = some a) :
    ∃ front key back, entries = front ++ (key, a) :: back ∧ p key ∧ ∀ entry ∈ back, ¬ p entry.1 := by
  induction entries with
  | nil => cases h
  | cons entry rest ih =>
    rw [last?_cons] at h
    cases later : last? p rest with
    | some b =>
      rw [later, Option.some_or] at h
      obtain ⟨front, key, back, rfl, counts, others⟩ := ih (later.trans h)
      exact ⟨entry :: front, key, back, rfl, counts, others⟩
    | none =>
      rw [later, Option.none_or] at h
      split at h
      · next counts =>
        exact ⟨[], entry.1, rest, by rw [← Option.some.inj h]; rfl, counts, last?_eq_none_iff.mp later⟩
      · cases h

/-- Where at most one entry counts, it is the last one wherever it stands. -/
theorem last?_congr_mem {entries other : List (κ × α)} (same : ∀ entry, p entry.1 → (entry ∈ other ↔ entry ∈ entries))
    (single : ∀ entry ∈ entries, ∀ entry' ∈ entries, p entry.1 → p entry'.1 → entry = entry') :
    last? p other = last? p entries := by
  cases h : last? p entries with
  | none =>
    rw [last?_eq_none_iff] at h ⊢
    intro entry mem counts
    exact h entry ((same entry counts).mp mem) counts
  | some a =>
    obtain ⟨front, key, back, rfl, counts, -⟩ := last?_eq_some h
    have here : (key, a) ∈ front ++ (key, a) :: back := by simp
    cases h' : last? p other with
    | none => exact absurd counts (last?_eq_none_iff.mp h' _ ((same _ counts).mpr here))
    | some b =>
      obtain ⟨front', key', back', rfl, counts', -⟩ := last?_eq_some h'
      have there := (same (key', b) counts').mp (by simp)
      cases single _ here _ there counts counts'
      rfl

variable {ι : Type} {q : ι → Prop} [DecidablePred q] {entries : List (κ × α)}

/-- The last entry that counts stays the last one when entries are rewritten and others are left out. -/
theorem last?_filterMap (f : κ × α → Option (ι × β)) (g : α → β)
    (dropped : ∀ entry ∈ entries, f entry = none → ¬ p entry.1)
    (key : ∀ entry ∈ entries, ∀ e, f entry = some e → (q e.1 ↔ p entry.1))
    (value : ∀ entry ∈ entries, ∀ e, f entry = some e → p entry.1 → e.2 = g entry.2) :
    last? q (entries.filterMap f) = (last? p entries).map g := by
  induction entries with
  | nil => rfl
  | cons entry rest ih =>
    have ih := ih (fun e h => dropped e (List.mem_cons_of_mem _ h)) (fun e h => key e (List.mem_cons_of_mem _ h))
      (fun e h => value e (List.mem_cons_of_mem _ h))
    cases hf : f entry with
    | none =>
      have out := dropped entry List.mem_cons_self hf
      rw [List.filterMap_cons_none hf, ih, last?_cons, if_neg out, Option.or_none]
    | some e =>
      have same := key entry List.mem_cons_self e hf
      rw [List.filterMap_cons_some hf, last?_cons, last?_cons, ih, Option.map_or]
      by_cases h : p entry.1
      · simp [h, same.mpr h, value entry List.mem_cons_self e hf h]
      · simp [h, mt same.mp h]

theorem last?_map (f : κ × α → ι × β) (g : α → β) (key : ∀ entry ∈ entries, q (f entry).1 ↔ p entry.1)
    (value : ∀ entry ∈ entries, p entry.1 → (f entry).2 = g entry.2) :
    last? q (entries.map f) = (last? p entries).map g := by
  rw [← List.filterMap_eq_map]
  apply last?_filterMap
  · intro entry mem none
    cases none
  · intro entry mem e he
    obtain rfl := Option.some.inj he
    exact key entry mem
  · intro entry mem e he
    obtain rfl := Option.some.inj he
    exact value entry mem

theorem last?_congr {p' : κ → Prop} [DecidablePred p'] (same : ∀ entry ∈ entries, p' entry.1 ↔ p entry.1) :
    last? p' entries = last? p entries := by
  simpa using last?_map id id same fun _ _ _ => rfl

end Last

variable [DecidableEq κ]

private theorem putAll_cons (entry : κ × α) (rest entries : List (κ × α)) :
    putAll entries (entry :: rest) = putAll (put entry.1 entry.2 entries) rest := rfl

private theorem get?_putAll (key : κ) (new entries : List (κ × α)) :
    get? key (putAll entries new) = (last? (· = key) new).or (get? key entries) := by
  induction new generalizing entries with
  | nil => simp [putAll]
  | cons entry rest ih =>
    rw [putAll_cons, ih, last?_cons, get?_put, Option.or_assoc]
    by_cases h : entry.1 = key
    · simp [h]
    · simp [h, Ne.symm h]

theorem mem_keys_putAll {key : κ} {new entries : List (κ × α)} :
    key ∈ keys (putAll entries new) ↔ key ∈ keys new ∨ key ∈ keys entries := by
  induction new generalizing entries with
  | nil => simp [putAll, keys]
  | cons entry rest ih =>
    rw [putAll_cons, ih, mem_keys_put, show keys (entry :: rest) = entry.1 :: keys rest from rfl, List.mem_cons]
    constructor
    · rintro (h | h | h) <;> simp [h]
    · rintro ((h | h) | h) <;> simp [h]

/-- Which keys a map made by putting has, and in which order, does not depend on the values. -/
theorem keys_putAll_congr {new new' entries entries' : List (κ × α)} (same : keys new' = keys new)
    (below : keys entries' = keys entries) : keys (putAll entries' new') = keys (putAll entries new) := by
  induction new generalizing new' entries entries' with
  | nil =>
    obtain rfl : new' = [] := List.map_eq_nil_iff.mp same
    exact below
  | cons entry rest ih =>
    obtain ⟨entry', rest', rfl, first, later⟩ := List.map_eq_cons_iff.mp same
    rw [putAll_cons, putAll_cons, first]
    refine ih later ?_
    by_cases known : entry.1 ∈ keys entries
    · rw [keys_put_of_mem known, keys_put_of_mem (below ▸ known), below]
    · rw [put_of_not_mem known, put_of_not_mem (below ▸ known), keys, keys, List.map_append, List.map_append]
      exact congrArg (· ++ [entry.1]) below

/-- A map made by putting has one entry for each key. -/
theorem nodup_keys_putAll (new : List (κ × α)) {entries : List (κ × α)} (h : (keys entries).Nodup) :
    (keys (putAll entries new)).Nodup := by
  induction new generalizing entries with
  | nil => exact h
  | cons entry rest ih =>
    rw [putAll_cons]
    refine ih ?_
    by_cases known : entry.1 ∈ keys entries
    · rw [keys_put_of_mem known]
      exact h
    · rw [put_of_not_mem known, keys, List.map_append, List.nodup_append]
      refine ⟨h, by simp, fun a ha b hb same => known ?_⟩
      obtain rfl : b = entry.1 := by simpa using hb
      exact same ▸ ha

theorem last?_eq_get? {entries : List (κ × α)} (h : (keys entries).Nodup) (key : κ) :
    last? (· = key) entries = get? key entries := by
  induction entries with
  | nil => rfl
  | cons entry rest ih =>
    obtain ⟨fresh, h⟩ := List.nodup_cons.mp h
    rw [last?_cons, ih h, get?]
    by_cases hk : entry.1 = key
    · have absent : get? key rest = none := get?_eq_none_iff.mpr (hk ▸ fresh)
      simp [hk, absent]
    · simp [hk]

theorem last?_key_eq_none_iff {entries : List (κ × α)} {key : κ} :
    last? (· = key) entries = none ↔ key ∉ keys entries := by
  rw [last?_eq_none_iff, keys, List.mem_map]
  constructor
  · rintro unset ⟨entry, mem, same⟩
    exact unset entry mem same
  · intro unset entry mem same
    exact unset ⟨entry, mem, same⟩

/-- Putting entries into an empty map keeps for each key the last one. -/
theorem last?_putAll (new : List (κ × α)) (key : κ) : last? (· = key) (putAll [] new) = last? (· = key) new := by
  have nodup : (keys (putAll [] new)).Nodup := nodup_keys_putAll new (by simp [keys])
  rw [last?_eq_get? nodup, get?_putAll, get?_nil, Option.or_none]

/-- Looking up in a map with other values for the same keys. -/
theorem get?_map (f : κ → α → β) (key : κ) (entries : List (κ × α)) :
    get? key (entries.map fun entry => (entry.1, f entry.1 entry.2)) = (get? key entries).map (f key) := by
  induction entries with
  | nil => rfl
  | cons entry rest ih =>
    by_cases h : entry.1 = key
    · simp [get?, h]
    · simp [get?, h, ih]

/-- Looking up in a map of one entry for each index. -/
theorem get?_map_of_mem {ι : Type} {key : ι → κ} (injective : ∀ {a b}, key a = key b → a = b) (value : ι → α) {a : ι}
    {indices : List ι} (mem : a ∈ indices) :
    get? (key a) (indices.map fun b => (key b, value b)) = some (value a) := by
  induction indices with
  | nil => cases mem
  | cons first rest ih =>
    by_cases own : key first = key a
    · rw [List.map_cons, get?, if_pos own, injective own]
    · have other : a ≠ first := fun same => own (congrArg key same).symm
      rw [List.map_cons, get?, if_neg own, ih ((List.mem_cons.mp mem).resolve_left other)]

end Entries

namespace Settings
open Entries

theorem get?_overlay (provenance : String → Provenance) (layer : List (String × Value)) (below : Merged)
    (setting : String) :
    get? setting (overlay provenance layer below) =
      ((last? (· = setting) layer).map fun v => (v, provenance setting)).or (get? setting below) := by
  rw [overlay, get?_putAll]
  congr 1
  exact last?_map _ _ (fun _ _ => Iff.rfl) fun entry _ h => by rw [← h]

theorem keys_overlay_congr {provenance : String → Provenance} {layer layer' : List (String × Value)}
    {below below' : Merged} (same : keys layer' = keys layer) (under : keys below' = keys below) :
    keys (overlay provenance layer' below') = keys (overlay provenance layer below) := by
  have kept (layer : List (String × Value)) :
      keys (layer.map fun entry => (entry.1, entry.2, provenance entry.1)) = keys layer := by
    rw [keys, List.map_map]
    rfl
  exact keys_putAll_congr (by rw [kept, kept, same]) under

theorem mem_keys_overlay {provenance : String → Provenance} {layer : List (String × Value)} {below : Merged}
    {setting : String} :
    setting ∈ keys (overlay provenance layer below) ↔ setting ∈ keys layer ∨ setting ∈ keys below := by
  rw [overlay, mem_keys_putAll]
  simp [keys]

end Settings

end TypeForward
