import Mathlib.Data.List.Find
import TypeForward.Proofs.Cache.Ledger

/-! A cache refines a ledger. The entries of the cache are what the ledger says last for each key, and as many as the
pairs in it; every call keeps this and gives the same reply on both sides. -/
namespace TypeForward.Cache

variable {σ : Type} {c c' : Cache} {l l' : Ledger} {key threshold key' threshold' : Value} {names : List Value}

theorem slot_eq_unhashable_iff : slot key threshold = .unhashable ↔ Refused key threshold := by
  rw [slot, Value.identity_tuple_eq_unhashable_iff, Refused, ← Value.identity_eq_unhashable_iff,
    ← Value.identity_eq_unhashable_iff]
  simp

private theorem label_eq_some_iff {k : Key} : label key threshold = some k ↔ slot key threshold = .key k := by
  unfold label
  cases slot key threshold <;> simp

/-- Pairs that can be kept are equal, part by part, if they have the same label. -/
theorem same_iff_label (hashable : ¬ Refused key threshold) (hashable' : ¬ Refused key' threshold') :
    (key.same key' = true ∧ threshold.same threshold' = true) ↔
      ∃ k, label key threshold = some k ∧ label key' threshold' = some k := by
  have parts : (Value.tuple [key, threshold]).Shares (.tuple [key', threshold']) ↔
      key.Shares key' ∧ threshold.Shares threshold' := by
    rw [Value.shares_tuple_iff]
    simp
  obtain ⟨keyFixed, thresholdFixed⟩ := not_or.mp hashable
  obtain ⟨keyFixed', thresholdFixed'⟩ := not_or.mp hashable'
  rw [Value.same_iff_shares _ _ keyFixed keyFixed', Value.same_iff_shares _ _ thresholdFixed thresholdFixed', ← parts]
  simp only [Value.Shares, label_eq_some_iff, slot]

private theorem Line.isFor_iff {line : Line} (admitted : ¬ Refused line.key line.threshold)
    (hashable : ¬ Refused key threshold) :
    line.isFor key threshold = true ↔
      ∃ k, label line.key line.threshold = some k ∧ label key threshold = some k := by
  rw [isFor, Bool.and_eq_true, same_iff_label admitted hashable]

private theorem exists_insert (hashable : ¬ Refused key threshold) (c : Cache) (names : List Value) :
    ∃ c', c.insert key threshold names = .ok c' := by
  rw [insert]
  cases h : slot key threshold with
  | unhashable => exact absurd (slot_eq_unhashable_iff.mp h) hashable
  | unique | key => exact ⟨_, rfl⟩

private theorem insert_of_refused (refused : Refused key threshold) (c : Cache) (names : List Value) :
    c.insert key threshold names = .error .wrongType := by
  rw [insert, slot_eq_unhashable_iff.mpr refused]

/-- What an insertion comes to. Without a label there is one more entry, which nothing finds. -/
private theorem insert_cases (stored : c.insert key threshold names = .ok c') :
    (label key threshold = none ∧ c' = ⟨c.entries ++ [(none, names)]⟩) ∨
      ∃ k, label key threshold = some k ∧ c' = ⟨Entries.put (some k) names c.entries⟩ := by
  rw [insert] at stored
  rw [label]
  cases h : slot key threshold with
  | unhashable =>
    rw [h] at stored
    cases stored
  | unique =>
    rw [h] at stored
    exact .inl ⟨rfl, (Except.ok.inj stored).symm⟩
  | key k =>
    rw [h] at stored
    exact .inr ⟨k, rfl, (Except.ok.inj stored).symm⟩

/-- An insertion changes what is found under its label alone. -/
private theorem get?_insert (stored : c.insert key threshold names = .ok c') (k : Key) :
    Entries.get? (some k) c'.entries =
      if label key threshold = some k then some names else Entries.get? (some k) c.entries := by
  rcases insert_cases stored with ⟨unlabelled, rfl⟩ | ⟨l, labelled, rfl⟩
  · simp [unlabelled, Entries.get?_append, Entries.get?]
  · simp [labelled, Entries.get?_put, eq_comm]

/-- An insertion adds an entry unless there is one under its label. -/
private theorem size_insert (stored : c.insert key threshold names = .ok c') :
    c'.size = c.size +
      if ((label key threshold).bind fun k => Entries.get? (some k) c.entries).isSome then 0 else 1 := by
  rcases insert_cases stored with ⟨unlabelled, rfl⟩ | ⟨k, labelled, rfl⟩
  · rw [unlabelled]
    exact List.length_append
  · rw [labelled]
    exact Entries.length_put _ _ _

/-- What the entries of a cache have to do with a ledger. -/
structure Keeps (c : Cache) (l : Ledger) : Prop where
  admitted : ∀ line ∈ l, ¬ Refused line.key line.threshold
  entries : ∀ k, Entries.get? (some k) c.entries =
    (l.find? fun line => label line.key line.threshold = some k).map (·.names)
  size : c.size = l.pairs

theorem Keeps.empty : Keeps .empty [] where
  admitted := nofun
  entries _ := rfl
  size := rfl

namespace Keeps

variable (keeps : Keeps c l)
include keeps

/-- What a ledger says last is what the cache has under the label. -/
private theorem latest?_eq (hashable : ¬ Refused key threshold) :
    l.latest? key threshold = (label key threshold).bind fun k => Entries.get? (some k) c.entries := by
  have isFor_iff (line) (mem : line ∈ l) := Line.isFor_iff (keeps.admitted line mem) hashable
  cases h : label key threshold with
  | none =>
    rw [Ledger.latest?, List.find?_eq_none.mpr]
    · rfl
    · intro line mem isFor
      obtain ⟨k, -, some⟩ := (isFor_iff line mem).mp isFor
      cases h.symm.trans some
  | some k =>
    rw [Option.bind_some, keeps.entries, Ledger.latest?, List.find?_congr]
    intro line mem
    rw [Bool.eq_iff_iff, isFor_iff line mem, h]
    simp

private theorem lookUp_eq (key threshold : Value) : c.lookUp key threshold = l.lookUp key threshold := by
  rw [Ledger.lookUp]
  split
  next refused => rw [lookUp, slot_eq_unhashable_iff.mpr refused]
  next hashable =>
    rw [keeps.latest?_eq hashable, lookUp, label]
    cases h : slot key threshold with
    | unhashable => exact absurd (slot_eq_unhashable_iff.mp h) hashable
    | unique | key => rfl

/-- A result that is written down is kept. -/
theorem insert (hashable : ¬ Refused key threshold) (names : List Value) :
    ∃ c', c.insert key threshold names = .ok c' ∧ Keeps c' (⟨key, threshold, names⟩ :: l) := by
  have admitted : ∀ line ∈ (⟨key, threshold, names⟩ :: l : Ledger), ¬ Refused line.key line.threshold := by
    intro line mem
    rcases List.mem_cons.mp mem with rfl | mem
    · exact hashable
    · exact keeps.admitted line mem
  obtain ⟨c', stored⟩ := exists_insert hashable c names
  refine ⟨c', stored, admitted, fun k => ?_, ?_⟩
  · rw [get?_insert stored, keeps.entries, List.find?_cons]
    by_cases h : label key threshold = some k <;> simp [h]
  · rw [size_insert stored, keeps.size, Ledger.pairs_cons, keeps.latest?_eq hashable]

/-- A value that is stored is kept, or refused on both sides. -/
theorem store (key threshold result : Value) :
    (∃ fault, c.store key threshold result = .error fault ∧ l.store key threshold result = .error fault) ∨
      ∃ c' l', c.store key threshold result = .ok c' ∧ l.store key threshold result = .ok l' ∧ Keeps c' l' := by
  rw [Cache.store, Ledger.store]
  cases result.elements? with
  | none => exact .inl ⟨_, rfl, rfl⟩
  | some names =>
    by_cases refused : Refused key threshold
    · exact .inl ⟨_, insert_of_refused refused c names, if_pos refused⟩
    · obtain ⟨c', stored, keeps'⟩ := keeps.insert refused names
      exact .inr ⟨c', _, stored, if_neg refused, keeps'⟩

theorem resolve (r : Request σ) :
    (c.perform (.resolve r)).1 = (l.resolve r).1 ∧ Keeps (c.perform (.resolve r)).2 (l.resolve r).2 := by
  simp only [Cache.perform, getOrResolve, Ledger.resolve, keeps.lookUp_eq, Request.resolution]
  rcases found : l.lookUp r.key r.threshold with fault | _ | names
  · exact ⟨rfl, keeps⟩
  · have hashable : ¬ Refused r.key r.threshold := by
      intro refused
      rw [Ledger.lookUp, if_pos refused] at found
      cases found
    rcases Availability.resolve r.metadata r.token r.threshold Availability.registry
      (r.progress.note (.cacheMiss r.key r.threshold)) with ⟨fault | names, s⟩
    · exact ⟨rfl, keeps⟩
    · simp only
      rcases s.poll r.token with ⟨fault | _ | _, s⟩
      · exact ⟨rfl, keeps⟩
      · obtain ⟨c', stored, keeps'⟩ := keeps.insert hashable names
        rw [stored]
        exact ⟨rfl, keeps'⟩
      · exact ⟨rfl, keeps⟩
  · exact ⟨rfl, keeps⟩

/-- A call gets the same reply from both, and they go together afterwards. -/
theorem perform (call : Call σ) :
    (c.perform call).1 = (l.perform call).1 ∧ Keeps (c.perform call).2 (l.perform call).2 := by
  cases call with
  | get key threshold => exact ⟨congrArg _ (keeps.lookUp_eq key threshold), keeps⟩
  | set key threshold result =>
    rw [Cache.perform, Ledger.perform]
    rcases keeps.store key threshold result with ⟨fault, hc, hl⟩ | ⟨c', l', hc, hl, keeps'⟩
    · rw [hc, hl]
      exact ⟨rfl, keeps⟩
    · rw [hc, hl]
      exact ⟨rfl, keeps'⟩
  | clear => exact ⟨rfl, .empty⟩
  | size => exact ⟨congrArg _ keeps.size, keeps⟩
  | resolve r => exact keeps.resolve r

/-- So do calls in a row. -/
theorem serve (calls : List (Call σ)) :
    (Cache.serve Cache.perform c calls).1 = (Cache.serve Ledger.perform l calls).1 ∧
      Keeps (Cache.serve Cache.perform c calls).2 (Cache.serve Ledger.perform l calls).2 := by
  induction calls generalizing c l with
  | nil => exact ⟨rfl, keeps⟩
  | cons call rest ih =>
    obtain ⟨reply, keeps'⟩ := keeps.perform call
    obtain ⟨replies, keeps''⟩ := ih keeps'
    exact ⟨congrArg₂ _ reply replies, keeps''⟩

end Keeps

/-- A request that is refused, or for which something is kept, asks its host nothing. -/
private theorem asked_of_lookUp {r : Request σ} (h : c.lookUp r.key r.threshold ≠ .ok none) : c.asked r = [] := by
  rw [asked, getOrResolve]
  split
  · rfl
  · rfl
  · contradiction

/-- A request leaves a cache as it is, or its result is inserted. -/
private theorem getOrResolve_cases {r : Request σ} {result : Except Fault (List Value)} {progress : Progress σ}
    (run : c.getOrResolve r.key r.threshold r.metadata r.token r.progress = (result, c', progress)) :
    c' = c ∨ ∃ names, result = .ok names ∧ c.insert r.key r.threshold names = .ok c' := by
  obtain ⟨_, -, -, obtained⟩ := c.getOrResolve_observed r.key r.threshold r.metadata r.token r.progress []
  rw [run] at obtained
  cases obtained with
  | refused | hit | failed | unpolled | dropped => exact .inl rfl
  | stored _ _ stored => exact .inr ⟨_, rfl, stored⟩

/-- A call that fails leaves the cache as it is. -/
private theorem perform_of_fault {call : Call σ} {fault : Fault} (failed : (c.perform call).1.fault? = some fault) :
    (c.perform call).2 = c := by
  cases call with
  | get | size => rfl
  | clear => cases failed
  | set key threshold result =>
    rcases stored : c.store key threshold result with fault' | c' <;> simp only [perform, stored] at failed ⊢
    cases failed
  | resolve r =>
    rcases run : c.getOrResolve r.key r.threshold r.metadata r.token r.progress with ⟨result, c', progress⟩
    simp only [perform, run] at failed ⊢
    rcases getOrResolve_cases run with same | ⟨names, rfl, -⟩
    · exact same
    · cases failed

private theorem lookUp_insert_of_other (stored : c.insert key threshold names = .ok c')
    (other : ¬ (key.same key' = true ∧ threshold.same threshold' = true)) :
    c'.lookUp key' threshold' = c.lookUp key' threshold' := by
  have hashable : ¬ Refused key threshold := by
    intro refused
    cases stored.symm.trans (insert_of_refused refused c names)
  unfold lookUp
  cases h : slot key' threshold' with
  | unhashable | unique => rfl
  | key k =>
    have hashable' : ¬ Refused key' threshold' := by
      rw [← slot_eq_unhashable_iff, h]
      exact Identity.noConfusion
    have apart : label key threshold ≠ some k := fun labelled =>
      other ((same_iff_label hashable hashable').mpr ⟨k, labelled, label_eq_some_iff.mpr h⟩)
    exact congrArg Except.ok ((get?_insert stored k).trans (if_neg apart))

/-- A call about other pairs changes nothing for this one. -/
private theorem lookUp_perform_of_spares {call : Call σ} (spares : call.Spares key threshold) :
    (c.perform call).2.lookUp key threshold = c.lookUp key threshold := by
  cases call with
  | get | size => rfl
  | clear => cases spares
  | set k t result =>
    rcases stored : c.store k t result with fault' | c' <;> simp only [perform, stored]
    rw [store] at stored
    split at stored
    · exact lookUp_insert_of_other stored spares
    · cases stored
  | resolve r =>
    rcases run : c.getOrResolve r.key r.threshold r.metadata r.token r.progress with ⟨result, c', progress⟩
    simp only [perform, run]
    rcases getOrResolve_cases run with rfl | ⟨names, -, stored⟩
    · rfl
    · exact lookUp_insert_of_other stored spares

/-- Through any calls in a row, a cache gives the replies that a ledger gives of what was stored since it was last
cleared: a look-up finds what was stored last for a key and a threshold that are equal to the ones given, the size is
the number of different pairs, and a request gets what is there, or else what the resolution comes to, which is stored
if the poll afterwards says to go on. A request that is refused or finds something asks its host nothing, a call that
fails leaves the cache as it is, and a call about one pair changes nothing for another. A stream is a new one wherever
it is mentioned and, like the undefined number, not equal to anything, so that what is stored for it only counts. -/
theorem serve_eq_ledger (calls : List (Call σ)) :
    let c := (serve perform .empty calls).2
    let l := (serve Ledger.perform [] calls).2
    (serve perform .empty calls).1 = (serve Ledger.perform [] calls).1 ∧
    (∀ r : Request σ, Refused r.key r.threshold ∨ (l.latest? r.key r.threshold).isSome = true → c.asked r = []) ∧
    ∀ call : Call σ,
      (∀ fault, (c.perform call).1.fault? = some fault → (c.perform call).2 = c) ∧
      ∀ key threshold, call.Spares key threshold →
        (c.perform call).2.lookUp key threshold = c.lookUp key threshold := by
  obtain ⟨replies, keeps⟩ := Keeps.empty.serve calls
  refine ⟨replies, ?_, fun call => ⟨fun fault => perform_of_fault, fun key threshold => lookUp_perform_of_spares⟩⟩
  intro r found
  apply asked_of_lookUp
  rw [keeps.lookUp_eq, Ledger.lookUp]
  split
  · exact nofun
  next hashable =>
    intro absent
    rw [Except.ok.inj absent] at found
    rcases found with refused | kept
    · exact hashable refused
    · cases kept

/-- Nothing is found only if nothing is stored: an empty result is one, also for the same threshold in other words. -/
example : (serve perform .empty
    [.set (.text "corlib") (.version .csharp8) (.tuple []), .get (.text "corlib") (.int 800), .size] :
      List (Reply Unit) × Cache).1 = [.done (.ok ()), .found (.ok (some [])), .counted 1] := rfl

end TypeForward.Cache
