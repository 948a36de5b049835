import TypeForward.Cache

/-! What the entries of a cache are kept under. For integer thresholds the key and the threshold can be told from it,
up to equality. -/
namespace TypeForward

/-- Integers of all types are one number as keys. -/
private theorem Value.identity_of_integer {v : Value} {n : Int} (h : v.toInt? = some n) :
    v.identity = .key [.number n] := by
  cases v with
  | bool b =>
    obtain rfl : (if b then 1 else 0) = n := Option.some.inj h
    cases b <;> rfl
  | int m => obtain rfl : m = n := Option.some.inj h; rfl
  | version v => obtain rfl : (v.code : Int) = n := Option.some.inj h; rfl
  | none | real | text | octets | moment | list | tuple | stream | set | frozenSet | table => cases h

namespace Cache

variable {c c' : Cache} {key key' threshold threshold' : Value} {names : List Value}

/-- What an entry for a key at a threshold is kept under; nothing for one that equals nothing. -/
def label (key threshold : Value) : Option Key :=
  match slot key threshold with
  | .key k => some k
  | _ => none

private theorem slot_of_integer {n : Int} (h : threshold.toInt? = some n) :
    slot key threshold = (Identity.key [.tuple 2]).append (key.identity.append (.key [.number n])) := by
  rw [slot, Value.identity, Value.identityAll, Value.identityAll, Value.identityAll, Value.identity_of_integer h]
  rfl

/-- The key and the number of a threshold can be told from the label. -/
theorem key_of_label {n n' : Int} (h : threshold.toInt? = some n) (h' : threshold'.toInt? = some n') {k : Key}
    (known : label key threshold = some k) (known' : label key' threshold' = some k) :
    n = n' ∧ ∃ κ, key.identity = .key κ ∧ key'.identity = .key κ := by
  rw [label, slot_of_integer h] at known
  rw [label, slot_of_integer h'] at known'
  cases hk : key.identity with
  | unhashable | unique => rw [hk] at known; cases known
  | key κ =>
    cases hk' : key'.identity with
    | unhashable | unique => rw [hk'] at known'; cases known'
    | key κ' =>
      rw [hk] at known
      rw [hk'] at known'
      have same : κ ++ [.number n] = κ' ++ [.number n'] := by
        have both := Option.some.inj (known.trans known'.symm)
        simpa using both
      obtain ⟨rfl, last⟩ := List.append_inj' same rfl
      have numbers : (n : Rat) = n' := by simpa using last
      exact ⟨by exact_mod_cast numbers, κ, rfl, rfl⟩

/-- With a hashable key and an integer threshold a look-up does not fail. -/
theorem lookUp_of_integer {n : Int} (h : threshold.toInt? = some n) (hashable : key.identity ≠ .unhashable)
    (c : Cache) : ∃ found, c.lookUp key threshold = .ok found := by
  rw [lookUp, slot_of_integer h]
  cases hk : key.identity with
  | unhashable => exact absurd hk hashable
  | unique => exact ⟨_, rfl⟩
  | key κ => exact ⟨_, rfl⟩

/-- What is found is an entry under the label. -/
theorem mem_of_lookUp (h : c.lookUp key threshold = .ok (some names)) :
    ∃ k, label key threshold = some k ∧ (some k, names) ∈ c.entries := by
  rw [lookUp] at h
  cases hs : slot key threshold with
  | unhashable | unique => rw [hs] at h; cases h
  | key k =>
    rw [hs] at h
    exact ⟨k, by rw [label, hs], Entries.mem_of_get? (Except.ok.inj h)⟩

/-- An insertion adds no entry but the one under the label. -/
theorem mem_insert (h : c.insert key threshold names = .ok c') {entry : Option Key × List Value}
    (mem : entry ∈ c'.entries) : entry = (label key threshold, names) ∨ entry ∈ c.entries := by
  rw [insert] at h
  cases hs : slot key threshold with
  | unhashable => rw [hs] at h; cases h
  | unique =>
    rw [hs] at h
    obtain rfl := Except.ok.inj h
    rw [label, hs]
    rcases List.mem_append.mp mem with mem | mem
    · exact .inr mem
    · exact .inl (List.mem_singleton.mp mem)
  | key k =>
    rw [hs] at h
    obtain rfl := Except.ok.inj h
    rw [label, hs]
    exact Entries.mem_put mem

end Cache

end TypeForward
