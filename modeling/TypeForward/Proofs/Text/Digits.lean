import TypeForward.Text.Digit

/-! Runs of digits, of any script and mixed. A run that nothing lengthens is taken as a whole, and the numeral of a
number in basic Latin digits writes that number. -/
namespace TypeForward.Text

variable {cs rest : List Char} {ds : List Nat}

/-- The characters are digits with these values. -/
def Digits (cs : List Char) (ds : List Nat) : Prop :=
  cs.map digitValue? = ds.map some

theorem digits_cons {c : Char} {d : Nat} : Digits (c :: cs) (d :: ds) ↔ digitValue? c = some d ∧ Digits cs ds := by
  simp [Digits]

theorem Digits.length_eq (digits : Digits cs ds) : cs.length = ds.length := by
  have same := congrArg List.length digits
  rwa [List.length_map, List.length_map] at same

theorem Digits.exists_value (digits : Digits cs ds) {c : Char} (mem : c ∈ cs) : ∃ d, digitValue? c = some d := by
  have value : digitValue? c ∈ ds.map some := digits ▸ List.mem_map_of_mem mem
  obtain ⟨d, -, same⟩ := List.mem_map.mp value
  exact ⟨d, same.symm⟩

/-- No digit stands in front. -/
def Undigited (cs : List Char) : Prop :=
  ∀ c ∈ cs.head?, digitValue? c = none

private theorem takeDigits_of_undigited (stop : Undigited rest) : takeDigits rest = ([], rest) := by
  cases rest with
  | nil => rfl
  | cons c rest =>
    have none : digitValue? c = none := stop c rfl
    simp [takeDigits, none]

theorem takeDigits_append (digits : Digits cs ds) (stop : Undigited rest) : takeDigits (cs ++ rest) = (ds, rest) := by
  induction cs generalizing ds with
  | nil =>
    obtain rfl : ds = [] := List.map_eq_nil_iff.mp digits.symm
    exact takeDigits_of_undigited stop
  | cons c cs ih =>
    cases ds with
    | nil => cases digits
    | cons d ds =>
      obtain ⟨value, digits⟩ := digits_cons.mp digits
      simp [takeDigits, value, ih digits]

/-- What is taken is a run of digits, and what is left does not begin with one. -/
theorem takeDigits_split (cs : List Char) :
    ∃ run, cs = run ++ (takeDigits cs).2 ∧ Digits run (takeDigits cs).1 ∧ Undigited (takeDigits cs).2 := by
  induction cs with
  | nil => exact ⟨[], rfl, rfl, by simp [takeDigits, Undigited]⟩
  | cons c cs ih =>
    cases value : digitValue? c with
    | none => exact ⟨[], by simp [takeDigits, value], by simp [takeDigits, value, Digits], by
        simp [takeDigits, value, Undigited]⟩
    | some d =>
      obtain ⟨run, split, digits, stop⟩ := ih
      refine ⟨c :: run, ?_, ?_, ?_⟩
      · simpa [takeDigits, value] using split
      · simpa [takeDigits, value] using digits_cons.mpr ⟨value, digits⟩
      · simpa [takeDigits, value] using stop

theorem digitValue?_digitChar {d : Nat} (h : d < 10) : digitValue? (Nat.digitChar d) = some d := by
  have all : ∀ d < 10, digitValue? (Nat.digitChar d) = some d := by decide
  exact all d h

theorem digits_digitChar (small : ∀ d ∈ ds, d < 10) : Digits (ds.map Nat.digitChar) ds := by
  rw [Digits, List.map_map]
  exact List.map_congr_left fun d mem => digitValue?_digitChar (small d mem)

private theorem numberOf_append_singleton (ds : List Nat) (d : Nat) : numberOf (ds ++ [d]) = 10 * numberOf ds + d := by
  simp [numberOf]

/-- The digits of the numeral of a number. -/
theorem exists_toDigits (n : Nat) :
    ∃ ds, Nat.toDigits 10 n = ds.map Nat.digitChar ∧ (∀ d ∈ ds, d < 10) ∧ ds ≠ [] ∧ numberOf ds = n := by
  induction n using Nat.strongRecOn with
  | ind n ih =>
    by_cases h : n < 10
    · refine ⟨[n], Nat.toDigits_of_lt_base h, by simpa using h, by simp, by simp [numberOf]⟩
    · obtain ⟨ds, numeral, small, -, number⟩ := ih (n / 10) (by omega)
      refine ⟨ds ++ [n % 10], ?_, ?_, by simp, ?_⟩
      · rw [Nat.toDigits_of_base_le (by omega) (by omega), numeral, List.map_append]
        rfl
      · intro d mem
        rcases List.mem_append.mp mem with mem | mem
        · exact small d mem
        · obtain rfl := List.mem_singleton.mp mem
          omega
      · rw [numberOf_append_singleton, number]
        omega

end TypeForward.Text
