import Mathlib.Data.List.TakeWhile
import TypeForward.Text.Blank

/-! Trimming takes blank text from both ends, and only that: text that differs by blank ends is trimmed to the same, and
what is trimmed already stays as it is. -/
namespace TypeForward.Text

variable {cs front back : List Char}

instance (cs : List Char) : Decidable (Blank cs) :=
  decidable_of_iff (cs.all isBlank = true) List.all_eq_true

theorem blank_nil : Blank [] := by
  simp [Blank]

private theorem blank_append : Blank (front ++ back) ↔ Blank front ∧ Blank back := by
  simp [Blank, or_imp, forall_and]

private theorem blank_reverse : Blank cs.reverse ↔ Blank cs := by
  simp [Blank]

private theorem trimStart_append_of_blank (blank : Blank front) : trimStart (front ++ cs) = trimStart cs :=
  List.dropWhile_append_of_pos blank

private theorem trimEnd_append_of_blank (blank : Blank back) : trimEnd (cs ++ back) = trimEnd cs := by
  rw [trimEnd, List.reverse_append, trimStart_append_of_blank (blank_reverse.mpr blank)]
  rfl

/-- Behind text that does not go away blank text plays no part at the start. -/
private theorem trimStart_append (some : trimStart cs ≠ []) : trimStart (cs ++ back) = trimStart cs ++ back := by
  have kept : (cs.dropWhile isBlank).isEmpty = false := by simpa [trimStart] using some
  rw [trimStart, List.dropWhile_append, kept]
  rfl

private theorem exists_trimStart (cs : List Char) : ∃ front, Blank front ∧ cs = front ++ trimStart cs := by
  refine ⟨cs.takeWhile isBlank, ?_, List.takeWhile_append_dropWhile.symm⟩
  intro c mem
  exact List.all_eq_true.mp List.all_takeWhile c mem

private theorem exists_trimEnd (cs : List Char) : ∃ back, Blank back ∧ cs = trimEnd cs ++ back := by
  obtain ⟨front, blank, split⟩ := exists_trimStart cs.reverse
  refine ⟨front.reverse, blank_reverse.mpr blank, ?_⟩
  rw [trimEnd, ← List.reverse_append, ← split, List.reverse_reverse]

/-- What is cut off is blank. -/
theorem exists_trimmed (cs : List Char) :
    ∃ front back, Blank front ∧ Blank back ∧ cs = front ++ trimmed cs ++ back := by
  obtain ⟨front, blank, split⟩ := exists_trimStart cs
  obtain ⟨back, blank', split'⟩ := exists_trimEnd (trimStart cs)
  refine ⟨front, back, blank, blank', ?_⟩
  rw [trimmed, List.append_assoc, ← split', ← split]

theorem length_trimmed_le (cs : List Char) : (trimmed cs).length ≤ cs.length := by
  obtain ⟨front, back, -, -, split⟩ := exists_trimmed cs
  have length := congrArg List.length split
  rw [List.length_append, List.length_append] at length
  omega

theorem trimmed_eq_nil_iff : trimmed cs = [] ↔ Blank cs := by
  constructor
  · intro none
    obtain ⟨front, back, blank, blank', split⟩ := exists_trimmed cs
    rw [none, List.append_nil] at split
    rw [split]
    exact blank_append.mpr ⟨blank, blank'⟩
  · exact trimmed_of_blank

/-- Blank ends make no difference. -/
theorem trimmed_padded (blank : Blank front) (blank' : Blank back) : trimmed (front ++ cs ++ back) = trimmed cs := by
  by_cases all : Blank cs
  · rw [trimmed_of_blank all, trimmed_of_blank (blank_append.mpr ⟨blank_append.mpr ⟨blank, all⟩, blank'⟩)]
  · have some : trimStart cs ≠ [] := by
      intro none
      exact all (trimmed_eq_nil_iff.mp (by rw [trimmed, none]; rfl))
    rw [trimmed, List.append_assoc, trimStart_append_of_blank blank, trimStart_append some,
      trimEnd_append_of_blank blank', trimmed]

theorem trimmed_append_left (blank : Blank front) : trimmed (front ++ cs) = trimmed cs := by
  simpa using trimmed_padded blank blank_nil

theorem trimmed_append_right (blank : Blank back) : trimmed (cs ++ back) = trimmed cs := by
  simpa using trimmed_padded blank_nil blank

/-- Text without white space has nothing to trim. -/
theorem trimmed_of_solid (solid : ∀ c ∈ cs, isBlank c = false) : trimmed cs = cs := by
  have nothing {run : List Char} (blank : Blank run) (sub : run ⊆ cs) : run = [] := by
    refine List.eq_nil_iff_forall_not_mem.mpr fun c mem => ?_
    have none := solid c (sub mem)
    rw [blank c mem] at none
    cases none
  obtain ⟨front, back, blank, blank', split⟩ := exists_trimmed cs
  obtain rfl : front = [] := nothing blank (by rw [split]; simp)
  obtain rfl : back = [] := nothing blank' (by rw [split]; simp)
  simpa using split.symm

theorem trimmed_trimmed (cs : List Char) : trimmed (trimmed cs) = trimmed cs := by
  obtain ⟨front, back, blank, blank', split⟩ := exists_trimmed cs
  calc
    trimmed (trimmed cs) = trimmed (front ++ trimmed cs ++ back) := (trimmed_padded blank blank').symm
    _ = trimmed cs := by rw [← split]

/-- Nothing is trimmed exactly if neither end is blank. -/
theorem trimmed_eq_self_iff :
    trimmed cs = cs ↔ (∀ c ∈ cs.head?, isBlank c = false) ∧ ∀ c ∈ cs.getLast?, isBlank c = false := by
  have start (cs : List Char) : trimStart cs = cs ↔ ∀ c ∈ cs.head?, isBlank c = false := by
    rw [trimStart, List.dropWhile_eq_self_iff]
    cases cs <;> simp
  have ending : trimEnd cs = cs ↔ ∀ c ∈ cs.getLast?, isBlank c = false := by
    rw [trimEnd, List.reverse_eq_iff, start, List.head?_reverse]
  rw [← start, ← ending]
  constructor
  · intro same
    obtain ⟨front, -, split⟩ := exists_trimStart cs
    obtain ⟨back, -, split'⟩ := exists_trimEnd (trimStart cs)
    have whole : trimStart cs = cs := by
      have length := congrArg List.length split
      have length' := congrArg List.length split'
      rw [← trimmed, same] at length'
      rw [List.length_append] at length length'
      obtain rfl : front = [] := List.length_eq_zero_iff.mp (by omega)
      exact split.symm
    rw [trimmed, whole] at same
    exact ⟨whole, same⟩
  · rintro ⟨whole, whole'⟩
    rw [trimmed, whole, whole']

theorem trim_trim (s : String) : trim (trim s) = trim s := by
  rw [← String.toList_inj, toList_trim, toList_trim, trimmed_trimmed]

theorem isBlankText_trim (s : String) : isBlankText (trim s) = isBlankText s := by
  rw [Bool.eq_iff_iff, isBlankText_iff, isBlankText_iff, ← trimmed_eq_nil_iff, ← trimmed_eq_nil_iff, toList_trim,
    trimmed_trimmed]

end TypeForward.Text
