/-! Cutting text at separators and joining it again. -/
namespace TypeForward.Text

/-- The pieces between separators, one more than there are separators. -/
def pieces (isSeparator : Char → Bool) : List Char → List (List Char)
  | [] => [[]]
  | c :: cs =>
    if isSeparator c then [] :: pieces isSeparator cs
    else match pieces isSeparator cs with
      | [] => [[c]]
      | piece :: rest => (c :: piece) :: rest

theorem pieces_ne_nil (isSeparator : Char → Bool) (cs : List Char) : pieces isSeparator cs ≠ [] := by
  induction cs with
  | nil => simp [pieces]
  | cons c cs ih =>
    by_cases h : isSeparator c
    · simp [pieces, h]
    · cases hp : pieces isSeparator cs <;> simp [pieces, h, hp]

/-- No separator is left in a piece. -/
theorem whole_of_mem_pieces {isSeparator : Char → Bool} {cs piece : List Char} (mem : piece ∈ pieces isSeparator cs) :
    ∀ c ∈ piece, isSeparator c = false := by
  induction cs generalizing piece with
  | nil =>
    obtain rfl := List.mem_singleton.mp mem
    simp
  | cons c cs ih =>
    by_cases cuts : isSeparator c
    · rw [pieces, if_pos cuts] at mem
      rcases List.mem_cons.mp mem with rfl | mem
      · simp
      · exact ih mem
    · obtain ⟨first, rest, split⟩ := List.exists_cons_of_ne_nil (pieces_ne_nil isSeparator cs)
      rw [pieces, if_neg cuts, split] at mem
      rw [split] at ih
      rcases List.mem_cons.mp mem with rfl | mem
      · exact List.forall_mem_cons.mpr ⟨by simpa using cuts, ih List.mem_cons_self⟩
      · exact ih (List.mem_cons_of_mem _ mem)

/-- A separator cuts. -/
theorem pieces_append_separator {isSeparator : Char → Bool} (front : List Char) {c : Char} (cuts : isSeparator c = true)
    (back : List Char) :
    pieces isSeparator (front ++ c :: back) = pieces isSeparator front ++ pieces isSeparator back := by
  induction front with
  | nil => simp [pieces, cuts]
  | cons first rest ih =>
    by_cases h : isSeparator first
    · simp [pieces, h, ih]
    · cases hp : pieces isSeparator rest with
      | nil => exact absurd hp (pieces_ne_nil _ _)
      | cons piece more => simp [pieces, h, ih, hp]

/-- What has no separator in it goes to the first piece. -/
theorem pieces_append {isSeparator : Char → Bool} {front : List Char} (whole : ∀ c ∈ front, isSeparator c = false)
    (cs : List Char) : ∃ piece rest, pieces isSeparator cs = piece :: rest ∧
      pieces isSeparator (front ++ cs) = (front ++ piece) :: rest := by
  induction front with
  | nil =>
    obtain ⟨piece, rest, split⟩ := List.exists_cons_of_ne_nil (pieces_ne_nil isSeparator cs)
    exact ⟨piece, rest, split, split⟩
  | cons first others ih =>
    obtain ⟨own, whole⟩ := List.forall_mem_cons.mp whole
    obtain ⟨piece, rest, split, split'⟩ := ih whole
    exact ⟨piece, rest, split, by simp [pieces, own, split']⟩

theorem pieces_of_whole {isSeparator : Char → Bool} {cs : List Char} (whole : ∀ c ∈ cs, isSeparator c = false) :
    pieces isSeparator cs = [cs] := by
  obtain ⟨piece, rest, split, split'⟩ := pieces_append whole []
  cases split
  simpa using split'

end TypeForward.Text
