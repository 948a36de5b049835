import TypeForward.Proofs.Settings.Encoding

/-! Telling the names in a text apart and joining names to a text. Each undoes the other where it can: what is told
apart are names that can be joined, and what is joined is told apart again, whichever separators stand between. -/
namespace TypeForward.Settings

/-- Some text, without white space at its ends and without a separator. -/
structure IsPiece (name : String) : Prop where
  some : name ≠ ""
  front : ∀ c ∈ name.toList.head?, Text.isBlank c = false
  back : ∀ c ∈ name.toList.getLast?, Text.isBlank c = false
  whole : ';' ∉ name.toList ∧ ',' ∉ name.toList

private theorem isSeparator_iff {c : Char} : isSeparator c = true ↔ c = ';' ∨ c = ',' := by
  simp [isSeparator]

/-- These are the names that can stand in a text of names. -/
private theorem isPiece_iff_isListable {name : String} : IsPiece name ↔ IsListable name := by
  have trimmed : Text.trim name = name ↔ (∀ c ∈ name.toList.head?, Text.isBlank c = false) ∧
      ∀ c ∈ name.toList.getLast?, Text.isBlank c = false := by
    rw [← Text.trimmed_eq_self_iff, ← String.toList_inj, Text.toList_trim]
  have whole : (';' ∉ name.toList ∧ ',' ∉ name.toList) ↔ ∀ c ∈ name.toList, isSeparator c = false := by
    simp only [← Bool.not_eq_true, isSeparator_iff, not_or]
    constructor
    · rintro ⟨semicolon, comma⟩ c mem
      exact ⟨fun same => semicolon (same ▸ mem), fun same => comma (same ▸ mem)⟩
    · intro others
      exact ⟨fun mem => (others _ mem).1 rfl, fun mem => (others _ mem).2 rfl⟩
  constructor
  · intro piece
    have same := trimmed.mpr ⟨piece.front, piece.back⟩
    refine ⟨same, ?_, whole.mp piece.whole⟩
    rw [← Bool.not_eq_true, Text.isBlankText_iff, ← Text.trimmed_eq_nil_iff, ← Text.toList_trim, same,
      String.toList_eq_nil_iff]
    exact piece.some
  · intro listable
    obtain ⟨front, back⟩ := trimmed.mp listable.trimmed
    refine ⟨?_, front, back, whole.mpr listable.whole⟩
    rintro rfl
    cases listable.some

/-- What is told apart in a text can stand in a text of names. -/
private theorem isListable_of_mem_namesIn {text name : String} (mem : name ∈ namesIn text) : IsListable name := by
  obtain ⟨cs, kept, rfl⟩ := List.mem_map.mp mem
  obtain ⟨trimmed, some⟩ := List.mem_filter.mp kept
  obtain ⟨piece, among, rfl⟩ := List.mem_map.mp trimmed
  have same : Text.trimmed (Text.trimmed piece) = Text.trimmed piece := Text.trimmed_trimmed piece
  refine ⟨?_, ?_, ?_⟩
  · rw [Text.trim, String.toList_ofList, same]
  · rw [← Bool.not_eq_true, Text.isBlankText_iff, String.toList_ofList, ← Text.trimmed_eq_nil_iff, same]
    simpa using some
  · intro c mem
    rw [String.toList_ofList] at mem
    obtain ⟨front, back, -, -, split⟩ := Text.exists_trimmed piece
    refine Text.whole_of_mem_pieces among c ?_
    rw [split]
    simp [mem]

private theorem namesIn_append_separator (front back : String) {c : Char} (cuts : isSeparator c = true) :
    namesIn (front ++ String.singleton c ++ back) = namesIn front ++ namesIn back := by
  have split : (front ++ String.singleton c ++ back).toList = front.toList ++ c :: back.toList := by simp
  rw [namesIn, split, nameChars_append_separator _ cuts, List.map_append]
  rfl

/-- Joined names are told apart again, also with white space around all of them. -/
private theorem Joined.namesIn_padded {names : List String} {cs before after : List Char} (joined : Joined names cs)
    (listable : ∀ n ∈ names, IsListable n) (blank : Text.Blank before) (blank' : Text.Blank after) :
    namesIn (String.ofList (before ++ cs ++ after)) = names := by
  rw [namesIn, String.toList_ofList, List.append_assoc, nameChars_append_blank blank,
    joined.nameChars_append listable blank', List.map_map]
  simp

private theorem joined_semicolons (names : List String) : Joined names (String.intercalate ";" names).toList := by
  have joined := joined_intercalate (c := ';') rfl names
  rwa [String.toList_intercalate]

/-- The names told apart in a text are not empty, have no white space at their ends and no separator in them. Of two
texts with a separator between them they are those of the first and then those of the second. Such names joined by
separators, each of either kind and with any white space around it, are told apart again. So names that are told apart,
joined by semicolons and told apart again are the same. -/
theorem namesIn_inverts_joining :
    (∀ text, ∀ name ∈ namesIn text, IsPiece name) ∧
      (∀ (front back : String) (c : Char), c = ';' ∨ c = ',' →
        namesIn (front ++ String.singleton c ++ back) = namesIn front ++ namesIn back) ∧
      (∀ (names : List String) (before cs after : List Char), (∀ n ∈ names, IsPiece n) → Joined names cs →
        Text.Blank before → Text.Blank after → namesIn (String.ofList (before ++ cs ++ after)) = names) ∧
      ∀ text, namesIn (String.intercalate ";" (namesIn text)) = namesIn text := by
  refine ⟨?_, ?_, ?_, ?_⟩
  · intro text name mem
    exact isPiece_iff_isListable.mpr (isListable_of_mem_namesIn mem)
  · intro front back c separator
    exact namesIn_append_separator front back (isSeparator_iff.mpr separator)
  · intro names before cs after pieces joined blank blank'
    exact joined.namesIn_padded (fun n mem => isPiece_iff_isListable.mp (pieces n mem)) blank blank'
  · intro text
    exact (joined_semicolons _).namesIn_eq fun n mem => isListable_of_mem_namesIn mem

/-- Two names, one with a space inside, joined by a comma among white space of other scripts and with a line end behind
them; and a text with separators side by side, cut at a comma before its blank end. -/
theorem namesIn_inverts_joining_spaced :
    namesIn " A.B\u2003,\u00a0C D\n" = ["A.B", "C D"] ∧ namesIn "A;;B, " = namesIn "A;;B" ++ namesIn " " := by
  obtain ⟨-, separated, joined, -⟩ := namesIn_inverts_joining
  have pieces : ∀ n ∈ ["A.B", "C D"], IsPiece n := by
    have first : IsPiece "A.B" := ⟨by decide, fun c mem => by cases mem; rfl, fun c mem => by cases mem; rfl, by decide⟩
    have second : IsPiece "C D" :=
      ⟨by decide, fun c mem => by cases mem; rfl, fun c mem => by cases mem; rfl, by decide⟩
    exact List.forall_mem_cons.mpr ⟨first, List.forall_mem_singleton.mpr second⟩
  have spaced : Joined ["A.B", "C D"] ("A.B".toList ++ ['\u2003'] ++ ',' :: (['\u00a0'] ++ "C D".toList)) :=
    .cons "A.B" ['\u2003'] ',' ['\u00a0'] (by decide) rfl (by decide) (.single "C D")
  have text : " A.B\u2003,\u00a0C D\n" =
      String.ofList ([' '] ++ ("A.B".toList ++ ['\u2003'] ++ ',' :: (['\u00a0'] ++ "C D".toList)) ++ ['\n']) := by
    rw [← String.toList_inj, String.toList_ofList]
    rfl
  constructor
  · rw [text]
    exact joined _ [' '] _ ['\n'] pieces spaced (by decide) (by decide)
  · exact separated "A;;B" " " ',' (.inr rfl)

end TypeForward.Settings
