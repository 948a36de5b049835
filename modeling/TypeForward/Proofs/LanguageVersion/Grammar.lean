import TypeForward.Proofs.LanguageVersion.Refusal
import TypeForward.Proofs.Text.Letters

/-! The texts that are written for a major and a minor number, as they stand before they are trimmed and put in small
letters. All texts for the same numbers are parsed alike, and there are no others but the aliases that are accepted. -/
namespace TypeForward.LanguageVersion
open Text

/-- Digits for a number, in any script and with any leading zeros, but not too many. -/
def IsNumeral (run : List Char) (n : Nat) : Prop :=
  ∃ ds, Digits run ds ∧ ds ≠ [] ∧ ds.length ≤ digitLimit ∧ numberOf ds = n

/-- The minor number follows a point or an underscore. It may be left out if it is zero. -/
inductive WritesMinor : List Char → Nat → Prop where
  | omitted : WritesMinor [] 0
  | written {c : Char} {run : List Char} {minor : Nat} (separator : c = '.' ∨ c = '_') (numeral : IsNumeral run minor) :
      WritesMinor (c :: run) minor

/-- A text for a major and a minor number: the name of the language in any case or nothing, the digits of the major
number and the minor part, with any white space around all of it. -/
def Writes (s : String) (major minor : Nat) : Prop :=
  ∃ before name run rest after, s.toList = before ++ (name ++ (run ++ rest)) ++ after ∧ Blank before ∧ Blank after ∧
    (name = [] ∨ name.map Char.toLower = Spelling.languageName) ∧ IsNumeral run major ∧ WritesMinor rest minor

/-- Runs of digits in the text are not too long. -/
def HasShortRuns (s : String) : Prop :=
  ∀ before run after, s.toList = before ++ run ++ after → (∀ c ∈ run, isDigit c = true) → run.length ≤ digitLimit

/-- The text is refused as no version. -/
def IsRefused (s : String) : Prop :=
  parse (.text s) = .error (.configuration (.unknownVersion (.text s)))

def aliases : List String := ["default", "latest", "latestmajor", "preview"]

private theorem alias?_eq_none_iff {name : String} : alias? name = none ↔ name ∉ aliases := by
  by_cases known : name ∈ aliases
  · have all : ∀ name ∈ aliases, alias? name ≠ none := by decide
    exact ⟨fun none => absurd none (all name known), fun other => absurd known other⟩
  · simp_all [alias?, aliases]

namespace Spelling

/-- No alias is a spelling of numbers. -/
private theorem IsOf.alias?_eq_none {name : String} {w : Spelling} (isOf : w.IsOf name.toList) :
    alias? name = none := by
  have read := read?_eq_some_iff.mpr isOf
  rw [alias?_eq_none_iff]
  intro mem
  have unread : ∀ name ∈ aliases, read? name.toList = none := by decide
  rw [unread name mem] at read
  cases read

private theorem toLower_eq_separator (c : Char) : (c.toLower = '.' ∨ c.toLower = '_') ↔ (c = '.' ∨ c = '_') := by
  refine forall_of_capitals (p := fun c => (c.toLower = '.' ∨ c.toLower = '_') ↔ (c = '.' ∨ c = '_')) (by decide) ?_ c
  intro c same
  rw [same]

private theorem isMinor_map_toLower {rest : List Char} {minor : Option (List Nat)} :
    IsMinor (rest.map Char.toLower) minor ↔ IsMinor rest minor := by
  constructor
  · intro isMinor
    cases rest with
    | nil => exact isMinor
    | cons c rest =>
      cases isMinor with
      | written separator digits nonempty =>
        exact .written ((toLower_eq_separator _).mp separator) (digits_map_toLower.mp digits) nonempty
  · intro isMinor
    cases isMinor with
    | omitted => exact .omitted
    | written separator digits nonempty =>
      exact .written ((toLower_eq_separator _).mpr separator) (digits_map_toLower.mpr digits) nonempty

/-- What is spelled in small letters, before they are small. -/
private theorem isOf_map_toLower {cs : List Char} {w : Spelling} :
    w.IsOf (cs.map Char.toLower) ↔ ∃ name run rest, cs = name ++ (run ++ rest) ∧
      (name = [] ∨ name.map Char.toLower = languageName) ∧ Digits run w.major ∧ w.major ≠ [] ∧
      IsMinor rest w.minor := by
  constructor
  · rintro ⟨name, run, rest, split, named, digits, nonempty, isMinor⟩
    obtain ⟨name, others, rfl, rfl, split'⟩ := List.map_eq_append_iff.mp split
    obtain ⟨run, rest, rfl, rfl, rfl⟩ := List.map_eq_append_iff.mp split'
    refine ⟨name, run, rest, rfl, ?_, digits_map_toLower.mp digits, nonempty, isMinor_map_toLower.mp isMinor⟩
    exact named.imp_left List.map_eq_nil_iff.mp
  · rintro ⟨name, run, rest, rfl, named, digits, nonempty, isMinor⟩
    refine ⟨name.map Char.toLower, run.map Char.toLower, rest.map Char.toLower, by simp, ?_,
      digits_map_toLower.mpr digits, nonempty, isMinor_map_toLower.mpr isMinor⟩
    exact named.imp_left List.map_eq_nil_iff.mpr

private theorem tooLong_eq_false {w : Spelling} :
    w.tooLong = false ↔ w.major.length ≤ digitLimit ∧ (w.minor.getD []).length ≤ digitLimit := by
  simp [tooLong]

end Spelling

private theorem solid_of_digits {run : List Char} {ds : List Nat} (digits : Digits run ds) :
    ∀ c ∈ run, isBlank c = false := by
  intro c mem
  obtain ⟨d, value⟩ := digits.exists_value mem
  exact isBlank_of_digitValue? value

private theorem solid_of_name {name : List Char} (named : name = [] ∨ name.map Char.toLower = Spelling.languageName) :
    ∀ c ∈ name, isBlank c = false := by
  have solid : Spelling.languageName.any isBlank = false := by decide
  rcases named with rfl | named
  · simp
  · exact solid_of_map_toLower (named ▸ solid)

private theorem solid_of_isMinor {rest : List Char} {minor : Option (List Nat)}
    (isMinor : Spelling.IsMinor rest minor) : ∀ c ∈ rest, isBlank c = false := by
  cases isMinor with
  | omitted => simp
  | written separator digits =>
    refine List.forall_mem_cons.mpr ⟨?_, solid_of_digits digits⟩
    rcases separator with rfl | rfl <;> decide

private theorem writesMinor_iff {rest : List Char} {n : Nat} :
    WritesMinor rest n ↔ ∃ minor, Spelling.IsMinor rest minor ∧ (minor.getD []).length ≤ digitLimit ∧
      numberOf (minor.getD []) = n := by
  constructor
  · intro writes
    cases writes with
    | omitted => exact ⟨none, .omitted, Nat.zero_le _, rfl⟩
    | written separator numeral =>
      obtain ⟨ds, digits, nonempty, short, number⟩ := numeral
      exact ⟨some ds, .written separator digits nonempty, short, number⟩
  · rintro ⟨minor, isMinor, short, rfl⟩
    cases isMinor with
    | omitted => exact .omitted
    | written separator digits nonempty => exact .written separator ⟨_, digits, nonempty, short, rfl⟩

/-- The text is written for numbers exactly if what is read from it, trimmed and in small letters, is a spelling of
them with not too many digits. -/
private theorem writes_iff {s : String} {major minor : Nat} :
    Writes s major minor ↔
      ∃ w : Spelling, w.IsOf (lower (trim s)).toList ∧ w.tooLong = false ∧ w.numbers = (major, minor) := by
  have small : (lower (trim s)).toList = (trimmed s.toList).map Char.toLower := by rw [toList_lower, toList_trim]
  constructor
  · rintro ⟨before, name, run, rest, after, split, blank, blank', named, ⟨ds, digits, nonempty, short, rfl⟩, writes⟩
    obtain ⟨es, isMinor, short', rfl⟩ := writesMinor_iff.mp writes
    have solid : ∀ c ∈ name ++ (run ++ rest), isBlank c = false := by
      simp only [List.forall_mem_append]
      exact ⟨solid_of_name named, solid_of_digits digits, solid_of_isMinor isMinor⟩
    refine ⟨⟨ds, es⟩, ?_, Spelling.tooLong_eq_false.mpr ⟨short, short'⟩, rfl⟩
    rw [small, split, trimmed_padded blank blank', trimmed_of_solid solid, Spelling.isOf_map_toLower]
    exact ⟨name, run, rest, rfl, named, digits, nonempty, isMinor⟩
  · rintro ⟨w, isOf, fits, numbers⟩
    obtain ⟨rfl, rfl⟩ := Prod.mk.inj numbers
    obtain ⟨short, short'⟩ := Spelling.tooLong_eq_false.mp fits
    rw [small, Spelling.isOf_map_toLower] at isOf
    obtain ⟨name, run, rest, split, named, digits, nonempty, isMinor⟩ := isOf
    obtain ⟨before, after, blank, blank', whole⟩ := exists_trimmed s.toList
    exact ⟨before, name, run, rest, after, split ▸ whole, blank, blank', named, ⟨_, digits, nonempty, short, rfl⟩,
      writesMinor_iff.mpr ⟨_, isMinor, short', rfl⟩⟩

/-- A text for numbers is the version with their code, if there is one. -/
private theorem Writes.parse_eq {s : String} {major minor : Nat} (writes : Writes s major minor) :
    parse (.text s) = match ofCode? (Spelling.encode major minor) with
      | some v => .ok v
      | none => .error (.configuration (.unknownVersion (.text s))) := by
  obtain ⟨w, isOf, fits, numbers⟩ := writes_iff.mp writes
  obtain ⟨rfl, rfl⟩ := Prod.mk.inj numbers
  rw [parse, ofText, isOf.alias?_eq_none, Spelling.read?_eq_some_iff.mpr isOf]
  simp only [fits, Spelling.version?]
  rfl

/-- The digits of a spelling are runs in the text that it is of. -/
private theorem Spelling.IsOf.tooLong_eq_false {s : String} {w : Spelling} (isOf : w.IsOf (lower (trim s)).toList)
    (short : HasShortRuns s) : w.tooLong = false := by
  have fits (before after : List Char) {run : List Char} {ds : List Nat} (digits : Digits run ds)
      (split : s.toList = before ++ run ++ after) : ds.length ≤ digitLimit := by
    rw [← digits.length_eq]
    refine short before run after split fun c mem => ?_
    obtain ⟨d, value⟩ := digits.exists_value mem
    rw [isDigit, value]
    rfl
  rw [toList_lower, toList_trim, isOf_map_toLower] at isOf
  obtain ⟨name, run, rest, split, -, digits, -, isMinor⟩ := isOf
  obtain ⟨before, after, -, -, whole⟩ := exists_trimmed s.toList
  rw [split] at whole
  refine Spelling.tooLong_eq_false.mpr ⟨?_, ?_⟩
  · exact fits (before ++ name) (rest ++ after) digits (by simp [whole])
  · cases minor : w.minor with
    | none => exact Nat.zero_le _
    | some es =>
      rw [minor] at isMinor
      cases isMinor with
      | @written c run' es separator digits' nonempty =>
        exact fits (before ++ name ++ run ++ [c]) after digits' (by simp [whole])

/-- A text that is written for a major and a minor number is accepted as the version with their code, and as no other.
So texts for the same numbers are the same version or are all refused. What is not written for any numbers and is no
alias is refused, if it has no run of too many digits. -/
theorem parse_written (s : String) :
    (∀ major minor, Writes s major minor →
      (∀ v, parse (.text s) = .ok v ↔ v.code = Spelling.encode major minor) ∧
        ∀ s', Writes s' major minor →
          (∃ v, parse (.text s) = .ok v ∧ parse (.text s') = .ok v) ∨ (IsRefused s ∧ IsRefused s')) ∧
      (HasShortRuns s → (∀ major minor, ¬ Writes s major minor) → lower (trim s) ∉ aliases → IsRefused s) := by
  refine ⟨fun major minor writes => ⟨?_, ?_⟩, ?_⟩
  · intro v
    have code : ofCode? (Spelling.encode major minor) = some v ↔ v.code = Spelling.encode major minor := by
      rw [ofCode?_eq_some_iff]
      exact Int.natCast_inj
    rw [writes.parse_eq, ← code]
    cases ofCode? (Spelling.encode major minor) <;> simp
  · intro s' writes'
    rw [IsRefused, IsRefused, writes.parse_eq, writes'.parse_eq]
    cases ofCode? (Spelling.encode major minor) with
    | some v => exact .inl ⟨v, rfl, rfl⟩
    | none => exact .inr ⟨rfl, rfl⟩
  · intro short unwritten other
    rw [IsRefused, parse, ofText, alias?_eq_none_iff.mpr other]
    cases read : Spelling.read? (lower (trim s)).toList with
    | none => rfl
    | some w =>
      have isOf := Spelling.read?_eq_some_iff.mp read
      exact absurd (writes_iff.mpr ⟨w, isOf, isOf.tooLong_eq_false short, rfl⟩) (unwritten _ _)

/-- With the name of the language in mixed case, a leading zero and white space around it, and in the digits of another
script; and with a gap inside, which no spelling has. -/
theorem parse_written_scripts :
    parse (.text " CSharp7_03	") = .ok csharp7_3 ∧ Writes " CSharp7_03	" 7 3 ∧ Writes "٧.٣" 7 3 ∧
      (∃ v, parse (.text " CSharp7_03	") = .ok v ∧ parse (.text "٧.٣") = .ok v) ∧ IsRefused "7 .3" := by
  have named : Writes " CSharp7_03	" 7 3 :=
    ⟨[' '], ['C', 'S', 'h', 'a', 'r', 'p'], ['7'], ['_', '0', '3'], ['	'], rfl, by decide, by decide, .inr rfl,
      ⟨[7], rfl, by decide, by decide, rfl⟩, .written (.inr rfl) ⟨[0, 3], rfl, by decide, by decide, rfl⟩⟩
  have plain : Writes "٧.٣" 7 3 :=
    ⟨[], [], ['٧'], ['.', '٣'], [], rfl, blank_nil, blank_nil, .inl rfl, ⟨[7], rfl, by decide, by decide, rfl⟩,
      .written (.inl rfl) ⟨[3], rfl, by decide, by decide, rfl⟩⟩
  obtain ⟨accepted, alike⟩ := (parse_written " CSharp7_03	").1 7 3 named
  have version := (accepted csharp7_3).mpr rfl
  refine ⟨version, named, plain, (alike _ plain).resolve_right ?_, (parse_written "7 .3").2 ?_ ?_ (by decide)⟩
  · rintro ⟨refused, -⟩
    cases version.symm.trans refused
  · intro before run after split _
    have length := congrArg List.length split
    have four : "7 .3".toList.length = 4 := rfl
    rw [four, List.length_append, List.length_append] at length
    have limit : digitLimit = 4300 := rfl
    omega
  · intro major minor writes
    obtain ⟨w, isOf, -, -⟩ := writes_iff.mp writes
    have unread : Spelling.read? (lower (trim "7 .3")).toList = none := by decide
    cases unread.symm.trans (Spelling.read?_eq_some_iff.mpr isOf)

end TypeForward.LanguageVersion
