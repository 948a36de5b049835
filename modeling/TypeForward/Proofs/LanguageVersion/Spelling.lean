import Mathlib.Data.List.Basic
import TypeForward.LanguageVersion.Parse
import TypeForward.Proofs.Text.Digits
import TypeForward.Proofs.Text.Trimming

/-! The numeric spellings of language versions as a grammar, and which versions they stand for. The code of a major and
a minor number tells the two apart only if the minor number has at most two digits and the major number is not zero;
other numbers can hit the code of a version that they do not write. -/
namespace TypeForward.LanguageVersion
open Text

namespace Spelling

/-- The minor part of a spelling: nothing, or digits after a point or an underscore. -/
inductive IsMinor : List Char → Option (List Nat) → Prop
  | omitted : IsMinor [] none
  | written {c : Char} {run : List Char} {ds : List Nat} (separator : c = '.' ∨ c = '_') (digits : Digits run ds)
      (nonempty : ds ≠ []) : IsMinor (c :: run) (some ds)

/-- The spelling of these characters: digits of the major number, after the name of the language or nothing, and then
the minor part. -/
def IsOf (w : Spelling) (cs : List Char) : Prop :=
  ∃ name run rest, cs = name ++ (run ++ rest) ∧ (name = [] ∨ name = languageName) ∧ Digits run w.major ∧
    w.major ≠ [] ∧ IsMinor rest w.minor

private theorem IsMinor.undigited {rest : List Char} {minor : Option (List Nat)} (isMinor : IsMinor rest minor) :
    Undigited rest := by
  cases isMinor with
  | omitted => simp [Undigited]
  | written separator =>
    have point : digitValue? '.' = none := by decide
    have underscore : digitValue? '_' = none := by decide
    rcases separator with rfl | rfl <;> simpa [Undigited]

private theorem minor?_eq_some_iff {rest : List Char} {minor : Option (List Nat)} :
    minor? rest = some minor ↔ IsMinor rest minor := by
  constructor
  · intro read
    cases rest with
    | nil =>
      obtain rfl := Option.some.inj read
      exact .omitted
    | cons c rest =>
      obtain ⟨run, split, digits, -⟩ := takeDigits_split rest
      rw [minor?] at read
      rcases taken : takeDigits rest with ⟨ds, _ | ⟨other, more⟩⟩
      · rw [taken] at read split digits
        obtain ⟨⟨separator, nonempty⟩, same⟩ := Option.ite_none_right_eq_some.mp read
        obtain rfl := Option.some.inj same
        rw [split, List.append_nil]
        exact .written separator digits nonempty
      · rw [taken] at read
        cases read
  · intro isMinor
    cases isMinor with
    | omitted => rfl
    | @written c run ds separator digits nonempty =>
      have stop : Undigited [] := by simp [Undigited]
      have taken : takeDigits run = (ds, []) := by simpa using takeDigits_append digits stop
      simp [minor?, taken, separator, nonempty]

private theorem exists_body (cs : List Char) : ∃ name, cs = name ++ body cs ∧ (name = [] ∨ name = languageName) := by
  cases found : languageName.isPrefixOf? cs with
  | none => exact ⟨[], by simp [body, found], .inl rfl⟩
  | some rest =>
    have split : languageName ++ rest = cs := List.append_eq_of_isPrefixOf?_eq_some found
    exact ⟨languageName, by simp [body, found, split], .inr rfl⟩

/-- The name of the language does not begin with a digit. -/
private theorem body_of_digits {run : List Char} {ds : List Nat} (digits : Digits run ds) (nonempty : ds ≠ [])
    (rest : List Char) : body (run ++ rest) = run ++ rest := by
  cases ds with
  | nil => exact absurd rfl nonempty
  | cons d ds =>
    cases run with
    | nil => cases digits
    | cons c run =>
      have letter : digitValue? 'c' = none := by decide
      have other : ('c' == c) = false := by
        rw [beq_eq_false_iff_ne]
        rintro rfl
        rw [(digits_cons.mp digits).1] at letter
        cases letter
      simp [body, languageName, List.isPrefixOf?, other]

private theorem body_append (cs : List Char) : body (languageName ++ cs) = cs := by
  have found : languageName.isPrefixOf? (languageName ++ cs) = some cs :=
    List.isPrefixOf?_eq_some_iff_append_eq.mpr rfl
  rw [body, found, Option.getD_some]

/-- Reading finds the spelling of the characters, and there is no other. -/
theorem read?_eq_some_iff {cs : List Char} {w : Spelling} : read? cs = some w ↔ w.IsOf cs := by
  constructor
  · intro read
    obtain ⟨name, whole, named⟩ := exists_body cs
    obtain ⟨run, split, digits, -⟩ := takeDigits_split (body cs)
    obtain ⟨nonempty, read⟩ := Option.ite_none_left_eq_some.mp read
    obtain ⟨minor, minorRead, rfl⟩ := Option.map_eq_some_iff.mp read
    exact ⟨name, run, _, by rw [← split, ← whole], named, digits, nonempty, minor?_eq_some_iff.mp minorRead⟩
  · rintro ⟨name, run, rest, rfl, named, digits, nonempty, isMinor⟩
    have body_eq : body (name ++ (run ++ rest)) = run ++ rest := by
      rcases named with rfl | rfl
      · exact body_of_digits digits nonempty rest
      · exact body_append _
    have taken : takeDigits (run ++ rest) = (w.major, rest) := takeDigits_append digits isMinor.undigited
    simp [read?, body_eq, taken, nonempty, minor?_eq_some_iff.mpr isMinor]

/-- Two spellings of the same characters are the same. -/
theorem IsOf.unique {cs : List Char} {w w' : Spelling} (isOf : w.IsOf cs) (isOf' : w'.IsOf cs) : w = w' :=
  Option.some.inj ((read?_eq_some_iff.mpr isOf).symm.trans (read?_eq_some_iff.mpr isOf'))

end Spelling

/-- A numeric spelling is accepted as the version whose code its numbers have. -/
theorem parse_text_ok {s : String} {v : LanguageVersion} (accepted : parse (.text s) = .ok v)
    (numeric : alias? (lower (trim s)) = none) :
    ∃ w : Spelling, w.IsOf (lower (trim s)).toList ∧ v.code = Spelling.encode w.numbers.1 w.numbers.2 := by
  rw [parse, ofText, numeric] at accepted
  cases read : Spelling.read? (lower (trim s)).toList with
  | none =>
    simp only [read] at accepted
    cases accepted
  | some w =>
    refine ⟨w, Spelling.read?_eq_some_iff.mp read, ?_⟩
    simp only [read] at accepted
    split at accepted
    · cases accepted
    · cases found : w.version? with
      | none =>
        rw [found] at accepted
        cases accepted
      | some v' =>
        rw [found] at accepted
        obtain rfl := Except.ok.inj accepted
        exact_mod_cast ofCode?_eq_some_iff.mp found

/-- A code tells the numbers it is made of, unless the major number is zero or the minor number has three digits. -/
private theorem numbers_of_encode {v : LanguageVersion} {major minor : Nat}
    (same : v.code = Spelling.encode major minor)
    (positive : 0 < major) (small : minor < 100) : v.numbers = (major, minor) := by
  rw [numbers, same]
  unfold Spelling.encode
  split
  · next alone =>
    rw [if_neg (by omega), alone.2]
  · next both =>
    have large : 100 < major * 100 + minor := by omega
    rw [if_pos large]
    apply Prod.ext <;> simp only <;> omega

private theorem numbers_small (v : LanguageVersion) : 0 < v.numbers.1 ∧ v.numbers.2 < 100 := by
  cases v <;> decide

theorem numbers_injective {v w : LanguageVersion} (h : v.numbers = w.numbers) : v = w := by
  revert h
  cases v <;> cases w <;> decide

/-- A major and a minor number as they are usually written. -/
def dotted (major minor : Nat) : String :=
  toString major ++ "." ++ toString minor

/-- No alias begins with a digit. -/
theorem undigited_of_alias {name : String} {v : LanguageVersion} (h : alias? name = some v) :
    Undigited name.toList := by
  have words : Undigited "default".toList ∧ Undigited "latest".toList ∧ Undigited "latestmajor".toList ∧
      Undigited "preview".toList := by
    have letters : digitValue? 'd' = none ∧ digitValue? 'l' = none ∧ digitValue? 'p' = none := by decide
    simp [Undigited, letters]
  unfold alias? at h
  split at h
  · next known => rcases known with rfl | rfl | rfl <;> simp only [words]
  · obtain ⟨rfl, -⟩ := Option.ite_none_right_eq_some.mp h
    exact words.2.2.2

private theorem toList_dotted (major minor : Nat) :
    (dotted major minor).toList = Nat.toDigits 10 major ++ '.' :: Nat.toDigits 10 minor := by
  simp [dotted]

/-- They have neither white space nor capitals. -/
private theorem lower_trim_dotted (major minor : Nat) : lower (trim (dotted major minor)) = dotted major minor := by
  have digit : ∀ d < 10, isBlank (Nat.digitChar d) = false ∧ (Nat.digitChar d).toLower = Nat.digitChar d := by
    decide
  have numeral (n : Nat) : ∀ c ∈ Nat.toDigits 10 n, isBlank c = false ∧ c.toLower = c := by
    obtain ⟨ds, chars, small, -, -⟩ := exists_toDigits n
    rw [chars]
    exact List.forall_mem_map.mpr fun d mem => digit d (small d mem)
  have plain : ∀ c ∈ (dotted major minor).toList, isBlank c = false ∧ c.toLower = c := by
    intro c mem
    rw [toList_dotted] at mem
    rcases List.mem_append.mp mem with mem | mem
    · exact numeral major c mem
    · rcases List.mem_cons.mp mem with rfl | mem
      · decide
      · exact numeral minor c mem
  rw [← String.toList_inj, toList_lower, toList_trim, trimmed_of_solid fun c mem => (plain c mem).1]
  calc
    (dotted major minor).toList.map Char.toLower = (dotted major minor).toList.map id :=
      List.map_congr_left fun c mem => (plain c mem).2
    _ = (dotted major minor).toList := List.map_id _

/-- They are a numeric spelling of themselves. -/
private theorem spelled_dotted (major minor : Nat) :
    alias? (dotted major minor) = none ∧
      ∃ w : Spelling, w.IsOf (dotted major minor).toList ∧ w.numbers = (major, minor) := by
  obtain ⟨ds, numeral, small, nonempty, number⟩ := exists_toDigits major
  obtain ⟨es, numeral', small', nonempty', number'⟩ := exists_toDigits minor
  have chars : (dotted major minor).toList = ds.map Nat.digitChar ++ '.' :: es.map Nat.digitChar := by
    rw [toList_dotted, numeral, numeral']
  constructor
  · cases h : alias? (dotted major minor) with
    | none => rfl
    | some v =>
      obtain ⟨d, ds, rfl⟩ := List.exists_cons_of_ne_nil nonempty
      have stop : digitValue? (Nat.digitChar d) = none := undigited_of_alias h _ (by rw [chars]; rfl)
      rw [digitValue?_digitChar (small d List.mem_cons_self)] at stop
      cases stop
  · refine ⟨⟨ds, some es⟩, ⟨[], _, _, chars, .inl rfl, digits_digitChar small, nonempty, ?_⟩, ?_⟩
    · exact .written (.inl rfl) (digits_digitChar small') nonempty'
    · simp [Spelling.numbers, number, number']

/-- What is written with a point is accepted as the version of these numbers, if they are such as a code tells apart. -/
private theorem numbers_of_dotted {major minor : Nat} {v : LanguageVersion}
    (accepted : parse (.text (dotted major minor)) = .ok v) (positive : 0 < major) (small : minor < 100) :
    v.numbers = (major, minor) := by
  obtain ⟨numeric, w, isOf, written⟩ := spelled_dotted major minor
  rw [← lower_trim_dotted] at numeric isOf
  obtain ⟨w', isOf', code⟩ := parse_text_ok accepted numeric
  rw [isOf'.unique isOf, written] at code
  exact numbers_of_encode code positive small

/-- A spelling that is accepted has exactly one pair of numbers, and the version is the one with the code of that pair.
It is released and has these numbers itself exactly if the major number is not zero, the minor number has at most two
digits, and the pair is not the one whose code the preview has. Among pairs that are so but for the last, different ones
written with a point are different versions. -/
theorem parse_numeric (s : String) (v : LanguageVersion) (accepted : parse (.text s) = .ok v)
    (numeric : alias? (lower (trim s)) = none) :
    (∃ w : Spelling, w.IsOf (lower (trim s)).toList ∧ (∀ w' : Spelling, w'.IsOf (lower (trim s)).toList → w' = w) ∧
      v.code = Spelling.encode w.numbers.1 w.numbers.2 ∧
      (v ≠ preview ∧ v.numbers = w.numbers ↔
        0 < w.numbers.1 ∧ w.numbers.2 < 100 ∧ w.numbers ≠ preview.numbers)) ∧
    ∀ (a b c d : Nat) (u : LanguageVersion), 0 < a → b < 100 → 0 < c → d < 100 →
      parse (.text (dotted a b)) = .ok u → parse (.text (dotted c d)) = .ok u → (a, b) = (c, d) := by
  constructor
  · obtain ⟨w, isOf, code⟩ := parse_text_ok accepted numeric
    refine ⟨w, isOf, fun w' isOf' => isOf'.unique isOf, code, ?_⟩
    constructor
    · rintro ⟨released, same⟩
      obtain ⟨positive, small⟩ := numbers_small v
      rw [← same]
      exact ⟨positive, small, fun h => released (numbers_injective h)⟩
    · rintro ⟨positive, small, other⟩
      have same : v.numbers = w.numbers := numbers_of_encode code positive small
      refine ⟨?_, same⟩
      rintro rfl
      exact other same.symm
  · intro a b c d u positive small positive' small' accepted accepted'
    calc
      (a, b) = u.numbers := (numbers_of_dotted accepted positive small).symm
      _ = (c, d) := numbers_of_dotted accepted' positive' small'

/-- With the name of the language, an underscore and white space around it. -/
theorem parse_numeric_named :
    parse (.text " CSharp7_3 ") = .ok csharp7_3 ∧ (⟨[7], some [3]⟩ : Spelling).IsOf "csharp7_3".toList ∧
      csharp7_3.numbers = (7, 3) := by
  have accepted : parse (.text " CSharp7_3 ") = .ok csharp7_3 := by rfl
  have numeric : alias? (lower (trim " CSharp7_3 ")) = none := by decide
  have kept : lower (trim " CSharp7_3 ") = "csharp7_3" := by decide
  have isOf : (⟨[7], some [3]⟩ : Spelling).IsOf "csharp7_3".toList :=
    ⟨Spelling.languageName, ['7'], ['_', '3'], rfl, .inr rfl, rfl, by decide, .written (.inr rfl) rfl (by decide)⟩
  obtain ⟨⟨w, -, only, -, faithful⟩, -⟩ := parse_numeric _ _ accepted numeric
  obtain rfl := only _ (kept ▸ isOf)
  exact ⟨accepted, isOf, (faithful.mpr (by decide)).2⟩

/-- A minor number of three digits reaches the code of a later version, and numbers that are large enough reach that of
the preview. So a version may be accepted that does not have the numbers that are written. -/
theorem unfaithful_of_long_minor :
    parse (.text "7.100") = .ok csharp8 ∧ parse (.text "8.0") = .ok csharp8 ∧
      parse (.text "21474836.46") = .ok preview ∧
      ¬ ∀ (s : String) (v : LanguageVersion), parse (.text s) = .ok v → alias? (lower (trim s)) = none →
        v ≠ preview ∧ ∃ w : Spelling, w.IsOf (lower (trim s)).toList ∧ v.numbers = w.numbers := by
  have accepted : parse (.text "7.100") = .ok csharp8 := by rfl
  refine ⟨accepted, by rfl, by rfl, ?_⟩
  intro faithful
  have kept : lower (trim "7.100") = "7.100" := by decide
  obtain ⟨-, w, isOf, same⟩ := faithful "7.100" csharp8 accepted (by decide)
  have written : (⟨[7], some [1, 0, 0]⟩ : Spelling).IsOf (lower (trim "7.100")).toList :=
    kept ▸ ⟨[], ['7'], ['.', '1', '0', '0'], rfl, .inl rfl, rfl, by decide, .written (.inl rfl) rfl (by decide)⟩
  rw [isOf.unique written] at same
  exact absurd same (by decide)

end TypeForward.LanguageVersion
