import TypeForward.Proofs.LanguageVersion.Spelling
import TypeForward.Proofs.Value.Printing

/-! What is not taken for a language version is refused with a hint, but for what has too many digits: numerals of that
size are neither read nor written, so that there is not even a refusal. -/
namespace TypeForward.LanguageVersion
open Text

/-- Too many digits: an integer of that size is in the value, or it is a text that spells a major or a minor number
with so many. -/
inductive IsOverlong : Value → Prop where
  | integer {given : Value} {n : Int} (writes : given.Writes n) (long : Value.IsLong n) : IsOverlong given
  | spelling {s : String} {w : Spelling} (numeric : alias? (lower (trim s)) = none)
      (isOf : w.IsOf (lower (trim s)).toList)
      (long : digitLimit < w.major.length ∨ ∃ ds, w.minor = some ds ∧ digitLimit < ds.length) : IsOverlong (.text s)

/-- A version, or a refusal with a hint. -/
def Settled (result : Except Fault LanguageVersion) : Prop :=
  (∃ v, result = .ok v) ∨ ∃ cause hint, result = .error (.configuration cause) ∧ cause.hint = some hint

/-- What too many digits come to, and what all else does. -/
def Splits (given : Value) (result : Except Fault LanguageVersion) : Prop :=
  (IsOverlong given ∧ result = .error .badValue) ∨ (¬ IsOverlong given ∧ Settled result)

private theorem Spelling.tooLong_iff {w : Spelling} :
    w.tooLong = true ↔ digitLimit < w.major.length ∨ ∃ ds, w.minor = some ds ∧ digitLimit < ds.length := by
  rcases w with ⟨major, minor | ds⟩ <;> simp [tooLong]

private theorem isOverlong_text_iff {s : String} :
    IsOverlong (.text s) ↔ alias? (lower (trim s)) = none ∧
      ∃ w, Spelling.read? (lower (trim s)).toList = some w ∧ w.tooLong = true := by
  constructor
  · intro overlong
    cases overlong with
    | integer writes => cases writes
    | spelling numeric isOf long =>
      exact ⟨numeric, _, Spelling.read?_eq_some_iff.mpr isOf, Spelling.tooLong_iff.mpr long⟩
  · rintro ⟨numeric, w, read, long⟩
    exact .spelling numeric (Spelling.read?_eq_some_iff.mp read) (Spelling.tooLong_iff.mp long)

/-- Text has no integers in it, and what is not text is not read. -/
theorem isOverlong_iff (given : Value) (other : given.isText = false) :
    IsOverlong given ↔ given.isPrintable = false := by
  rw [Value.isPrintable_eq_false_iff]
  constructor
  · intro overlong
    cases overlong with
    | integer writes long => exact ⟨_, writes, long⟩
    | spelling => cases other
  · rintro ⟨n, writes, long⟩
    exact .integer writes long

/-- A refusal that prints the value. -/
private theorem splits_about {given : Value} (other : given.isText = false) {cause : ConfigurationFault} {hint : String}
    (hinted : cause.hint = some hint) : Splits given (.error (.about given cause)) := by
  cases printable : given.isPrintable with
  | true =>
    refine .inr ⟨by simp [isOverlong_iff given other, printable], .inr ⟨cause, hint, ?_, hinted⟩⟩
    rw [Fault.about, if_pos printable]
  | false => exact .inl ⟨(isOverlong_iff given other).mpr printable, by simp [Fault.about, printable]⟩

private theorem splits_text (s : String) : Splits (.text s) (ofText s) := by
  have refused : Settled (.error (.configuration (.unknownVersion (.text s)))) := .inr ⟨_, _, rfl, rfl⟩
  rw [Splits, isOverlong_text_iff, ofText]
  cases name : alias? (lower (trim s)) with
  | some v => exact .inr ⟨by simp, .inl ⟨v, rfl⟩⟩
  | none =>
    cases read : Spelling.read? (lower (trim s)).toList with
    | none => exact .inr ⟨by simp, refused⟩
    | some w =>
      cases long : w.tooLong with
      | true => exact .inl ⟨⟨rfl, w, rfl, long⟩, by simp [long]⟩
      | false =>
        refine .inr ⟨by simp [long], ?_⟩
        cases found : w.version? with
        | some v => exact .inl ⟨v, by simp [long, found]⟩
        | none => simpa [long, found] using refused

/-- The codes of versions are short. -/
private theorem hasDecimalForm_code (v : LanguageVersion) : Value.hasDecimalForm v.code = true := by
  cases v <;> decide +kernel

private theorem splits_parse (given : Value) : Splits given (parse given) := by
  match given with
  | .text s => exact splits_text s
  | .version v => exact .inr ⟨by simp [isOverlong_iff (.version v) rfl, Value.isPrintable], .inl ⟨v, rfl⟩⟩
  | .int n =>
    cases found : ofCode? n with
    | some v =>
      obtain rfl := ofCode?_eq_some_iff.mp found
      refine .inr ⟨?_, .inl ⟨v, by simp [parse, found]⟩⟩
      simp [isOverlong_iff (.int v.code) rfl, Value.isPrintable, hasDecimalForm_code]
    | none =>
      rw [parse, found]
      exact splits_about rfl rfl
  | .none | .bool _ | .real _ | .octets _ | .moment _ | .list _ | .tuple _ | .stream _ | .set _ | .frozenSet _
  | .table _ => exact splits_about rfl rfl

private theorem parse_of_isOverlong {given : Value} (overlong : IsOverlong given) : parse given = .error .badValue := by
  rcases splits_parse given with ⟨-, failed⟩ | ⟨short, -⟩
  · exact failed
  · exact absurd overlong short

private theorem settled_of_not_isOverlong {given : Value} (short : ¬ IsOverlong given) : Settled (parse given) := by
  rcases splits_parse given with ⟨overlong, -⟩ | ⟨-, settled⟩
  · exact absurd overlong short
  · exact settled

private theorem not_settled_badValue : ¬ Settled (.error .badValue) := by
  rintro (⟨v, same⟩ | ⟨cause, hint, same, -⟩) <;> cases same

/-- Parsing gives a version or a refusal with a hint exactly if there are not too many digits. Otherwise it fails as
reading or writing the digits does, and it never fails in any other way. -/
theorem parse_settled_iff (given : Value) :
    (Settled (parse given) ↔ ¬ IsOverlong given) ∧ (parse given = .error .badValue ↔ IsOverlong given) := by
  have apart : ¬ (Settled (parse given) ∧ IsOverlong given) := by
    rintro ⟨settled, overlong⟩
    rw [parse_of_isOverlong overlong] at settled
    exact not_settled_badValue settled
  refine ⟨⟨fun settled overlong => apart ⟨settled, overlong⟩, settled_of_not_isOverlong⟩, ⟨?_, parse_of_isOverlong⟩⟩
  intro failed
  refine Classical.byContradiction fun short => not_settled_badValue ?_
  rw [← failed]
  exact settled_of_not_isOverlong short

/-- Nines spell themselves as a major number. -/
private theorem isOf_nines (n : Nat) (some : n ≠ 0) :
    let s := String.ofList (List.replicate n '9')
    alias? (lower (trim s)) = none ∧ (⟨List.replicate n 9, none⟩ : Spelling).IsOf (lower (trim s)).toList := by
  intro s
  have nine : isBlank '9' = false ∧ digitValue? '9' = .some 9 ∧ Char.toLower '9' = '9' := by decide
  have chars : (lower (trim s)).toList = List.replicate n '9' := by
    have solid : ∀ c ∈ List.replicate n '9', isBlank c = false := by
      intro c mem
      rw [List.eq_of_mem_replicate mem, nine.1]
    rw [toList_lower, toList_trim, String.toList_ofList, trimmed_of_solid solid, List.map_replicate, nine.2.2]
  have digits : Digits (List.replicate n '9') (List.replicate n 9) := by
    rw [Digits, List.map_replicate, List.map_replicate, nine.2.1]
  constructor
  · cases known : alias? (lower (trim s)) with
    | none => rfl
    | some v =>
      have stop : digitValue? '9' = .none := by
        refine undigited_of_alias known '9' ?_
        rw [chars, List.head?_replicate, if_neg some]
        rfl
      rw [nine.2.1] at stop
      cases stop
  · exact ⟨[], _, [], by simp [chars], .inl rfl, digits, by simpa using some, .omitted⟩

/-- A numeral with one digit more than is read is no version, but it is not refused as one. The same goes for an
integer of more digits than are written. -/
theorem unsettled_of_long_numeral :
    parse (.text (String.ofList (List.replicate (digitLimit + 1) '9'))) = .error .badValue ∧
      parse (.int Value.leastLong) = .error .badValue ∧ ¬ ∀ given, Settled (parse given) := by
  obtain ⟨numeric, isOf⟩ := isOf_nines (digitLimit + 1) (Nat.succ_ne_zero _)
  have long : IsOverlong (.text (String.ofList (List.replicate (digitLimit + 1) '9'))) := by
    refine .spelling numeric isOf (.inl ?_)
    rw [List.length_replicate]
    exact Nat.lt_succ_self _
  have large : IsOverlong (.int Value.leastLong) := .integer .int Value.isLong_leastLong
  refine ⟨parse_of_isOverlong long, parse_of_isOverlong large, ?_⟩
  intro settled
  have refused := settled (.int Value.leastLong)
  rw [parse_of_isOverlong large] at refused
  exact not_settled_badValue refused

end TypeForward.LanguageVersion
