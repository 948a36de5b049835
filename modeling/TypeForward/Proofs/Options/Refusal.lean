import TypeForward.Proofs.Options.Construction
import TypeForward.Proofs.Value.Printing

/-! Which arguments options are built from, and what is said about the others: the first field that does not take its
value is named, and in a list the first entry that is no name. The naming fails for an entry that cannot be printed. -/
namespace TypeForward.Options

/-- A text with a character in it that is not white space. -/
def IsName (entry : Value) : Prop :=
  ∃ s, entry = .text s ∧ ∃ c ∈ s.toList, Text.isBlank c = false

/-- A flag takes genuine truth values, and a list takes what can be walked, is no text, and gives names only. -/
inductive Takes : Field → Value → Prop where
  | flag (flag : Flag) (b : Bool) : Takes (.flag flag) (.bool b)
  | names (list : NameList) {given : Value} {entries : List Value} (other : given.isText = false)
      (walk : given.elements? = some entries) (named : ∀ entry ∈ entries, IsName entry) : Takes (.names list) given

/-- What is wrong with a value that the field does not take. Of the entries of a list the first that is no name
counts. -/
inductive Objects : Field → Value → ConfigurationFault → Prop where
  | flag {flag : Flag} {given : Value} (other : ∀ b, given ≠ .bool b) :
      Objects (.flag flag) given (.notFlag flag given)
  | collection {list : NameList} {given : Value} (unwalked : given.isText = true ∨ given.elements? = none) :
      Objects (.names list) given (.notNames list)
  | entry {list : NameList} {given : Value} {front rest : List Value} {bad : Value} (other : given.isText = false)
      (walk : given.elements? = some (front ++ bad :: rest)) (named : ∀ entry ∈ front, IsName entry)
      (unnamed : ¬ IsName bad) : Objects (.names list) given (.badName list bad)

/-- The cause prints an entry with too long an integer in it. -/
def IsUnprintable (cause : ConfigurationFault) : Prop :=
  ∃ list bad n, cause = .badName list bad ∧ bad.Writes n ∧ Value.IsLong n

/-- The fault for a cause. Only a cause about an entry prints a value. -/
def faultOf : ConfigurationFault → Fault
  | .badName list bad => .about bad (.badName list bad)
  | cause => .configuration cause

variable {a : Arguments} {field : Field} {given : Value} {cause : ConfigurationFault}

private theorem isName_text_iff {s : String} : IsName (.text s) ↔ Text.isBlankText s = false := by
  simp [IsName, Text.isBlankText]

private theorem Objects.not_takes (objects : Objects field given cause) : ¬ Takes field given := by
  intro takes
  cases objects with
  | flag other => cases takes; exact other _ rfl
  | collection unwalked =>
    cases takes with
    | names list other walk => simp [other, walk] at unwalked
  | entry other walk named unnamed =>
    cases takes with
    | names list other walk' named =>
      obtain rfl := Option.some.inj (walk.symm.trans walk')
      exact unnamed (named _ (by simp))

/-- The message begins with the name of the field, and there is a hint. -/
private theorem Objects.worded (objects : Objects field given cause) :
    (∃ more, cause.message = field.name ++ more) ∧ ∃ hint, cause.hint = some hint := by
  cases objects with
  | flag | entry => exact ⟨⟨_, String.append_assoc⟩, _, rfl⟩
  | collection => exact ⟨⟨_, rfl⟩, _, rfl⟩

theorem faultOf_of_isUnprintable (unprintable : IsUnprintable cause) : faultOf cause = .badValue := by
  obtain ⟨list, bad, n, rfl, writes, long⟩ := unprintable
  have printable : bad.isPrintable = false := Value.isPrintable_eq_false_iff.mpr ⟨n, writes, long⟩
  simp [faultOf, Fault.about, printable]

theorem faultOf_of_not_isUnprintable (printable : ¬ IsUnprintable cause) : faultOf cause = .configuration cause := by
  cases cause with
  | badName list bad =>
    have printable : bad.isPrintable = true := by
      rw [← Bool.not_eq_false, Value.isPrintable_eq_false_iff]
      rintro ⟨n, writes, long⟩
      exact printable ⟨list, bad, n, rfl, writes, long⟩
    simp [faultOf, Fault.about, printable]
  | _ => rfl

/-- What reading the value of a field comes to. -/
def Reads {α : Type} (field : Field) (given : Value) (result : Except Fault α) : Prop :=
  (Takes field given ∧ ∃ x, result = .ok x) ∨ ∃ cause, Objects field given cause ∧ result = .error (faultOf cause)

private theorem reads_flag (flag : Flag) (given : Value) : Reads (.flag flag) given (readFlag flag given) := by
  cases given with
  | bool b => exact .inl ⟨.flag flag b, b, rfl⟩
  | _ => exact .inr ⟨_, .flag nofun, rfl⟩

/-- Reading entries stops at the first that is no name. -/
private theorem readEntries_cases (list : NameList) (entries : List Value) :
    ((∀ entry ∈ entries, IsName entry) ∧ ∃ names, readEntries list entries = .ok names) ∨
      ∃ front bad rest, entries = front ++ bad :: rest ∧ (∀ entry ∈ front, IsName entry) ∧ ¬ IsName bad ∧
        readEntries list entries = .error (faultOf (.badName list bad)) := by
  induction entries with
  | nil => exact .inl ⟨by simp, [], rfl⟩
  | cons entry rest ih =>
    by_cases name : IsName entry
    · have first := name
      obtain ⟨s, rfl, -⟩ := first
      have some : Text.isBlankText s = false := isName_text_iff.mp name
      rw [readEntries, if_neg (by simp [some])]
      rcases ih with ⟨named, names, read⟩ | ⟨front, bad, rest, rfl, named, unnamed, failed⟩
      · exact .inl ⟨List.forall_mem_cons.mpr ⟨name, named⟩, _, by rw [read]; rfl⟩
      · exact .inr ⟨.text s :: front, bad, rest, rfl, List.forall_mem_cons.mpr ⟨name, named⟩, unnamed,
          by rw [failed]; rfl⟩
    · refine .inr ⟨[], entry, rest, rfl, by simp, name, ?_⟩
      cases entry with
      | text s =>
        have blank : Text.isBlankText s = true := by simpa [isName_text_iff] using name
        rw [readEntries, if_pos blank]
        rfl
      | _ => rfl

private theorem reads_names (list : NameList) (given : Value) : Reads (.names list) given (readNames list given) := by
  rw [readNames]
  cases other : given.isText with
  | true => exact .inr ⟨_, .collection (.inl other), rfl⟩
  | false =>
    cases walk : given.elements? with
    | none => exact .inr ⟨_, .collection (.inr walk), rfl⟩
    | some entries =>
      rcases readEntries_cases list entries with ⟨named, read⟩ | ⟨front, bad, rest, rfl, named, unnamed, failed⟩
      · exact .inl ⟨.names list other walk named, read⟩
      · exact .inr ⟨_, .entry other walk named unnamed, failed⟩

/-- Options are built if every field takes its value, and otherwise the first that does not decides the fault. -/
theorem build_reads (a : Arguments) :
    ((∀ f, Takes f (a f)) ∧ ∃ o, build a = .ok o) ∨
      ∃ front field rest cause, Field.all = front ++ field :: rest ∧ (∀ f ∈ front, Takes f (a f)) ∧
        Objects field (a field) cause ∧ build a = .error (faultOf cause) := by
  unfold build
  rcases reads_flag .excludeForwards (a (.flag .excludeForwards)) with ⟨first, b, read⟩ | ⟨cause, objects, failed⟩
  · rcases reads_flag .publicTypes (a (.flag .publicTypes)) with ⟨second, b', read'⟩ | ⟨cause, objects, failed⟩
    · rcases reads_names .included (a (.names .included)) with ⟨third, names, walked⟩ | ⟨cause, objects, failed⟩
      · rcases reads_names .excluded (a (.names .excluded)) with ⟨fourth, names', walked'⟩ | ⟨cause, objects, failed⟩
        · refine .inl ⟨?_, _, by rw [read, read', walked, walked']; rfl⟩
          rintro (flag | list)
          · cases flag <;> assumption
          · cases list <;> assumption
        · refine .inr ⟨[.flag .excludeForwards, .flag .publicTypes, .names .included], .names .excluded, [], cause, rfl,
            by simp [first, second, third], objects, by rw [read, read', walked, failed]; rfl⟩
      · exact .inr ⟨[.flag .excludeForwards, .flag .publicTypes], .names .included, [.names .excluded], cause, rfl,
          by simp [first, second], objects, by rw [read, read', failed]; rfl⟩
    · exact .inr ⟨[.flag .excludeForwards], .flag .publicTypes, [.names .included, .names .excluded], cause, rfl,
        by simp [first], objects, by rw [read, failed]; rfl⟩
  · exact .inr ⟨[], .flag .excludeForwards, [.flag .publicTypes, .names .included, .names .excluded], cause, rfl,
      by simp, objects, by rw [failed]; rfl⟩

/-- Options are built exactly if every field takes its value: the flags are what was given, the names are the texts
given, in order and trimmed, none is blank or padded, and the values of the options build them again. Otherwise the
first field, in the order of declaration, that does not take its value is named, with a hint, and of a list that can be
walked the first entry that is no name. Only if this entry has an integer in it that is too long to be printed there is
a plain fault instead. -/
theorem build_outcome (a : Arguments) :
    ((∃ o, build a = .ok o) ↔ ∀ f, Takes f (a f)) ∧
    (∀ o, build a = .ok o →
      (∀ g, a (.flag g) = .bool (o.flag g)) ∧
      (∀ l, ∃ texts : List String, (a (.names l)).elements? = some (texts.map .text) ∧
        o.names l = texts.map Text.trim) ∧
      (∀ l, ∀ n ∈ o.names l, Text.trim n = n ∧ Text.isBlankText n = false) ∧
      build o.value = .ok o) ∧
    ∀ fault, build a = .error fault →
      ∃ front field rest cause, Field.all = front ++ field :: rest ∧ (∀ f ∈ front, Takes f (a f)) ∧
        ¬ Takes field (a field) ∧ Objects field (a field) cause ∧
        (∃ more, cause.message = field.name ++ more) ∧ (∃ hint, cause.hint = some hint) ∧
        (¬ IsUnprintable cause → fault = .configuration cause) ∧ (IsUnprintable cause → fault = .badValue) := by
  have read := build_reads a
  refine ⟨⟨?_, ?_⟩, ?_, ?_⟩
  · rintro ⟨o, built⟩
    rcases read with ⟨takes, -⟩ | ⟨front, field, rest, cause, -, -, -, failed⟩
    · exact takes
    · rw [failed] at built
      cases built
  · intro takes
    rcases read with ⟨-, built⟩ | ⟨front, field, rest, cause, -, -, objects, -⟩
    · exact built
    · exact absurd (takes field) objects.not_takes
  · intro o built
    have fine := isBuilt_iff.mp ⟨a, built⟩
    refine ⟨(build_ok built).1, ?_, fine, build_value fine⟩
    intro l
    obtain ⟨-, entries, walk, names⟩ := readNames_ok ((build_ok built).2 l)
    obtain ⟨texts, rfl, same, -⟩ := readEntries_ok names
    exact ⟨texts, walk, same⟩
  · intro fault refused
    rcases read with ⟨-, o, built⟩ | ⟨front, field, rest, cause, order, takes, objects, failed⟩
    · rw [built] at refused
      cases refused
    · obtain rfl := Except.error.inj (failed.symm.trans refused)
      exact ⟨front, field, rest, cause, order, takes, objects.not_takes, objects, objects.worded.1, objects.worded.2,
        faultOf_of_not_isUnprintable, faultOf_of_isUnprintable⟩

/-- An integer among the names that is too long to be printed is not refused as an entry. -/
theorem unnamed_of_long_entry :
    build (defaults.set (.names .included) (.list [.int Value.leastLong])) = .error .badValue ∧
      ¬ ∀ a fault, build a = .error fault → ∃ cause, fault = .configuration cause := by
  have failed : build (defaults.set (.names .included) (.list [.int Value.leastLong])) = .error .badValue := by
    have unprintable : IsUnprintable (.badName .included (.int Value.leastLong)) :=
      ⟨_, _, _, rfl, .int, Value.isLong_leastLong⟩
    rw [← faultOf_of_isUnprintable unprintable]
    rfl
  refine ⟨failed, ?_⟩
  intro named
  obtain ⟨cause, same⟩ := named _ _ failed
  cases same

end TypeForward.Options
