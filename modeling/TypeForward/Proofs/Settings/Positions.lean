import TypeForward.Proofs.Options.Refusal
import TypeForward.Proofs.Settings.Precedence

/-! The position that a refused element of a list or tuple is reported at. Blank texts are dropped before the elements
are counted, so it is the position in the collection as it was given only if no blank text stands before the element. -/
namespace TypeForward

/-- Building options does not complain about settings. -/
private theorem Options.build_ne_badSetting (a : Arguments) (place : Place) (complaint : Complaint) :
    build a ≠ .error (.configuration (.badSetting place complaint)) := by
  intro failed
  rcases build_reads a with ⟨-, o, built⟩ | ⟨-, field, -, cause, -, -, objects, refused⟩
  · cases built.symm.trans failed
  · have same := Except.error.inj (refused.symm.trans failed)
    cases objects with
    | flag | collection => cases same
    | @entry list given front rest bad =>
      by_cases unprintable : IsUnprintable (.badName list bad)
      · rw [faultOf_of_isUnprintable unprintable] at same
        cases same
      · rw [faultOf_of_not_isUnprintable unprintable] at same
        cases same

namespace Settings

/-- Elements that lists of names take: texts, octets that encode one, and versions. -/
inductive IsTaken : Value → Prop where
  | text (s : String) : IsTaken (.text s)
  | octets {bytes : List UInt8} {s : String} (decoded : Text.Utf8.decode bytes = some s) : IsTaken (.octets bytes)
  | version (v : LanguageVersion) : IsTaken (.version v)

/-- Elements that they do not take, with what is wrong with them. -/
inductive IsRefused : Value → Complaint → Prop where
  | octets {bytes : List UInt8} (malformed : Text.Utf8.decode bytes = none) : IsRefused (.octets bytes) .unreadableText
  | other {x : Value} (noText : ∀ s, x ≠ .text s) (noOctets : ∀ bytes, x ≠ .octets bytes)
      (noVersion : ∀ v, x ≠ .version v) : IsRefused x .notText

variable {x v : Value} {xs front : List Value} {complaint : Complaint} {i start : Nat}

private theorem validText_of_isTaken (taken : IsTaken x) : ∃ s, validText x = .ok s := by
  cases taken with
  | text s => exact ⟨s, rfl⟩
  | octets decoded => exact ⟨_, by rw [validText, decoded]⟩
  | version v => exact ⟨_, rfl⟩

private theorem validText_of_isRefused (refused : IsRefused x complaint) : validText x = .error complaint := by
  cases refused with
  | octets malformed => rw [validText, malformed]
  | other noText noOctets noVersion =>
    unfold validText
    split
    · next s => exact absurd rfl (noText s)
    · next bytes => exact absurd rfl (noOctets bytes)
    · next v => exact absurd rfl (noVersion v)
    · rfl

theorem isTaken_or_isRefused (x : Value) : IsTaken x ∨ ∃ complaint, IsRefused x complaint := by
  cases x with
  | text s => exact .inl (.text s)
  | octets bytes =>
    cases decoded : Text.Utf8.decode bytes with
    | none => exact .inr ⟨_, .octets decoded⟩
    | some s => exact .inl (.octets decoded)
  | version v => exact .inl (.version v)
  | _ => exact .inr ⟨_, .other nofun nofun nofun⟩

/-- Trimming does not change what an element is. -/
theorem IsTaken.trimText (taken : IsTaken x) : IsTaken (trimText x) := by
  cases taken with
  | text s => exact .text (Text.trim s)
  | octets decoded => exact .octets decoded
  | version v => exact .version v

/-- What is left of the elements of a list or tuple: those that are no blank text, trimmed. -/
def tidied (xs : List Value) : List Value :=
  (xs.filter fun x => !isBlankEntry x).map trimText

/-- The number of elements that are left. -/
def countTidied (xs : List Value) : Nat :=
  xs.countP fun x => !isBlankEntry x

/-- All elements are left exactly if none is blank. -/
private theorem countTidied_eq_length_iff : countTidied xs = xs.length ↔ ∀ x ∈ xs, isBlankEntry x = false := by
  simp [countTidied, List.countP_eq_length]

private theorem tidied_cons_of_isRefused (refused : IsRefused x complaint) (back : List Value) :
    tidied (x :: back) = x :: tidied back := by
  have kept : isBlankEntry x = false ∧ trimText x = x := by
    cases refused with
    | octets => exact ⟨rfl, rfl⟩
    | other noText =>
      cases x with
      | text s => exact absurd rfl (noText s)
      | _ => exact ⟨rfl, rfl⟩
  simp [tidied, kept]

/-- Elements that are taken only move the place of those after them. -/
private theorem validTexts_append (taken : ∀ y ∈ front, IsTaken y) (start : Nat) :
    ∃ texts, ∀ rest, validTexts start (tidied (front ++ rest)) =
      (validTexts (start + countTidied front) (tidied rest)).map (texts ++ ·) := by
  induction front generalizing start with
  | nil =>
    refine ⟨[], fun rest => ?_⟩
    show validTexts start (tidied rest) = (validTexts start (tidied rest)).map id
    cases validTexts start (tidied rest) <;> rfl
  | cons y front ih =>
    obtain ⟨own, others⟩ := List.forall_mem_cons.mp taken
    -- Only an element that is no blank text moves the place.
    cases blank : isBlankEntry y with
    | true =>
      obtain ⟨texts, same⟩ := ih others start
      refine ⟨texts, fun rest => ?_⟩
      have count : countTidied (y :: front) = countTidied front := by simp [countTidied, blank]
      have left : tidied (y :: front ++ rest) = tidied (front ++ rest) := by simp [tidied, blank]
      rw [count, left, same]
    | false =>
      obtain ⟨texts, same⟩ := ih others (start + 1)
      obtain ⟨s, valid⟩ := validText_of_isTaken own.trimText
      refine ⟨s :: texts, fun rest => ?_⟩
      have count : start + countTidied (y :: front) = start + 1 + countTidied front := by
        simp [countTidied, blank]
        omega
      have left : tidied (y :: front ++ rest) = trimText y :: tidied (front ++ rest) := by simp [tidied, blank]
      rw [count, left, validTexts, valid]
      simp only [same]
      cases validTexts (start + 1 + countTidied front) (tidied rest) <;> rfl

/-- Elements are all taken, or there is a first one that is refused. -/
private theorem allTaken_or_split (xs : List Value) :
    (∀ x ∈ xs, IsTaken x) ∨
      ∃ front x back complaint, xs = front ++ x :: back ∧ (∀ y ∈ front, IsTaken y) ∧ IsRefused x complaint := by
  induction xs with
  | nil => exact .inl (by simp)
  | cons x rest ih =>
    rcases isTaken_or_isRefused x with taken | ⟨complaint, refused⟩
    · rcases ih with all | ⟨front, y, back, complaint, rfl, before, refused⟩
      · exact .inl (List.forall_mem_cons.mpr ⟨taken, all⟩)
      · exact .inr ⟨x :: front, y, back, complaint, rfl, List.forall_mem_cons.mpr ⟨taken, before⟩, refused⟩
    · exact .inr ⟨[], x, rest, complaint, rfl, by simp, refused⟩

private theorem validNames_of_list_or_tuple (given : v = .list xs ∨ v = .tuple xs) :
    validNames v = match validTexts 0 (tidied xs) with
      | .error (i, complaint) => .error (some i, complaint)
      | .ok names => .ok names := by
  rcases given with rfl | rfl <;> rfl

private theorem validField_of_allTaken (l : NameList) (given : v = .list xs ∨ v = .tuple xs)
    (taken : ∀ x ∈ xs, IsTaken x) : ∃ w, validField (.names l) v = .ok w := by
  obtain ⟨texts, same⟩ := validTexts_append taken 0
  have valid : validTexts 0 (tidied xs) = .ok (texts ++ []) := by
    rw [← List.append_nil xs, same]
    rfl
  exact ⟨_, by rw [validField, validNames_of_list_or_tuple given, valid]⟩

/-- The first element that is refused is reported by the number of elements left before it. -/
private theorem validField_of_split (l : NameList) {back : List Value} (taken : ∀ y ∈ front, IsTaken y)
    (refused : IsRefused x complaint) (given : v = .list (front ++ x :: back) ∨ v = .tuple (front ++ x :: back)) :
    validField (.names l) v = .error (complain l.name (some (countTidied front)) complaint) := by
  obtain ⟨texts, same⟩ := validTexts_append taken 0
  have failed : validTexts 0 (tidied (front ++ x :: back)) = .error (countTidied front, complaint) := by
    rw [same, tidied_cons_of_isRefused refused, validTexts, validText_of_isRefused refused, Nat.zero_add]
    rfl
  rw [validField, validNames_of_list_or_tuple given, failed]
  rfl

/-- No element is reported where the winners pass the checks of all fields. -/
private theorem Sources.resolve_ne_element {s : Sources} (valid : ∀ f, ∃ v, validField f (s.winner f).1 = .ok v)
    (setting : String) (i : Nat) (complaint : Complaint) :
    s.layers.resolve ≠ .error (complain setting (some i) complaint) := by
  have passes (f : Field) : ∃ v, validSetting s.layers.settings f = .ok v := by
    rw [s.validSetting_eq]
    exact valid f
  rw [Layers.resolve]
  rcases validate_of_valid_fields passes with ⟨a, validated⟩ | ⟨other, failed⟩
  · rw [validated]
    exact Options.build_ne_badSetting a _ _
  · rw [failed]
    intro same
    cases same

end Settings

namespace Workspace
open Settings

/-- A list or tuple given for one of the lists, where the winners for all other fields pass. What is reported about an
element is the first one that is refused, with the number of the elements before it that are no blank text, which is
where it stands if and only if none of these is blank. -/
theorem resolve_misplaced (w w' : Workspace) (table overrides : List (String × Value)) (l : NameList)
    (xs : List Value) (preset : w.preset = (.ok (), w')) (loads : Project.tableAt w'.disk w'.projectPath = .ok table)
    (given : ((w'.sources table overrides).winner (.names l)).1 = .list xs ∨
      ((w'.sources table overrides).winner (.names l)).1 = .tuple xs)
    (others : ∀ f, f ≠ .names l → ∃ v, validField f ((w'.sources table overrides).winner f).1 = .ok v) :
    (∀ i complaint, (w.resolve overrides).1 = .error (complain l.name (some i) complaint) ↔
      ∃ front x back, xs = front ++ x :: back ∧ (∀ y ∈ front, IsTaken y) ∧ IsRefused x complaint ∧
        i = countTidied front) ∧
    ∀ front x back, xs = front ++ x :: back → (∀ y ∈ front, IsTaken y) → ¬ IsTaken x →
      ∃ i complaint, (w.resolve overrides).1 = .error (complain l.name (some i) complaint) ∧
        (i = front.length ↔ ∀ y ∈ front, isBlankEntry y = false) := by
  have resolved := resolve_eq_layers preset loads overrides
  have reported {front : List Value} {x : Value} {back : List Value} {complaint : Complaint}
      (split : xs = front ++ x :: back) (taken : ∀ y ∈ front, IsTaken y) (refused : IsRefused x complaint) :
      (w.resolve overrides).1 = .error (complain l.name (some (countTidied front)) complaint) := by
    subst split
    rw [resolved, Sources.resolve_of_refused (validField_of_split l taken refused given) others]
    rfl
  refine ⟨fun i complaint => ⟨?_, ?_⟩, ?_⟩
  · intro failed
    rcases allTaken_or_split xs with taken | ⟨front, x, back, complaint', split, taken, refused⟩
    · have valid (f : Field) : ∃ v, validField f ((w'.sources table overrides).winner f).1 = .ok v := by
        by_cases own : f = .names l
        · obtain rfl := own
          exact validField_of_allTaken l given taken
        · exact others f own
      have none := Sources.resolve_ne_element valid l.name i complaint
      rw [resolved] at failed
      cases built : (w'.sources table overrides).layers.resolve with
      | ok o => rw [built] at failed; cases failed
      | error fault =>
        rw [built] at failed none
        exact absurd (congrArg Except.error (Except.error.inj failed)) none
    · cases (reported split taken refused).symm.trans failed
      exact ⟨front, x, back, split, taken, refused, rfl⟩
  · rintro ⟨front, x, back, split, taken, refused, rfl⟩
    exact reported split taken refused
  · intro front x back split taken out
    obtain ⟨complaint, refused⟩ := (isTaken_or_isRefused x).resolve_left out
    exact ⟨_, complaint, reported split taken refused, countTidied_eq_length_iff⟩

private theorem others_of_only (l : NameList) (v : Value) (f : Field) (other : f ≠ .names l) :
    ∃ w, validField f ((fresh.sources [] [(l.name, v)]).winner f).1 = .ok w := by
  have unnamed : l.name ≠ f.name := Field.name_ne (Ne.symm other)
  have default : ((fresh.sources [] [(l.name, v)]).winner f).1 = Options.defaults f := by
    rw [Sources.winner, Sources.given?, sources, Entries.last?_cons]
    simp [unnamed, fresh]
  exact ⟨_, by rw [default, validField_defaults]⟩

/-- Octets that are no text are found where they stand behind a name and a version, and one place too early if a blank
text comes before them. -/
theorem resolve_misplaced_octets :
    (fresh.resolve [(NameList.included.name, .list [.text " A", .version .csharp8, .octets [255], .int 5])]).1 =
        .error (complain NameList.included.name (some 2) .unreadableText) ∧
      (fresh.resolve [(NameList.excluded.name, .tuple [.text " ", .text "A", .octets [255]])]).1 =
        .error (complain NameList.excluded.name (some 1) .unreadableText) := by
  have malformed : Text.Utf8.decode [255] = none := by decide
  obtain ⟨found, -⟩ := fresh.resolve_misplaced _ [] _ .included _ rfl rfl (.inl rfl)
    (others_of_only .included (.list [.text " A", .version .csharp8, .octets [255], .int 5]))
  obtain ⟨early, -⟩ := fresh.resolve_misplaced _ [] _ .excluded _ rfl rfl (.inr rfl)
    (others_of_only .excluded (.tuple [.text " ", .text "A", .octets [255]]))
  constructor
  · refine (found 2 .unreadableText).mpr ⟨[.text " A", .version .csharp8], _, _, rfl, ?_, .octets malformed, by decide⟩
    simp [IsTaken.text, IsTaken.version]
  · refine (early 1 .unreadableText).mpr ⟨[.text " ", .text "A"], _, _, rfl, ?_, .octets malformed, by decide⟩
    simp [IsTaken.text]

/-- A number behind a blank text is reported at the place of the blank text, which is taken. -/
theorem misplaced_after_blank :
    (fresh.resolve [(NameList.included.name, .list [.text "", .int 5])]).1 =
        .error (complain NameList.included.name (some 0) .notText) ∧
      ¬ ∀ (xs : List Value) (i : Nat) (complaint : Complaint),
        (fresh.resolve [(NameList.included.name, .list xs)]).1 =
            .error (complain NameList.included.name (some i) complaint) →
          ∃ x, xs[i]? = some x ∧ ∀ s, x ≠ .text s := by
  have reported : (fresh.resolve [(NameList.included.name, .list [.text "", .int 5])]).1 =
      .error (complain NameList.included.name (some 0) .notText) := by
    rw [resolve_eq_layers (w := fresh) rfl rfl]
    rfl
  refine ⟨reported, ?_⟩
  intro placed
  obtain ⟨x, here, noText⟩ := placed _ _ _ reported
  exact noText "" (Option.some.inj here).symm

end Workspace

end TypeForward
