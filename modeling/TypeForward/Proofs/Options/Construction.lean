import TypeForward.Entries
import TypeForward.Options.Basic
import TypeForward.Proofs.Text.Trimming

/-! What the construction of options requires of its arguments: genuine flags, and collections of texts that are not
blank. The names of what is built are trimmed and not blank, and those are all options that can be built. -/
namespace TypeForward.Options
open Entries

variable {a : Arguments} {o : Options}

private theorem readFlag_ok {flag : Flag} {given : Value} {b : Bool} (h : readFlag flag given = .ok b) :
    given = .bool b := by
  cases given with
  | bool b' => rw [Except.ok.inj h]
  | _ => cases h

/-- The entries that can be read are texts that are not blank. -/
theorem readEntries_ok {list : NameList} {entries : List Value} {names : List String}
    (h : readEntries list entries = .ok names) :
    ∃ texts : List String, entries = texts.map .text ∧ names = texts.map Text.trim ∧
      ∀ t ∈ texts, Text.isBlankText t = false := by
  induction entries generalizing names with
  | nil =>
    cases h
    exact ⟨[], rfl, rfl, by simp⟩
  | cons entry rest ih =>
    cases entry with
    | text s =>
      rw [readEntries] at h
      split at h
      · cases h
      · next some =>
        cases read : readEntries list rest with
        | error fault => rw [read] at h; cases h
        | ok others =>
          rw [read] at h
          obtain rfl := Except.ok.inj h
          obtain ⟨texts, rfl, rfl, fine⟩ := ih read
          exact ⟨s :: texts, rfl, rfl, List.forall_mem_cons.mpr ⟨by simpa using some, fine⟩⟩
    | _ => cases h

/-- Texts are taken as names, trimmed, unless one of them is blank. -/
theorem readEntries_texts (list : NameList) (names : List String) :
    (readEntries list (names.map .text) = .ok (names.map Text.trim) ∧ ∀ n ∈ names, Text.isBlankText n = false) ∨
      ((∃ cause, readEntries list (names.map .text) = .error (.configuration cause)) ∧
        ∃ n ∈ names, Text.isBlankText n = true) := by
  induction names with
  | nil => exact .inl ⟨rfl, by simp⟩
  | cons name rest ih =>
    rw [List.map_cons, readEntries]
    cases blank : Text.isBlankText name with
    | true => exact .inr ⟨⟨_, rfl⟩, name, List.mem_cons_self, blank⟩
    | false =>
      rcases ih with ⟨same, others⟩ | ⟨⟨cause, failed⟩, n, mem, hn⟩
      · refine .inl ⟨by simp only [same]; rfl, ?_⟩
        intro n mem
        rcases List.mem_cons.mp mem with rfl | mem
        · exact blank
        · exact others n mem
      · exact .inr ⟨⟨cause, by simp only [failed]; rfl⟩, n, List.mem_cons_of_mem _ mem, hn⟩

theorem readNames_ok {list : NameList} {given : Value} {names : List String} (h : readNames list given = .ok names) :
    given.isText = false ∧ ∃ entries, given.elements? = some entries ∧ readEntries list entries = .ok names := by
  unfold readNames at h
  split at h
  · cases h
  · next other =>
    split at h
    · next entries walked => exact ⟨by simpa using other, entries, walked, h⟩
    · cases h

theorem readNames_tuple (list : NameList) (xs : List Value) : readNames list (.tuple xs) = readEntries list xs := rfl

/-- Options from flags and lists of texts. -/
theorem build_cases {a : Arguments} {b : Flag → Bool} {texts : NameList → List String}
    (flags : ∀ g, a (.flag g) = .bool (b g)) (names : ∀ l, a (.names l) = .tuple ((texts l).map .text)) :
    (build a = .ok ⟨b .excludeForwards, b .publicTypes, (texts .included).map Text.trim,
        (texts .excluded).map Text.trim⟩ ∧ ∀ l, ∀ n ∈ texts l, Text.isBlankText n = false) ∨
      ((∃ cause, build a = .error (.configuration cause)) ∧ ∃ l, ∃ n ∈ texts l, Text.isBlankText n = true) := by
  unfold build
  rw [flags, flags, names, names, readNames_tuple, readNames_tuple]
  rcases readEntries_texts .included (texts .included) with ⟨same, fine⟩ | ⟨⟨cause, failed⟩, blank⟩
  · rcases readEntries_texts .excluded (texts .excluded) with ⟨same', fine'⟩ | ⟨⟨cause, failed⟩, blank⟩
    · rw [same, same']
      exact .inl ⟨rfl, fun l => by cases l with | included => exact fine | excluded => exact fine'⟩
    · rw [same, failed]
      exact .inr ⟨⟨cause, rfl⟩, .excluded, blank⟩
  · rw [failed]
    exact .inr ⟨⟨cause, rfl⟩, .included, blank⟩

private theorem bind_ok {α β : Type} {x : Except Fault α} {f : α → Except Fault β} {b : β} (h : x >>= f = .ok b) :
    ∃ a, x = .ok a ∧ f a = .ok b := by
  cases x with
  | error fault => cases h
  | ok a => exact ⟨a, rfl, h⟩

theorem build_ok (h : build a = .ok o) :
    (∀ g, a (.flag g) = .bool (o.flag g)) ∧ ∀ l, readNames l (a (.names l)) = .ok (o.names l) := by
  unfold build at h
  obtain ⟨excludeForwards, h₁, h⟩ := bind_ok h
  obtain ⟨publicTypes, h₂, h⟩ := bind_ok h
  obtain ⟨included, h₃, h⟩ := bind_ok h
  obtain ⟨excluded, h₄, h⟩ := bind_ok h
  obtain rfl := Except.ok.inj h
  constructor
  · intro g
    cases g with
    | excludeForwards => exact readFlag_ok h₁
    | publicTypes => exact readFlag_ok h₂
  · intro l
    cases l with
    | included => exact h₃
    | excluded => exact h₄

/-- Arguments by name are for fields; of several for one field the first counts, and a field without one has its
default. -/
private theorem arguments?_ok {pairs : List (String × Value)} (h : arguments? pairs = .ok a) :
    (∀ key ∈ keys pairs, ∃ f : Field, f.name = key) ∧ ∀ f, a f = (get? f.name pairs).getD (defaults f) := by
  induction pairs generalizing a with
  | nil =>
    cases h
    exact ⟨by simp [keys], fun f => rfl⟩
  | cons pair rest ih =>
    obtain ⟨name, given⟩ := pair
    obtain ⟨b, others, h⟩ := bind_ok h
    obtain ⟨known, values⟩ := ih others
    cases field : Field.ofName? name with
    | none =>
      simp only [field] at h
      cases h
    | some f =>
      simp only [field] at h
      obtain rfl := Except.ok.inj h
      obtain rfl := Field.ofName?_eq_some_iff.mp field
      refine ⟨List.forall_mem_cons.mpr ⟨⟨f, rfl⟩, known⟩, ?_⟩
      intro g
      by_cases own : g = f
      · simp [Arguments.set, get?, own]
      · have other : f.name ≠ g.name := Field.name_ne (Ne.symm own)
        simp [Arguments.set, get?, own, other, values]

theorem ofPairs_ok {pairs : List (String × Value)} (h : ofPairs pairs = .ok o) :
    (∀ key ∈ keys pairs, ∃ f : Field, f.name = key) ∧
      ∃ a : Arguments, (∀ f, a f = (get? f.name pairs).getD (defaults f)) ∧ build a = .ok o := by
  obtain ⟨a, arguments, built⟩ := bind_ok h
  obtain ⟨known, values⟩ := arguments?_ok arguments
  exact ⟨known, a, values, built⟩

/-- The texts given for a list of names, trimmed. -/
def Arguments.trimmed (a : Arguments) (list : NameList) : List String :=
  (((a (.names list)).elements?).getD []).filterMap fun entry => entry.text?.map Text.trim

/-- The names of options are the texts that they are built from, trimmed. -/
theorem names_of_build (h : build a = .ok o) (list : NameList) : o.names list = a.trimmed list := by
  obtain ⟨-, entries, walked, read⟩ := readNames_ok ((build_ok h).2 list)
  obtain ⟨texts, rfl, same, -⟩ := readEntries_ok read
  rw [same, Arguments.trimmed, walked, Option.getD_some, List.filterMap_map]
  exact (congrFun List.filterMap_eq_map texts).symm

/-- Options are built from their own values, if their names are trimmed and not blank. -/
theorem build_value (fine : ∀ l, ∀ n ∈ o.names l, Text.trim n = n ∧ Text.isBlankText n = false) :
    build o.value = .ok o := by
  have kept (l : NameList) : (o.names l).map Text.trim = o.names l := by
    calc
      (o.names l).map Text.trim = (o.names l).map id := List.map_congr_left fun n mem => (fine l n mem).1
      _ = o.names l := List.map_id _
  rcases build_cases (a := o.value) (fun _ => rfl) (fun _ => rfl) with ⟨built, -⟩ | ⟨-, l, n, mem, blank⟩
  · rw [built, kept, kept]
    rfl
  · rw [(fine l n mem).2] at blank
    cases blank

/-- Options that there are: those that some arguments build. -/
def IsBuilt (o : Options) : Prop :=
  ∃ a, build a = .ok o

/-- Names that are trimmed and not blank are all that options need, and then their own values build them. -/
theorem isBuilt_iff : o.IsBuilt ↔ ∀ l, ∀ n ∈ o.names l, Text.trim n = n ∧ Text.isBlankText n = false := by
  constructor
  · rintro ⟨a, built⟩ l n mem
    obtain ⟨-, entries, -, read⟩ := readNames_ok ((build_ok built).2 l)
    obtain ⟨texts, -, same, fine⟩ := readEntries_ok read
    rw [same] at mem
    obtain ⟨t, given, rfl⟩ := List.mem_map.mp mem
    exact ⟨Text.trim_trim t, (Text.isBlankText_trim t).trans (fine t given)⟩
  · intro fine
    exact ⟨o.value, build_value fine⟩

end TypeForward.Options
