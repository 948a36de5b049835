import TypeForward.Proofs.Settings.Collections

/-! A text of names that stands in a variable, in the project file or in an override. Names are told apart once or twice
on the way and trimmed again behind that, but what has been told apart stays as it is: the options are the same. -/
namespace TypeForward

/-- Cutting is that of lists. -/
theorem Text.pieces_eq_splitOnP (isSeparator : Char → Bool) (cs : List Char) :
    Text.pieces isSeparator cs = cs.splitOnP isSeparator := by
  induction cs with
  | nil => rfl
  | cons c cs ih =>
    obtain ⟨piece, rest, split⟩ := List.exists_cons_of_ne_nil (List.splitOnP_ne_nil isSeparator cs)
    rw [List.splitOnP_cons_eq_if_modifyHead, Text.pieces, ih, split]
    rfl

namespace Settings
open Entries

/-- What is among the names already stays there. -/
private theorem namesAmong_namesAmong (texts : List String) : namesAmong (namesAmong texts) = namesAmong texts := by
  rw [namesAmong_of_fine fun _ mem => fine_of_mem_namesAmong mem, trim_namesAmong]

/-- The names in a text are those among its pieces. -/
theorem namesIn_eq (text : String) :
    namesIn text = namesAmong ((text.toList.splitOnP fun c => c == ';' || c == ',').map String.ofList) := by
  have some (piece : List Char) : decide (Text.trimmed piece ≠ []) = !Text.isBlankText (String.ofList piece) := by
    rw [Bool.eq_iff_iff, decide_eq_true_iff, Bool.not_eq_true', ← Bool.not_eq_true, Text.isBlankText_iff,
      String.toList_ofList, ne_eq, Text.trimmed_eq_nil_iff]
  have same (piece : List Char) : String.ofList (Text.trimmed piece) = Text.trim (String.ofList piece) := by
    rw [Text.trim, String.toList_ofList]
  rw [namesIn, nameChars, Text.pieces_eq_splitOnP, namesAmong, List.filter_map, List.filter_map, List.map_map,
    List.map_map]
  simp only [Function.comp_def, some, same]
  rfl

/-- A text stands for the names in it. -/
private theorem validNames_splitNames (text : String) : validNames (splitNames (.text text)) = .ok (namesIn text) := by
  rw [splitNames_text, validNames_of_ordered (.inl rfl), namesIn_eq, namesAmong_namesAmong]

private theorem validNames_text (text : String) : validNames (.text text) = .ok (namesIn text) :=
  validNames_splitNames text

/-- An entry that counts among others that do not. -/
private theorem last?_among {κ α : Type} {p : κ → Prop} [DecidablePred p] {front back : List (κ × α)} {key : κ} {a : α}
    (own : p key) (others : ∀ entry ∈ front ++ back, ¬ p entry.1) :
    last? p (front ++ (key, a) :: back) = some a := by
  induction front with
  | nil =>
    have none : last? p back = none := last?_eq_none_iff.mpr others
    rw [List.nil_append, last?_cons, none, if_pos own, Option.none_or]
  | cons first rest ih =>
    rw [List.cons_append, last?_cons, ih fun entry mem => others entry (List.mem_cons_of_mem _ mem), Option.some_or]

/-- None of the variables is for a field. -/
def IsSilent (env : Environment) : Prop :=
  ∀ entry ∈ env, ∀ f : Field, Environment.settingOf? entry.1 ≠ some f.name

private theorem IsSilent.last?_eq_none {env : Environment} (silent : IsSilent env) (f : Field) :
    last? (Environment.settingOf? · = some f.name) env = none :=
  last?_eq_none_iff.mpr fun entry mem => silent entry mem f

/-- A variable that holds no NUL can be set, also where none is set for a field yet. -/
private theorem IsSilent.assign_eq {env : Environment} (silent : IsSilent env) {text : String}
    (plain : '\x00' ∉ text.toList)
    (f : Field) : env.assign (variableFor f.name) text = .ok (env ++ [(variableFor f.name, text)]) := by
  have unset : variableFor f.name ∉ keys env := by
    intro mem
    obtain ⟨entry, mem, same⟩ := List.mem_map.mp mem
    exact silent entry mem f (same ▸ settingOf?_variableFor f)
  have usable : (variableFor f.name).toList.any (fun c => c == '=' || c == '\x00') = false ∧
      variableFor f.name ≠ "" := by
    cases f with
    | flag g => cases g <;> decide
    | names l => cases l <;> decide
  rw [Environment.assign, usable.1, put_of_not_mem unset, if_neg (by simpa using plain), if_neg usable.2]

/-- A text is given for one of the lists and nothing else is set. It stands in a variable, whatever the case of its
name, in the project file, whatever dashes the key has, or in an override. -/
inductive Spells (l : NameList) (text : String) : Sources → Prop where
  | inVariable (file name : String) (front back : Environment) (own : Environment.settingOf? name = some l.name)
      (silent : IsSilent (front ++ back)) : Spells l text ⟨file, [], front ++ (name, text) :: back, []⟩
  | inTable (file key : String) (env : Environment) (own : settingOf key = l.name) (silent : IsSilent env) :
      Spells l text ⟨file, [(key, .text text)], env, []⟩
  | inOverrides (file : String) (env : Environment) (silent : IsSilent env) :
      Spells l text ⟨file, [], env, [(l.name, .text text)]⟩

/-- Nothing is set. -/
def Sources.bare : Sources := ⟨"", [], [], []⟩

private theorem Sources.acceptable_bare : bare.Acceptable := by
  refine ⟨⟨?_, ?_⟩, fun g => ⟨false, rfl⟩, fun l => ⟨[], rfl, by simp⟩⟩
  · simp [bare, keys]
  · simp [bare, keys]

private theorem Sources.means_bare : bare.Means ⟨false, false, [], []⟩ := by
  constructor
  · intro g
    cases g <;> rfl
  · intro l
    exact ⟨[], rfl, by cases l <;> rfl⟩

namespace Spells

variable {l : NameList} {text : String} {s : Sources}

private theorem onlyFields (spells : Spells l text s) : s.OnlyFields := by
  cases spells with
  | inVariable => exact ⟨by simp [keys], by simp [keys]⟩
  | inTable file key env own => exact ⟨by simp [keys], by simpa [keys] using ⟨.names l, own.symm⟩⟩
  | inOverrides => exact ⟨by simpa [keys] using ⟨.names l, rfl⟩, by simp [keys]⟩

/-- What is given for the list means the names in the text. -/
private theorem given?_self (spells : Spells l text s) :
    ∃ v p, s.given? (.names l) = some (v, p) ∧ validNames v = .ok (namesIn text) := by
  cases spells with
  | inVariable file name front back own silent =>
    have last : last? (Environment.settingOf? · = some (Field.names l).name) (front ++ (name, text) :: back) =
        some text := last?_among own fun entry mem => silent entry mem (.names l)
    refine ⟨_, .environment l.name, ?_, validNames_splitNames text⟩
    simp only [Sources.given?, last?_nil, last]
    rfl
  | inTable file key env own silent =>
    have last : last? (settingOf · = (Field.names l).name) [(key, Value.text text)] = some (.text text) := by
      rw [last?_cons, last?_nil, Option.none_or]
      exact if_pos own
    refine ⟨.text text, .project file, ?_, validNames_text text⟩
    simp only [Sources.given?, last?_nil, silent.last?_eq_none, last]
    rfl
  | inOverrides file env silent =>
    have last : last? (· = (Field.names l).name) [(l.name, Value.text text)] = some (.text text) := by
      rw [last?_cons, last?_nil, Option.none_or]
      exact if_pos rfl
    refine ⟨.text text, .overrides, ?_, validNames_text text⟩
    simp only [Sources.given?, last]
    rfl

/-- For other fields nothing is given. -/
private theorem given?_of_ne (spells : Spells l text s) {f : Field} (other : f ≠ .names l) : s.given? f = none := by
  have unnamed : l.name ≠ f.name := Field.name_ne (Ne.symm other)
  cases spells with
  | inVariable file name front back own silent =>
    have none : last? (Environment.settingOf? · = some f.name) (front ++ (name, text) :: back) = none := by
      refine last?_eq_none_iff.mpr fun entry mem => ?_
      rcases List.mem_append.mp mem with mem | mem
      · exact silent entry (List.mem_append_left _ mem) f
      rcases List.mem_cons.mp mem with rfl | mem
      · rw [own]
        exact fun same => unnamed (Option.some.inj same)
      · exact silent entry (List.mem_append_right _ mem) f
    simp only [Sources.given?, last?_nil, none]
    rfl
  | inTable file key env own silent =>
    have none : last? (settingOf · = f.name) [(key, Value.text text)] = none :=
      last?_eq_none_iff.mpr (by simpa [own] using unnamed)
    simp only [Sources.given?, last?_nil, silent.last?_eq_none, none]
    rfl
  | inOverrides file env silent =>
    have none : last? (· = f.name) [(l.name, Value.text text)] = none :=
      last?_eq_none_iff.mpr (by simpa using unnamed)
    simp only [Sources.given?, last?_nil, silent.last?_eq_none, none]
    rfl

/-- However the text is given, the list has the names in it and all else is by default. -/
theorem resolve_eq (spells : Spells l text s) :
    s.layers.resolve = .ok ((⟨false, false, [], []⟩ : Options).withNames l (namesIn text)) := by
  obtain ⟨v, p, given, valid⟩ := spells.given?_self
  have own : validNames (s.winner (.names l)).1 = .ok (namesIn text) := by rw [Sources.winner, given]; exact valid
  have others (f : Field) (other : f ≠ .names l) : (s.winner f).1 = (Sources.bare.winner f).1 := by
    rw [Sources.winner, spells.given?_of_ne other]
    rfl
  have fine (n : String) (mem : n ∈ namesIn text) : Text.isBlankText n = false := by
    rw [namesIn_eq] at mem
    exact fine_of_mem_namesAmong mem
  have trimmed : (namesIn text).map Text.trim = namesIn text := by rw [namesIn_eq, trim_namesAmong]
  have resolved := Sources.resolve_withNames spells.onlyFields Sources.acceptable_bare others Sources.means_bare own
    fine
  rwa [trimmed] at resolved

end Spells

end Settings

namespace Workspace
open Settings

/-- A text for one of the lists, as the only setting. In a variable, in the project file and in an override it gives the
same options, and never fails: the list has the pieces between separators that are not blank, trimmed and in order. A
variable can be set to any text without a NUL. -/
theorem resolve_spelled (l : NameList) (text : String) :
    let pieces := (text.toList.splitOnP fun c => c == ';' || c == ',').map String.ofList
    let o := (⟨false, false, [], []⟩ : Options).withNames l
      ((pieces.filter fun piece => !Text.isBlankText piece).map Text.trim)
    (∀ (w w' : Workspace) (table overrides : List (String × Value)), w.preset = (.ok (), w') →
      Project.tableAt w'.disk w'.projectPath = .ok table → Spells l text (w'.sources table overrides) →
        ∃ r, (w.resolve overrides).1 = .ok r ∧ r.options = o) ∧
      ∀ env, IsSilent env → '\x00' ∉ text.toList →
        ∃ env', Environment.assign env (variableFor l.name) text = .ok env' ∧
          ∀ file, Spells l text ⟨file, [], env', []⟩ := by
  intro pieces o
  constructor
  · intro w w' table overrides preset loads spells
    have resolved := resolve_eq_layers preset loads overrides
    rw [spells.resolve_eq, namesIn_eq] at resolved
    exact ⟨_, resolved, rfl⟩
  · intro env silent plain
    refine ⟨_, silent.assign_eq plain (.names l), fun file => ?_⟩
    exact .inVariable file _ env [] (settingOf?_variableFor (.names l)) (by rwa [List.append_nil])

/-- A text with white space, separators side by side and one at the end. -/
def untidyText : String := " A;,B\t; "

def untidyFile : String := "[tool.forwardgen]\nexclude-generated_types = \" A;,B\\t; \""

/-- It is given in each of the three ways, and a variable can be set to it. -/
theorem resolve_spelled_untidy :
    let o : Options := ⟨false, false, [], ["A", "B"]⟩
    (∃ r, ((alone "FORWARDGEN_Exclude_Generated_Types" untidyText).resolve []).1 = .ok r ∧ r.options = o) ∧
      (∃ r, ((ofProject [] untidyFile true).resolve []).1 = .ok r ∧ r.options = o) ∧
      (∃ r, (fresh.resolve [(NameList.excluded.name, .text untidyText)]).1 = .ok r ∧ r.options = o) ∧
      ∃ env, Environment.assign [] (variableFor NameList.excluded.name) untidyText = .ok env ∧
        ∀ file, Spells .excluded untidyText ⟨file, [], env, []⟩ := by
  intro o
  have named : Environment.settingOf? "FORWARDGEN_Exclude_Generated_Types" = some NameList.excluded.name := by decide
  have key : settingOf "exclude-generated_types" = NameList.excluded.name := by decide
  have silent : IsSilent [] := nofun
  have table : Project.tableAt (ofProject [] untidyFile true).disk (ofProject [] untidyFile true).projectPath =
      .ok [("exclude-generated_types", .text untidyText)] := tableAt_ofProject rfl (by cbv) (by cbv)
  have cut : (untidyText.toList.splitOnP fun c => c == ';' || c == ',') = [[' ', 'A'], [], ['B', '\t'], [' ']] := by
    decide
  obtain ⟨resolved, assigned⟩ := resolve_spelled .excluded untidyText
  rw [cut] at resolved
  refine ⟨?_, ?_, ?_, assigned [] silent (by decide)⟩
  · let single := alone "FORWARDGEN_Exclude_Generated_Types" untidyText
    have empty : Project.tableAt single.disk single.projectPath = .ok [] := tableAt_alone (f := .names .excluded) named
    exact resolved single single [] [] rfl empty (.inVariable _ _ [] [] named silent)
  · let project := ofProject [] untidyFile true
    exact resolved project project _ [] rfl table (.inTable _ _ [] key silent)
  · exact resolved fresh ⟨[], .fresh, true⟩ [] _ rfl rfl (.inOverrides _ [] silent)

end Workspace

end TypeForward
