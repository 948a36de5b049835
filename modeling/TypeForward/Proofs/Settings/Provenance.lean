import TypeForward.Proofs.Settings.Precedence

/-! Which variable a value from the environment came from, and which one its provenance names. Of the variables for a
field, whatever the case of their names, the last one is taken, but the provenance always names the one in capitals. -/
namespace TypeForward

namespace Settings
open Entries

/-- The variable that a provenance names for a field is one for that field. -/
theorem settingOf?_variableFor (f : Field) : Environment.settingOf? (variableFor f.name) = some f.name := by
  cases f with
  | flag g => cases g <;> decide
  | names l => cases l <;> decide

/-- The variable that says where the project file is is for no field. -/
theorem settingOf?_projectFileVariable (f : Field) :
    Environment.settingOf? Environment.projectFileVariable ≠ some f.name := by
  have path : Environment.settingOf? Environment.projectFileVariable = some Environment.projectFileSetting := by decide
  have unknown : Field.ofName? Environment.projectFileSetting = none := by decide
  rw [path]
  intro same
  rw [Option.some.inj same, Field.ofName?_name] at unknown
  cases unknown

namespace Sources

variable {s s' : Sources} {f : Field}

/-- What comes from the environment is what the last variable for the field means. -/
private theorem winner_of_environment (h : (s.winner f).2.origin = .environment) :
    ∃ text, last? (Environment.settingOf? · = some f.name) s.environment = some text ∧
      s.winner f = (Environment.valueFor f text, .environment f.name) := by
  revert h
  unfold winner given?
  cases last? (· = f.name) s.overrides with
  | some v => nofun
  | none =>
    cases last? (Environment.settingOf? · = some f.name) s.environment with
    | some text => exact fun _ => ⟨text, rfl, rfl⟩
    | none =>
      cases last? (settingOf · = f.name) s.table with
      | some v => nofun
      | none => nofun

/-- The value of a field depends on what wins for it, and on nothing else. -/
private theorem Means.value_congr {o o' : Options} (means : s.Means o) (means' : s'.Means o')
    (same : (s.winner f).1 = (s'.winner f).1) : o.value f = o'.value f := by
  cases f with
  | flag g =>
    have valid := means.1 g
    rw [same, means'.1 g] at valid
    have flags : o'.flag g = o.flag g := Except.ok.inj valid
    rw [Options.value, Options.value, flags]
  | names l =>
    obtain ⟨texts, valid, trimmed⟩ := means.2 l
    obtain ⟨texts', valid', trimmed'⟩ := means'.2 l
    rw [same, valid'] at valid
    obtain rfl := Except.ok.inj valid
    rw [Options.value, Options.value, trimmed, trimmed']

/-- Sources that are acceptable stay so when only one field is set, to what wins for it. -/
theorem Acceptable.only (acceptable : s.Acceptable) (known : s'.OnlyFields) (same : (s'.winner f).1 = (s.winner f).1)
    (others : ∀ g, g ≠ f → (s'.winner g).1 = Options.defaults g) : s'.Acceptable := by
  refine ⟨known, ?_, ?_⟩
  · intro g
    by_cases own : Field.flag g = f
    · rw [own, same, ← own]
      exact acceptable.flags g
    · rw [others _ own]
      exact ⟨false, rfl⟩
  · intro l
    by_cases own : Field.names l = f
    · rw [own, same, ← own]
      exact acceptable.names l
    · rw [others _ own]
      exact ⟨[], rfl, by simp⟩

end Sources

end Settings

namespace Workspace
open Settings Entries

/-- Where one variable is set and nothing else: there is no project file, and no presets are left to read. -/
def alone (name text : String) : Workspace := ⟨[(name, text)], .fresh, true⟩

/-- The value of a field that a variable yields when it is the only one. -/
def valueAlone? (name text : String) (f : Field) : Option Value :=
  ((alone name text).resolve []).1.toOption.map fun r => r.options.value f

/-- The provenance of a field names a variable that is set, and that one alone yields the value of the field. -/
def Resolution.IsTruthful (r : Resolution) (env : Environment) (f : Field) : Prop :=
  ∃ name text, (r.provenance f).variableName = some name ∧ (name, text) ∈ env ∧
    valueAlone? name text f = some (r.options.value f)

/-- What resolves has read its presets and loaded its project file. -/
theorem sources_of_resolve {w : Workspace} {overrides : List (String × Value)} {r : Resolution}
    (h : (w.resolve overrides).1 = .ok r) :
    ∃ table, w.preset = (.ok (), w.preset.2) ∧
      Project.tableAt w.preset.2.disk w.preset.2.projectPath = .ok table := by
  rcases preset : w.preset with ⟨_ | ⟨⟨⟩⟩, w'⟩
  · simp only [resolve, preset] at h
    cases h
  · cases loads : Project.tableAt w'.disk w'.projectPath with
    | ok table => exact ⟨table, rfl, rfl⟩
    | error fault =>
      rw [resolve_eq_tableAt preset, loads] at h
      cases h

theorem tableAt_alone {name text : String} {f : Field} (own : Environment.settingOf? name = some f.name) :
    Project.tableAt (alone name text).disk (alone name text).projectPath = .ok [] := by
  have other : name ≠ Environment.projectFileVariable := by
    rintro rfl
    exact settingOf?_projectFileVariable f own
  have unset : get? Environment.projectFileVariable (alone name text).environment = none := by
    simp [alone, get?, other]
  have absent : Project.tableAt .fresh ⟨.home, ["pyproject.toml"]⟩ = .ok [] := by rfl
  rw [projectPath, unset]
  exact absent

private theorem winner_alone {name : String} {f : Field} (own : Environment.settingOf? name = some f.name)
    (text : String) :
    ((alone name text).sources [] []).winner f = (Environment.valueFor f text, .environment f.name) := by
  simp [sources, alone, Sources.winner, Sources.given?, last?_cons, own]

/-- A variable for a field, alone, yields what it means for the field if the field takes it. -/
private theorem valueAlone?_eq {s : Sources} {o : Options} {name text : String} {f : Field} (acceptable : s.Acceptable)
    (means : s.Means o) (own : Environment.settingOf? name = some f.name)
    (wins : (s.winner f).1 = Environment.valueFor f text) : valueAlone? name text f = some (o.value f) := by
  let s' := (alone name text).sources [] []
  have others : ∀ g, g ≠ f → (s'.winner g).1 = Options.defaults g := by
    intro g other
    have unset : f.name ≠ g.name := Field.name_ne (Ne.symm other)
    simp [s', sources, alone, Sources.winner, Sources.given?, last?_cons, own, unset]
  have same : (s'.winner f).1 = (s.winner f).1 := by rw [winner_alone own, wins]
  have known : s'.OnlyFields := by simp [s', Sources.OnlyFields, sources, keys]
  rw [valueAlone?, resolve_eq_layers rfl (tableAt_alone own) []]
  rcases s'.resolve_cases with ⟨-, o', resolved, means'⟩ | ⟨refused, -⟩
  · rw [resolved, means.value_congr means' same.symm]
    rfl
  · exact absurd (acceptable.only known same others) refused

/-- Resolution that takes the value of a field from the environment takes it from the last variable for the field,
whatever the case of its name, and the value is what this variable yields alone. The provenance names the variable in
capitals, which is one for the field, whether that is set or not. So it is truthful exactly if that one is set as well
and yields the same, and always if the last variable for the field is itself in capitals. -/
theorem provenance_of_environment (w : Workspace) (overrides : List (String × Value)) {r : Resolution}
    (h : (w.resolve overrides).1 = .ok r) (f : Field) (given : (r.provenance f).origin = .environment) :
    let env := w.preset.2.environment
    let capitals := variableFor f.name
    (r.provenance f).variableName = some capitals ∧ Environment.settingOf? capitals = some f.name ∧
      ∃ front name text back, env = front ++ (name, text) :: back ∧ Environment.settingOf? name = some f.name ∧
        (∀ entry ∈ back, Environment.settingOf? entry.1 ≠ some f.name) ∧
        valueAlone? name text f = some (r.options.value f) ∧
        (r.IsTruthful env f ↔
          ∃ text', (capitals, text') ∈ env ∧ valueAlone? capitals text' f = valueAlone? name text f) ∧
        (name = capitals → r.IsTruthful env f) := by
  intro env capitals
  obtain ⟨table, preset, loads⟩ := sources_of_resolve h
  rw [resolve_eq_layers preset loads overrides] at h
  let s := w.preset.2.sources table overrides
  rcases s.resolve_cases with ⟨acceptable, o, resolved, means⟩ | ⟨-, cause, failed⟩
  · rw [resolved] at h
    obtain rfl := Except.ok.inj h
    obtain ⟨text, last, winner⟩ := Sources.winner_of_environment given
    have named : ((s.winner f).2).variableName = some capitals := by rw [winner]; rfl
    obtain ⟨front, name, back, split, own, others⟩ := last?_eq_some last
    have yields : valueAlone? name text f = some (o.value f) :=
      valueAlone?_eq acceptable means own (congrArg Prod.fst winner)
    have truthful : Resolution.IsTruthful ⟨o, fun f => (s.winner f).2⟩ env f ↔
        ∃ text', (capitals, text') ∈ env ∧ valueAlone? capitals text' f = valueAlone? name text f := by
      rw [yields]
      constructor
      · rintro ⟨name', text', same, mem, same'⟩
        obtain rfl : capitals = name' := Option.some.inj (named.symm.trans same)
        exact ⟨text', mem, same'⟩
      · rintro ⟨text', mem, same'⟩
        exact ⟨capitals, text', named, mem, same'⟩
    refine ⟨named, settingOf?_variableFor f, front, name, text, back, split, own, others, yields, truthful, ?_⟩
    rintro rfl
    exact truthful.mpr ⟨text, by rw [show env = _ from split]; simp, rfl⟩
  · rw [failed] at h
    cases h

/-- Two variables for one field, the last one in capitals. -/
def twice : Workspace :=
  ⟨[("FORWARDGEN_exclude_generated_types", "A"), ("FORWARDGEN_EXCLUDE_GENERATED_TYPES", "B")], .fresh, true⟩

private theorem variableFor_excluded :
    variableFor (Field.names .excluded).name = "FORWARDGEN_EXCLUDE_GENERATED_TYPES" := by decide

/-- The last one counts and is the one named. -/
theorem provenance_of_environment_twice :
    ∃ r, (twice.resolve []).1 = .ok r ∧ (r.provenance (.names .excluded)).origin = .environment ∧
      r.options.excluded = ["B"] ∧ r.IsTruthful twice.preset.2.environment (.names .excluded) := by
  have small : Environment.settingOf? "FORWARDGEN_exclude_generated_types" = some (Field.names .excluded).name := by
    decide
  have capitals : Environment.settingOf? "FORWARDGEN_EXCLUDE_GENERATED_TYPES" = some (Field.names .excluded).name := by
    decide
  have built : (twice.sources [] []).layers.resolve = .ok ⟨false, false, [], ["B"]⟩ := by
    simp only [sources, twice, Sources.layers, Environment.settings, List.foldl_cons, List.foldl_nil, small, capitals]
    rfl
  have resolved := resolve_eq_layers (w := twice) rfl rfl []
  rw [built] at resolved
  have given : ((twice.sources [] []).winner (.names .excluded)).2.origin = .environment := by rfl
  have same : valueAlone? "FORWARDGEN_EXCLUDE_GENERATED_TYPES" "B" (.names .excluded) =
      some (.tuple [.text "B"]) := by rfl
  obtain ⟨-, -, _, _, _, _, _, -, -, yields, truthful, -⟩ :=
    twice.provenance_of_environment [] resolved (.names .excluded) given
  refine ⟨_, resolved, given, rfl, truthful.mpr ?_⟩
  rw [yields, variableFor_excluded]
  exact ⟨"B", List.mem_cons_of_mem _ List.mem_cons_self, same⟩

/-- A variable in small letters sets its field, but the provenance names one that is not set. -/
theorem untruthful_of_small_letters :
    let w := alone "FORWARDGEN_exclude_generated_types" "System.Range"
    ∃ r, (w.resolve []).1 = .ok r ∧ r.options.excluded = ["System.Range"] ∧
      (r.provenance (.names .excluded)).origin = .environment ∧
      (r.provenance (.names .excluded)).variableName = some "FORWARDGEN_EXCLUDE_GENERATED_TYPES" ∧
      w.preset.2.environment = [("FORWARDGEN_exclude_generated_types", "System.Range")] ∧
      ¬ r.IsTruthful w.preset.2.environment (.names .excluded) := by
  have own : Environment.settingOf? "FORWARDGEN_exclude_generated_types" = some (Field.names .excluded).name := by
    decide
  have built : ((alone "FORWARDGEN_exclude_generated_types" "System.Range").sources [] []).layers.resolve =
      .ok ⟨false, false, [], ["System.Range"]⟩ := by rfl
  have resolved :=
    resolve_eq_layers (w := alone "FORWARDGEN_exclude_generated_types" "System.Range") rfl (tableAt_alone own) []
  rw [built] at resolved
  have winner := winner_alone own "System.Range"
  have given := congrArg (·.2.origin) winner
  have named := (congrArg (·.2.variableName) winner).trans (congrArg some variableFor_excluded)
  refine ⟨_, resolved, rfl, given, named, rfl, ?_⟩
  rintro ⟨reported, text, same, mem, -⟩
  obtain rfl := Option.some.inj (named.symm.trans same)
  have only : ("FORWARDGEN_EXCLUDE_GENERATED_TYPES", text) = ("FORWARDGEN_exclude_generated_types", "System.Range") :=
    List.mem_singleton.mp mem
  have other : "FORWARDGEN_EXCLUDE_GENERATED_TYPES" ≠ "FORWARDGEN_exclude_generated_types" := by decide
  exact other (congrArg Prod.fst only)

end Workspace

end TypeForward
