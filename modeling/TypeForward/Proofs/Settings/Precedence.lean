import Mathlib
import TypeForward.Proofs.Settings.Acceptance

/-! Resolution of settings, field by field: the value that wins is checked, trimmed and taken, and its provenance is
reported. What a higher layer hides plays no part. -/
namespace TypeForward.Settings
open Entries

namespace Sources

variable {s : Sources}

/-- What the merged settings give for a field is checked like the winner. -/
theorem validSetting_eq (s : Sources) (f : Field) :
    validSetting s.layers.settings f = validField f (s.winner f).1 := by
  have found : get? f.name s.layers.settings = (get? f.name s.layers.merged).map (·.1) :=
    get?_map (fun _ (entry : Value × Provenance) => entry.1) f.name s.layers.merged
  rw [validSetting, found, s.get?_merged f, winner, given?]
  cases last? (· = f.name) s.overrides with
  | some v => rfl
  | none =>
    cases last? (Environment.settingOf? · = some f.name) s.environment with
    | some text => rfl
    | none =>
      cases last? (settingOf · = f.name) s.table with
      | some v => exact validField_taken f v
      | none => exact (validField_defaults f).symm

/-- The provenance of a field is that of the winner. -/
private theorem provenance_eq (s : Sources) (f : Field) : s.layers.provenance f = (s.winner f).2 := by
  rw [Layers.provenance, s.get?_merged f, winner, given?]
  cases last? (· = f.name) s.overrides with
  | some v => rfl
  | none =>
    cases last? (Environment.settingOf? · = some f.name) s.environment with
    | some text => rfl
    | none => cases last? (settingOf · = f.name) s.table <;> rfl

/-- Overrides and table have settings for fields only. -/
def OnlyFields (s : Sources) : Prop :=
  (∀ key ∈ keys s.overrides, ∃ f : Field, f.name = key) ∧ ∀ key ∈ keys s.table, ∃ f : Field, f.name = settingOf key

/-- The settings are for fields, the winners pass the checks of their fields, and no name is blank. -/
structure Acceptable (s : Sources) : Prop where
  known : s.OnlyFields
  flags : ∀ g, ∃ b, validFlag (s.winner (.flag g)).1 = .ok b
  names : ∀ l, ∃ names, validNames (s.winner (.names l)).1 = .ok names ∧ ∀ n ∈ names, Text.isBlankText n = false

/-- Options are what the winners mean: flags as they are checked, names trimmed. -/
def Means (s : Sources) (o : Options) : Prop :=
  (∀ g, validFlag (s.winner (.flag g)).1 = .ok (o.flag g)) ∧
  ∀ l, ∃ names, validNames (s.winner (.names l)).1 = .ok names ∧ o.names l = names.map Text.trim

theorem Means.unique {o o' : Options} (means : s.Means o) (means' : s.Means o') : o = o' := by
  have flags (g : Flag) : o.flag g = o'.flag g := Except.ok.inj ((means.1 g).symm.trans (means'.1 g))
  have names (l : NameList) : o.names l = o'.names l := by
    obtain ⟨texts, valid, same⟩ := means.2 l
    obtain ⟨texts', valid', same'⟩ := means'.2 l
    obtain rfl := Except.ok.inj (valid.symm.trans valid')
    exact same.trans same'.symm
  rcases o with ⟨b₁, b₂, l₁, l₂⟩
  rcases o' with ⟨b₁', b₂', l₁', l₂'⟩
  obtain rfl : b₁ = b₁' := flags .excludeForwards
  obtain rfl : b₂ = b₂' := flags .publicTypes
  obtain rfl : l₁ = l₁' := names .included
  obtain rfl : l₂ = l₂' := names .excluded
  rfl

theorem known_iff (s : Sources) :
    (∀ entry ∈ s.layers.settings, Field.ofName? entry.1 ≠ none) ↔ s.OnlyFields := by
  have field {key : String} (known : Field.ofName? key ≠ none) : ∃ f : Field, f.name = key := by
    obtain ⟨f, hf⟩ := Option.ne_none_iff_exists'.mp known
    exact ⟨f, Field.ofName?_eq_some_iff.mp hf⟩
  have merged (key : String) : (∃ entry ∈ s.layers.settings, entry.1 = key) ↔ key ∈ keys s.layers.merged := by
    simp [Layers.settings, keys]
  constructor
  · intro known
    have all {key : String} (mem : Field.ofName? key = none → key ∈ keys s.layers.merged) :
        ∃ f : Field, f.name = key := by
      apply field
      intro unknown
      obtain ⟨entry, here, rfl⟩ := (merged key).mpr (mem unknown)
      exact known entry here unknown
    constructor
    · intro key mem
      apply all
      intro unknown
      exact (s.mem_keys_merged unknown).mpr (.inl mem)
    · intro key mem
      apply all
      intro unknown
      exact (s.mem_keys_merged unknown).mpr (.inr ⟨key, mem, rfl⟩)
  · rintro ⟨overrides, table⟩ entry mem unknown
    rcases (s.mem_keys_merged unknown).mp ((merged _).mp ⟨entry, mem, rfl⟩) with mem | ⟨key, mem, same⟩
    · obtain ⟨f, hf⟩ := overrides _ mem
      rw [← hf, Field.ofName?_name] at unknown
      cases unknown
    · obtain ⟨f, hf⟩ := table key mem
      rw [← same, ← hf, Field.ofName?_name] at unknown
      cases unknown

theorem Acceptable.valid (acceptable : s.Acceptable) (f : Field) : ∃ v, validField f (s.winner f).1 = .ok v := by
  cases f with
  | flag g =>
    obtain ⟨b, hb⟩ := acceptable.flags g
    exact ⟨.bool b, by rw [validField, hb]⟩
  | names l =>
    obtain ⟨names, hn, -⟩ := acceptable.names l
    exact ⟨.tuple (names.map .text), by rw [validField, hn]⟩

/-- When all settings pass only a blank name is in the way. -/
private theorem resolve_of_validate {a : Options.Arguments} (validated : validate s.layers.settings = .ok a)
    (valid : ∀ f, validField f (s.winner f).1 = .ok (a f)) (known : s.OnlyFields) :
    (s.Acceptable ∧ ∃ o, s.layers.resolve = .ok o ∧ s.Means o) ∨
      (¬ s.Acceptable ∧ ∃ cause, s.layers.resolve = .error (.configuration cause)) := by
  obtain ⟨b, flags⟩ := Classical.axiomOfChoice fun g => validField_flag (valid (.flag g))
  obtain ⟨texts, names⟩ := Classical.axiomOfChoice fun l => validField_names (valid (.names l))
  rcases Options.build_cases (fun g => (flags g).2) (fun l => (names l).2)
    with ⟨built, fine⟩ | ⟨⟨cause, failed⟩, l, n, mem, blank⟩
  · refine .inl ⟨⟨known, fun g => ⟨_, (flags g).1⟩, fun l => ⟨_, (names l).1, fine l⟩⟩,
      ⟨b .excludeForwards, b .publicTypes, (texts .included).map Text.trim, (texts .excluded).map Text.trim⟩, ?_, ?_⟩
    · rw [Layers.resolve, validated]
      exact built
    · constructor
      · intro g
        rw [(flags g).1]
        cases g <;> rfl
      · intro l
        refine ⟨_, (names l).1, ?_⟩
        cases l <;> rfl
  · refine .inr ⟨?_, cause, ?_⟩
    · intro acceptable
      obtain ⟨names', same, fine⟩ := acceptable.names l
      obtain rfl : texts l = names' := Except.ok.inj ((names l).1.symm.trans same)
      rw [fine n mem] at blank
      cases blank
    · rw [Layers.resolve, validated]
      exact failed

/-- The layers resolve to what the winners mean if they are acceptable, and to a fault of the configuration if not. -/
theorem resolve_cases (s : Sources) :
    (s.Acceptable ∧ ∃ o, s.layers.resolve = .ok o ∧ s.Means o) ∨
      (¬ s.Acceptable ∧ ∃ cause, s.layers.resolve = .error (.configuration cause)) := by
  rcases validate_cases s.layers.settings with ⟨a, validated, valid, known⟩ | ⟨⟨cause, failed⟩, why⟩
  · exact resolve_of_validate validated (fun f => (s.validSetting_eq f).symm.trans (valid f)) (s.known_iff.mp known)
  · refine .inr ⟨?_, cause, ?_⟩
    · intro acceptable
      rcases why with ⟨f, fault, invalid⟩ | ⟨entry, mem, unknown⟩
      · obtain ⟨v, valid⟩ := acceptable.valid f
        rw [s.validSetting_eq, valid] at invalid
        cases invalid
      · exact s.known_iff.mpr acceptable.known entry mem unknown
    · rw [Layers.resolve, failed]
      rfl

theorem resolve_of_means {o : Options} (acceptable : s.Acceptable) (means : s.Means o) : s.layers.resolve = .ok o := by
  rcases s.resolve_cases with ⟨-, o', resolved, means'⟩ | ⟨refused, -⟩
  · rw [resolved, means.unique means']
  · exact absurd acceptable refused

/-- Where the winner for one field is refused and all others pass, that is what the layers fail with. -/
theorem resolve_of_refused {f : Field} {fault : Fault} (refused : validField f (s.winner f).1 = .error fault)
    (others : ∀ g, g ≠ f → ∃ v, validField g (s.winner g).1 = .ok v) : s.layers.resolve = .error fault := by
  rw [← s.validSetting_eq] at refused
  have passes (g : Field) (other : g ≠ f) : ∃ v, validSetting s.layers.settings g = .ok v := by
    rw [s.validSetting_eq]
    exact others g other
  rw [Layers.resolve, validate_of_refused refused passes]
  rfl

/-- Nothing but the winners counts, if there are settings for fields only. -/
private theorem resolve_congr {s' : Sources} (known : s.OnlyFields) (known' : s'.OnlyFields)
    (same : ∀ f, s'.winner f = s.winner f) : s'.layers.resolve.toOption = s.layers.resolve.toOption := by
  have acceptable : s'.Acceptable ↔ s.Acceptable := by
    constructor
    · rintro ⟨-, flags, names⟩
      exact ⟨known, fun g => same (.flag g) ▸ flags g, fun l => same (.names l) ▸ names l⟩
    · rintro ⟨-, flags, names⟩
      exact ⟨known', fun g => (same (.flag g)).symm ▸ flags g, fun l => (same (.names l)).symm ▸ names l⟩
  have means : s'.Means = s.Means := by
    funext o
    simp only [Means, same]
  rcases s.resolve_cases with ⟨ok, o₁, h₁, m₁⟩ | ⟨refused, cause, h₁⟩
  · rcases s'.resolve_cases with ⟨-, o₂, h₂, m₂⟩ | ⟨refused, -⟩
    · rw [h₁, h₂, m₁.unique (means ▸ m₂)]
    · exact absurd (acceptable.mpr ok) refused
  · rcases s'.resolve_cases with ⟨ok, -⟩ | ⟨-, cause', h₂⟩
    · exact absurd (acceptable.mp ok) refused
    · rw [h₁, h₂]
      rfl

end Sources

end TypeForward.Settings

namespace TypeForward.Workspace
open Settings

theorem projectPath_congr {w w' : Workspace} (same : Entries.get? Environment.projectFileVariable w'.environment =
    Entries.get? Environment.projectFileVariable w.environment) : w'.projectPath = w.projectPath := by
  rw [projectPath, projectPath, same]

/-- What a workspace resolves from under overrides. -/
def sources (w : Workspace) (table overrides : List (String × Value)) : Sources :=
  ⟨w.projectPath.text, table, w.environment, overrides⟩

/-- Resolution after the preset variables were read loads the project file and resolves the layers. -/
theorem resolve_eq_tableAt {w w' : Workspace} (preset : w.preset = (.ok (), w')) (overrides : List (String × Value)) :
    (w.resolve overrides).1 = (Project.tableAt w'.disk w'.projectPath).bind fun table =>
      (w'.sources table overrides).layers.resolve.map fun o =>
        ⟨o, fun f => ((w'.sources table overrides).winner f).2⟩ := by
  have loaded := Project.load_eq w'.disk w'.projectPath
  cases loads : Project.tableAt w'.disk w'.projectPath with
  | error fault =>
    rw [loads] at loaded
    simp only [resolve, preset, layers, loaded]
    rfl
  | ok table =>
    have provenance : (w'.sources table overrides).layers.provenance =
        fun f => ((w'.sources table overrides).winner f).2 := funext (w'.sources table overrides).provenance_eq
    rw [loads] at loaded
    simp only [resolve, preset, layers, loaded, Except.bind, ← provenance]
    rfl

theorem resolve_eq_layers {w w' : Workspace} {table : List (String × Value)} (preset : w.preset = (.ok (), w'))
    (loads : Project.tableAt w'.disk w'.projectPath = .ok table) (overrides : List (String × Value)) :
    (w.resolve overrides).1 = (w'.sources table overrides).layers.resolve.map fun o =>
      ⟨o, fun f => ((w'.sources table overrides).winner f).2⟩ := by
  rw [resolve_eq_tableAt preset, loads]
  rfl

/-- Resolution after the preset variables were read, with a project file that loads, is decided by the winners: it
succeeds exactly if overrides and table have settings for fields only, each winner passes the checks of its field and
no name is blank. The options are then what the winners mean, and the provenance of each field is that of its winner.
Otherwise the fault is one of the configuration. Values that do not win play no part, valid or not: where the winners
are the same the result is the same. -/
theorem resolve_eq_winners (w w' : Workspace) (table overrides : List (String × Value))
    (preset : w.preset = (.ok (), w')) (loads : Project.tableAt w'.disk w'.projectPath = .ok table) :
    let s := w'.sources table overrides
    ((∃ r, (w.resolve overrides).1 = .ok r) ↔ s.Acceptable) ∧
      (∀ r, (w.resolve overrides).1 = .ok r → s.Means r.options ∧ ∀ f, r.provenance f = (s.winner f).2) ∧
      (¬ s.Acceptable → ∃ cause, (w.resolve overrides).1 = .error (.configuration cause)) ∧
      ∀ (v v' : Workspace) (table' overrides' : List (String × Value)), v.preset = (.ok (), v') →
        Project.tableAt v'.disk v'.projectPath = .ok table' →
        let s' := v'.sources table' overrides'
        s.OnlyFields → s'.OnlyFields → (∀ f, s'.winner f = s.winner f) →
          (v.resolve overrides').1.toOption = (w.resolve overrides).1.toOption := by
  intro s
  rw [resolve_eq_layers preset loads overrides]
  refine ⟨?_, ?_, ?_, ?_⟩
  · rcases s.resolve_cases with ⟨acceptable, o, same, -⟩ | ⟨refused, cause, failed⟩
    · rw [same]
      constructor
      · intro _
        exact acceptable
      · intro _
        exact ⟨_, rfl⟩
    · rw [failed]
      constructor
      · rintro ⟨r, h⟩
        cases h
      · intro acceptable
        exact absurd acceptable refused
  · intro r h
    rcases s.resolve_cases with ⟨-, o, same, means⟩ | ⟨-, cause, failed⟩
    · rw [same] at h
      obtain rfl := Except.ok.inj h
      exact ⟨means, fun _ => rfl⟩
    · rw [failed] at h
      cases h
  · intro refused
    rcases s.resolve_cases with ⟨acceptable, -⟩ | ⟨-, cause, failed⟩
    · exact absurd acceptable refused
    · rw [failed]
      exact ⟨cause, rfl⟩
  · intro v v' table' overrides' preset' loads' s' known known' same
    have provenance : (fun f => (s'.winner f).2) = fun f => (s.winner f).2 := funext fun f => by rw [same]
    have toOption_map (x : Except Fault Options) (f : Options → Resolution) :
        (x.map f).toOption = x.toOption.map f := by cases x <;> rfl
    rw [resolve_eq_layers preset' loads' overrides', provenance, toOption_map, toOption_map,
      Sources.resolve_congr known known' same]

theorem tableAt_of_find {d : Disk} {path : FilePath} {l : Location} {text : String} {table : List (String × Value)}
    (plain : path.hasNul = false) (found : d.find path = .ok (l, .file (Text.Utf8.encode text)))
    (decoded : Text.Utf8.decode (Text.Utf8.encode text) = some text)
    (parsed : Toml.parse text = .ok [("tool", .table [("forwardgen", .table table)])]) :
    Project.tableAt d path = .ok table := by
  rw [Project.tableAt, plain, found]
  simp only [decoded, Project.tableOfText, parsed]
  rfl

/-- A program that runs next to a project file with the given text. -/
def ofProject (environment : Environment) (text : String) (isPreset : Bool) : Workspace :=
  let work := Location.root.child "work"
  ⟨environment, ⟨work, [(work.child "pyproject.toml", .file (Text.Utf8.encode text))], []⟩, isPreset⟩

theorem tableAt_ofProject {environment : Environment} {text : String} {isPreset : Bool} {table : List (String × Value)}
    (path : Entries.get? Environment.projectFileVariable environment = none)
    (decoded : Text.Utf8.decode (Text.Utf8.encode text) = some text)
    (parsed : Toml.parse text = .ok [("tool", .table [("forwardgen", .table table)])]) :
    let w := ofProject environment text isPreset
    Project.tableAt w.disk w.projectPath = .ok table := by
  intro w
  have home : w.projectPath = ⟨.home, ["pyproject.toml"]⟩ := by
    rw [projectPath, show w.environment = environment from rfl, path]
    rfl
  have plain : w.projectPath.hasNul = false := by
    rw [home]
    decide
  refine tableAt_of_find (l := (Location.root.child "work").child "pyproject.toml") plain ?_ decoded parsed
  rw [home]
  rfl

def mixedText : String := "[tool.forwardgen]\nexclude-generated-types = \"A;B\""

def mixedTable : List (String × Value) := [("exclude-generated-types", .text "A;B")]

def mixedOverrides : List (String × Value) := [(Flag.publicTypes.name, .bool true)]

/-- A project file with a list of names, and a variable with a text that is no flag. -/
def mixed : Workspace :=
  ⟨[("FORWARDGEN_USE_PUBLIC_ACCESSIBILITY_FOR_GENERATED_TYPES", "maybe")],
    ⟨Location.root.child "work",
      [((Location.root.child "work").child "pyproject.toml", .file (Text.Utf8.encode mixedText))], []⟩, true⟩

theorem tableAt_mixed : Project.tableAt mixed.disk mixed.projectPath = .ok mixedTable := by
  have path : Entries.get? Environment.projectFileVariable mixed.environment = none := by decide
  exact tableAt_ofProject path (by cbv) (by cbv)

theorem fields_mixed : ∀ key ∈ Entries.keys mixedTable, ∃ f : Field, f.name = settingOf key := by
  intro key mem
  obtain rfl := List.mem_singleton.mp mem
  exact ⟨.names .excluded, by decide⟩

private theorem winner_publicTypes_mixed :
    (mixed.sources mixedTable mixedOverrides).winner (.flag .publicTypes) = (.bool true, .overrides) := rfl

private theorem winner_excluded_mixed :
    (mixed.sources mixedTable mixedOverrides).winner (.names .excluded) =
      (.text "A;B", .project mixed.projectPath.text) := rfl

private theorem means_mixed :
    (mixed.sources mixedTable mixedOverrides).Means ⟨false, true, [], ["A", "B"]⟩ := by
  constructor
  · intro g
    cases g with
    | excludeForwards => rfl
    | publicTypes => rw [winner_publicTypes_mixed]; rfl
  · intro l
    cases l with
    | included => exact ⟨[], rfl, rfl⟩
    | excluded => exact ⟨["A", "B"], by rw [winner_excluded_mixed]; rfl, by decide⟩

/-- What is no flag is hidden by an override, and the names come from the project file. -/
theorem resolve_eq_winners_mixed :
    ∃ r, (mixed.resolve mixedOverrides).1 = .ok r ∧ r.options = ⟨false, true, [], ["A", "B"]⟩ ∧
      r.provenance (.flag .publicTypes) = .overrides ∧
      r.provenance (.names .excluded) = .project mixed.projectPath.text := by
  obtain ⟨succeeds, meant, -, -⟩ := mixed.resolve_eq_winners mixed mixedTable mixedOverrides rfl tableAt_mixed
  have acceptable : (mixed.sources mixedTable mixedOverrides).Acceptable := by
    refine ⟨⟨?_, fields_mixed⟩, ?_, ?_⟩
    · intro key mem
      exact ⟨.flag .publicTypes, (List.mem_singleton.mp mem).symm⟩
    · intro g
      exact ⟨_, means_mixed.1 g⟩
    · intro l
      cases l with
      | included => exact ⟨[], rfl, by simp⟩
      | excluded => exact ⟨["A", "B"], by rw [winner_excluded_mixed]; rfl, by decide⟩
  obtain ⟨r, h⟩ := succeeds.mpr acceptable
  obtain ⟨options, provenance⟩ := meant r h
  refine ⟨r, h, options.unique means_mixed, ?_, ?_⟩
  · rw [provenance, winner_publicTypes_mixed]
  · rw [provenance, winner_excluded_mixed]

end TypeForward.Workspace
