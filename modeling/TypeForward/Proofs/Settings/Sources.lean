import TypeForward.Proofs.Settings.Overlay
import TypeForward.Settings.Workspace

/-! Where settings come from, as they are written there, and which of them wins for a field: that of the highest
layer, and in a layer the last one. Merging layer by layer comes to the same, with the same provenance. -/
namespace TypeForward

namespace Project

/-- The table of this tool in a document, as it is written. -/
def table (document : List (String × Value)) : Except Fault (List (String × Value)) :=
  match Entries.get? "tool" document with
  | none => .ok []
  | some (.table tools) =>
    match Entries.get? toolName tools with
    | some (.table table) => .ok table
    | _ => .ok []
  | some _ => .error .missingAttribute

/-- The table in the text of a project file; in malformed text it is empty. -/
def tableOfText (text : String) : Except Fault (List (String × Value)) :=
  match Toml.parse text with
  | .ok document => table document
  | .error .malformed => .ok []
  | .error .tooManyDigits => .error .badValue

/-- The table in the project file at a path; without a file it is empty. -/
def tableAt (d : Disk) (path : FilePath) : Except Fault (List (String × Value)) :=
  if path.hasNul then .ok []
  else match d.find path with
    | .error .tooLong => .error .system
    | .error _ => .ok []
    | .ok (_, .directory) => .ok []
    | .ok (_, .file content) =>
      match Text.Utf8.decode content with
      | some text => tableOfText text
      | none => .error .undecodable

theorem settings_eq (document : List (String × Value)) : settings document = (table document).map settingsIn := by
  unfold settings table
  rcases Entries.get? "tool" document with _ | tools
  · rfl
  · cases tools with
    | table tools =>
      dsimp only
      rcases Entries.get? toolName tools with _ | table
      · rfl
      · cases table <;> rfl
    | _ => rfl

/-- Loading reads the table and then its settings. -/
theorem load_eq (d : Disk) (path : FilePath) : (load d path).1 = (tableAt d path).map settingsIn := by
  unfold load tableAt
  split
  · rfl
  · rcases d.find path with failure | ⟨place, node⟩
    · cases failure <;> rfl
    · cases node with
      | directory => rfl
      | file content =>
        dsimp only
        cases Text.Utf8.decode content with
        | none => rfl
        | some text =>
          simp only [settingsOfText, tableOfText]
          rcases Toml.parse text with (_ | _) | document
          · rfl
          · rfl
          · exact settings_eq document

/-- A value from the project file as the layer has it: in texts for lists the names are told apart. -/
def taken (field : Field) (v : Value) : Value :=
  match field with
  | .names _ => Settings.splitNames v
  | .flag _ => v

/-- The setting that an entry of the table is for. -/
def settingFor (entry : String × Value) : String × Value :=
  (Settings.settingOf entry.1,
    match Field.ofName? (Settings.settingOf entry.1) with
    | some (.names _) => Settings.splitNames entry.2
    | _ => entry.2)

private theorem settingsIn_eq (table : List (String × Value)) :
    settingsIn table = Entries.putAll [] (table.map settingFor) := by
  rw [Entries.putAll, List.foldl_map]
  rfl

end Project

namespace Environment

/-- The setting that a variable is for. That for the path of the project file is for no field. -/
def settingFor? (entry : String × String) : Option (String × Value) :=
  (settingOf? entry.1).bind fun setting =>
    (Field.ofName? setting).map fun field => (setting, valueFor field entry.2)

theorem settings_eq (env : Environment) : env.settings.1 = Entries.putAll [] (env.filterMap settingFor?) := by
  unfold settings
  show _ = Entries.putAll (([], []) : List (String × Value) × List Event).1 _
  generalize (([], []) : List (String × Value) × List Event) = found
  induction env generalizing found with
  | nil => rfl
  | cons first rest ih =>
    rcases first with ⟨name, text⟩
    rw [List.foldl_cons, ih]
    cases hs : settingOf? name with
    | none =>
      have out : settingFor? (name, text) = none := by simp only [settingFor?, hs, Option.bind_none]
      rw [List.filterMap_cons_none out]
      simp only [hs]
    | some setting =>
      cases hf : Field.ofName? setting with
      | none =>
        have out : settingFor? (name, text) = none := by
          simp only [settingFor?, hs, Option.bind_some, hf, Option.map_none]
        rw [List.filterMap_cons_none out]
        by_cases path : setting = projectFileSetting
        · simp only [hs, if_pos path]
        · simp only [hs, if_neg path, hf]
      | some field =>
        have own : settingFor? (name, text) = some (setting, valueFor field text) := by
          simp only [settingFor?, hs, Option.bind_some, hf, Option.map_some]
        have path : setting ≠ projectFileSetting := by
          rintro rfl
          cases hf
        rw [List.filterMap_cons_some own]
        simp only [hs, if_neg path, hf]
        rfl

private theorem settingFor?_eq_some_iff {entry : String × String} {setting : String} {v : Value} :
    settingFor? entry = some (setting, v) ↔
      settingOf? entry.1 = some setting ∧ ∃ f : Field, f.name = setting ∧ valueFor f entry.2 = v := by
  rw [settingFor?, Option.bind_eq_some_iff]
  constructor
  · rintro ⟨setting', hs, h⟩
    obtain ⟨f, hf, h⟩ := Option.map_eq_some_iff.mp h
    cases h
    exact ⟨hs, f, Field.ofName?_eq_some_iff.mp hf, rfl⟩
  · rintro ⟨hs, f, hf, rfl⟩
    exact ⟨setting, hs, by rw [Field.ofName?_eq_some_iff.mpr hf, Option.map_some]⟩

end Environment

namespace Settings
open Entries

/-- All that settings are resolved from. -/
structure Sources where
  projectFile : String
  table : List (String × Value)
  environment : Environment
  overrides : List (String × Value)

namespace Sources

/-- The layers that are put over the defaults. -/
def layers (s : Sources) : Layers :=
  ⟨s.projectFile, Project.settingsIn s.table, s.environment.settings.1, s.overrides⟩

/-- The override for a field, else what its last variable means, else the last value in the table of the project file
under a key for it; with its provenance. -/
def given? (s : Sources) (f : Field) : Option (Value × Provenance) :=
  ((last? (· = f.name) s.overrides).map fun v => (v, .overrides)).or
    (((last? (Environment.settingOf? · = some f.name) s.environment).map fun text =>
        (Environment.valueFor f text, .environment f.name)).or
      ((last? (settingOf · = f.name) s.table).map fun v => (v, .project s.projectFile)))

/-- What is given for a field, or its default. -/
def winner (s : Sources) (f : Field) : Value × Provenance :=
  (s.given? f).getD (Options.defaults f, .default)

end Sources

private theorem last?_settingsIn (table : List (String × Value)) (f : Field) :
    last? (· = f.name) (Project.settingsIn table) =
      (last? (settingOf · = f.name) table).map (Project.taken f) := by
  rw [Project.settingsIn_eq, last?_putAll]
  apply last?_map
  · intro entry _
    rfl
  intro entry _ h
  have known : Field.ofName? (settingOf entry.1) = some f := Field.ofName?_eq_some_iff.mpr h.symm
  simp only [Project.settingFor, known]
  cases f <;> rfl

private theorem last?_environment (env : Environment) (f : Field) :
    last? (· = f.name) env.settings.1 =
      (last? (Environment.settingOf? · = some f.name) env).map (Environment.valueFor f) := by
  rw [Environment.settings_eq, last?_putAll]
  apply last?_filterMap
  · intro entry _ out h
    have own := Environment.settingFor?_eq_some_iff.mpr ⟨h, f, rfl, rfl⟩
    rw [out] at own
    cases own
  · intro entry _ e he
    obtain ⟨hs, -⟩ := Environment.settingFor?_eq_some_iff.mp he
    rw [hs]
    constructor
    · intro h
      rw [h]
    · exact Option.some.inj
  · intro entry _ e he h
    obtain ⟨hs, g, hg, hv⟩ := Environment.settingFor?_eq_some_iff.mp he
    obtain rfl : g = f := Field.name_injective (hg.trans (Option.some.inj (hs.symm.trans h)))
    exact hv.symm

/-- Merging the layers keeps for each field what is given for it. -/
theorem Sources.get?_merged (s : Sources) (f : Field) :
    get? f.name s.layers.merged =
      ((last? (· = f.name) s.overrides).map fun v => (v, .overrides)).or
        (((last? (Environment.settingOf? · = some f.name) s.environment).map fun text =>
            (Environment.valueFor f text, .environment f.name)).or
          ((last? (settingOf · = f.name) s.table).map fun v => (Project.taken f v, .project s.projectFile))) := by
  rw [Layers.merged, get?_overlay, get?_overlay, get?_overlay, get?_nil, Option.or_none, layers, last?_environment,
    last?_settingsIn, Option.map_map, Option.map_map]
  rfl

private theorem mem_keys_settingsIn {table : List (String × Value)} {setting : String} :
    setting ∈ keys (Project.settingsIn table) ↔ ∃ key ∈ keys table, settingOf key = setting := by
  rw [Project.settingsIn_eq, mem_keys_putAll]
  simp [keys, Project.settingFor]

private theorem known_of_environment {env : Environment} {setting : String} (mem : setting ∈ keys env.settings.1) :
    ∃ f : Field, f.name = setting := by
  rw [Environment.settings_eq, mem_keys_putAll] at mem
  rcases mem with mem | mem
  · obtain ⟨⟨_, v⟩, kept, rfl⟩ := List.mem_map.mp mem
    obtain ⟨entry, -, he⟩ := List.mem_filterMap.mp kept
    obtain ⟨-, f, hf, -⟩ := Environment.settingFor?_eq_some_iff.mp he
    exact ⟨f, hf⟩
  · cases mem

/-- A setting that is no field comes from the overrides or from the table; variables for no field are left out. -/
theorem Sources.mem_keys_merged (s : Sources) {setting : String} (unknown : Field.ofName? setting = none) :
    setting ∈ keys s.layers.merged ↔ setting ∈ keys s.overrides ∨ ∃ key ∈ keys s.table, settingOf key = setting := by
  have left : setting ∉ keys s.environment.settings.1 := by
    intro mem
    obtain ⟨f, rfl⟩ := known_of_environment mem
    rw [Field.ofName?_name] at unknown
    cases unknown
  have empty : setting ∉ keys ([] : Merged) := List.not_mem_nil
  rw [Layers.merged, mem_keys_overlay, mem_keys_overlay, mem_keys_overlay, layers, mem_keys_settingsIn]
  simp only [left, empty, false_or, or_false]

end Settings

end TypeForward
