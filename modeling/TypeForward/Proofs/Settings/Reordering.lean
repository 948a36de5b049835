import TypeForward.Proofs.Settings.Precedence

/-! Settings written in another order, and among other variables. Layers are built by putting entries one after the
other and validation stops at the first fault, but neither order can be seen where each field is set once in a layer
and at most one setting is for no field. -/
namespace TypeForward.Settings
open Entries

/-- The first setting that is for no field. -/
def firstUnknown? (settings : List (String × Value)) : Option String :=
  (settings.find? fun entry => (Field.ofName? entry.1).isNone).map (·.1)

private theorem firstUnknown?_eq_none_iff {settings : List (String × Value)} :
    firstUnknown? settings = none ↔ ∀ key ∈ keys settings, Field.ofName? key ≠ none := by
  simp [firstUnknown?, keys, List.find?_eq_none]

private theorem firstUnknown?_eq_some {settings : List (String × Value)} {key : String}
    (h : firstUnknown? settings = some key) : key ∈ keys settings ∧ Field.ofName? key = none := by
  obtain ⟨entry, found, rfl⟩ := Option.map_eq_some_iff.mp h
  exact ⟨List.mem_map_of_mem (List.mem_of_find?_eq_some found), by simpa using List.find?_some found⟩

/-- Validation depends on what is set for each field and on the first setting that is for none. -/
theorem validate_congr {settings settings' : List (String × Value)}
    (fields : ∀ f, validSetting settings' f = validSetting settings f)
    (unknown : firstUnknown? settings' = firstUnknown? settings) : validate settings' = validate settings := by
  have same : validSetting settings' = validSetting settings := funext fields
  unfold validate
  rw [same]
  unfold firstUnknown? at unknown
  cases found : settings.find? fun entry => (Field.ofName? entry.1).isNone with
  | none =>
    rw [found, Option.map_none, Option.map_eq_none_iff] at unknown
    rw [unknown]
  | some entry =>
    rw [found] at unknown
    obtain ⟨entry', found', name⟩ := Option.map_eq_some_iff.mp unknown
    rw [found']
    simp only [name]

namespace Sources

/-- A setting of the overrides or of the project file that is for no field. -/
def IsUnknown (s : Sources) (setting : String) : Prop :=
  (setting ∈ keys s.overrides ∨ ∃ key ∈ keys s.table, settingOf key = setting) ∧ Field.ofName? setting = none

/-- The same settings in another order, each field at most once in a layer and at most one setting for no field. Of the
variables only those for a field are the same. -/
structure Rearranged (s s' : Sources) : Prop where
  environment : ∀ (f : Field) (entry : String × String), Environment.settingOf? entry.1 = some f.name →
    (entry ∈ s'.environment ↔ entry ∈ s.environment)
  oneVariable : ∀ f : Field, ∀ entry ∈ s.environment, ∀ entry' ∈ s.environment,
    Environment.settingOf? entry.1 = some f.name → Environment.settingOf? entry'.1 = some f.name → entry = entry'
  table : s'.table.Perm s.table
  oneEntry : (s.table.map fun entry => settingOf entry.1).Nodup
  overrides : s'.overrides.Perm s.overrides
  oneOverride : (s.overrides.map (·.1)).Nodup
  oneUnknown : ∀ key key', s.IsUnknown key → s.IsUnknown key' → key = key'

variable {s s' : Sources}

theorem Rearranged.winner_eq (same : s.Rearranged s') (file : s'.projectFile = s.projectFile) (f : Field) :
    s'.winner f = s.winner f := by
  have overrides : last? (· = f.name) s'.overrides = last? (· = f.name) s.overrides :=
    last?_congr_mem (fun _ _ => same.overrides.mem_iff) fun _ mem _ mem' own own' =>
      List.inj_on_of_nodup_map same.oneOverride mem mem' (own.trans own'.symm)
  have environment : last? (Environment.settingOf? · = some f.name) s'.environment =
      last? (Environment.settingOf? · = some f.name) s.environment :=
    last?_congr_mem (same.environment f) (same.oneVariable f)
  have table : last? (settingOf · = f.name) s'.table = last? (settingOf · = f.name) s.table :=
    last?_congr_mem (fun _ _ => same.table.mem_iff) fun _ mem _ mem' own own' =>
      List.inj_on_of_nodup_map same.oneEntry mem mem' (own.trans own'.symm)
  rw [winner, winner, given?, given?, overrides, environment, table, file]

private theorem Rearranged.isUnknown_iff (same : s.Rearranged s') (setting : String) :
    s'.IsUnknown setting ↔ s.IsUnknown setting := by
  have overrides : setting ∈ keys s'.overrides ↔ setting ∈ keys s.overrides := (same.overrides.map _).mem_iff
  have table (key : String) : key ∈ keys s'.table ↔ key ∈ keys s.table := (same.table.map _).mem_iff
  simp only [IsUnknown, overrides, table]

theorem keys_settings (s : Sources) : keys s.layers.settings = keys s.layers.merged := by
  simp [Layers.settings, keys]

/-- What validation finds unknown is an unknown setting. -/
private theorem isUnknown_of_firstUnknown? {setting : String} (h : firstUnknown? s.layers.settings = some setting) :
    s.IsUnknown setting := by
  obtain ⟨mem, unknown⟩ := firstUnknown?_eq_some h
  exact ⟨(s.mem_keys_merged unknown).mp (s.keys_settings ▸ mem), unknown⟩

private theorem not_isUnknown_of_firstUnknown? (h : firstUnknown? s.layers.settings = none) (setting : String) :
    ¬ s.IsUnknown setting := by
  rintro ⟨given, unknown⟩
  have mem : setting ∈ keys s.layers.settings := s.keys_settings ▸ (s.mem_keys_merged unknown).mpr given
  exact firstUnknown?_eq_none_iff.mp h setting mem unknown

private theorem Rearranged.firstUnknown?_eq (same : s.Rearranged s') :
    firstUnknown? s'.layers.settings = firstUnknown? s.layers.settings := by
  cases h' : firstUnknown? s'.layers.settings with
  | none =>
    cases h : firstUnknown? s.layers.settings with
    | none => rfl
    | some key =>
      exact absurd ((same.isUnknown_iff key).mpr (isUnknown_of_firstUnknown? h)) (not_isUnknown_of_firstUnknown? h' key)
  | some key' =>
    have unknown := (same.isUnknown_iff key').mp (isUnknown_of_firstUnknown? h')
    cases h : firstUnknown? s.layers.settings with
    | none => exact absurd unknown (not_isUnknown_of_firstUnknown? h key')
    | some key => exact congrArg some (same.oneUnknown key' key unknown (isUnknown_of_firstUnknown? h))

/-- The same options or the same fault. -/
theorem Rearranged.resolve_eq (same : s.Rearranged s') (file : s'.projectFile = s.projectFile) :
    s'.layers.resolve = s.layers.resolve := by
  have fields (f : Field) : validSetting s'.layers.settings f = validSetting s.layers.settings f := by
    rw [s'.validSetting_eq, s.validSetting_eq, same.winner_eq file]
  rw [Layers.resolve, Layers.resolve, validate_congr fields same.firstUnknown?_eq]

end Sources

end TypeForward.Settings

namespace TypeForward.Workspace
open Settings Entries

/-- Two workspaces whose presets were read, with the same project path, resolve alike if their settings are the same but
for the order: to the same options with the same provenance, or to the same fault. The order of variables and which
others there are plays no part either. Where the project file cannot be loaded they fail alike too. -/
theorem resolve_rearranged (w w' v v' : Workspace) (overrides overrides' : List (String × Value))
    (preset : w.preset = (.ok (), v)) (preset' : w'.preset = (.ok (), v'))
    (path : get? Environment.projectFileVariable v'.environment = get? Environment.projectFileVariable v.environment) :
    (∀ table table', Project.tableAt v.disk v.projectPath = .ok table →
      Project.tableAt v'.disk v'.projectPath = .ok table' →
      (v.sources table overrides).Rearranged (v'.sources table' overrides') →
        (w'.resolve overrides').1 = (w.resolve overrides).1) ∧
    ∀ fault, Project.tableAt v.disk v.projectPath = .error fault →
      Project.tableAt v'.disk v'.projectPath = .error fault →
        (w'.resolve overrides').1 = (w.resolve overrides).1 := by
  constructor
  · intro table table' loads loads' same
    have file : (v'.sources table' overrides').projectFile = (v.sources table overrides).projectFile :=
      congrArg FilePath.text (projectPath_congr path)
    have winners (f : Field) := same.winner_eq file f
    rw [resolve_eq_layers preset loads, resolve_eq_layers preset' loads', same.resolve_eq file]
    simp only [winners]
  · intro fault fails fails'
    rw [resolve_eq_tableAt preset, resolve_eq_tableAt preset', fails, fails']
    rfl

def orderedTable : List (String × Value) :=
  [("exclude-generated-types", .text "A;B"), ("use-public-accessibility-for-generated-types", .bool true)]

def orderedOverrides : List (String × Value) :=
  [(Flag.excludeForwards.name, .bool true), (Flag.publicTypes.name, .bool false)]

def ordered : Workspace :=
  ofProject [("FORWARDGEN_INCLUDE_GENERATED_TYPES", "C"), ("HOME", "/work")]
    "[tool.forwardgen]\nexclude-generated-types = \"A;B\"\nuse-public-accessibility-for-generated-types = true" true

/-- The lines of the project file are the other way round, and there is a variable that looks like one for a setting.
No presets have been read, but there is no file of them. -/
def reversed : Workspace :=
  ofProject [("FORWARDGEN_COLOUR", "red"), ("FORWARDGEN_INCLUDE_GENERATED_TYPES", "C")]
    "[tool.forwardgen]\nuse-public-accessibility-for-generated-types = true\nexclude-generated-types = \"A;B\"" false

private theorem tableAt_ordered : Project.tableAt ordered.disk ordered.projectPath = .ok orderedTable :=
  tableAt_ofProject (by decide) (by cbv) (by cbv)

private theorem tableAt_reversed : Project.tableAt reversed.disk reversed.projectPath = .ok orderedTable.reverse :=
  tableAt_ofProject (by decide) (by cbv) (by cbv)

private theorem no_field_of_colour (f : Field) : Environment.settingOf? "FORWARDGEN_COLOUR" ≠ some f.name := by
  have own : Environment.settingOf? "FORWARDGEN_COLOUR" = some "colour" := by decide
  have unknown : Field.ofName? "colour" = none := by decide
  rw [own]
  intro same
  rw [Option.some.inj same, Field.ofName?_name] at unknown
  cases unknown

private theorem no_field_of_home (f : Field) : Environment.settingOf? "HOME" ≠ some f.name := by
  have other : Environment.settingOf? "HOME" = none := by decide
  rw [other]
  nofun

private theorem known_ordered (key : String) : ¬ (ordered.sources orderedTable orderedOverrides).IsUnknown key := by
  have overrides : ∀ key ∈ keys orderedOverrides, Field.ofName? key ≠ none := by decide
  have table : ∀ key ∈ keys orderedTable, Field.ofName? (settingOf key) ≠ none := by decide
  rintro ⟨mem | ⟨written, mem, rfl⟩, unknown⟩
  · exact overrides key mem unknown
  · exact table written mem unknown

private theorem rearranged_reversed :
    (ordered.sources orderedTable orderedOverrides).Rearranged
      (reversed.sources orderedTable.reverse orderedOverrides.reverse) := by
  have common {f : Field} {entry : String × String} (mem : entry ∈ ordered.environment)
      (own : Environment.settingOf? entry.1 = some f.name) : entry = ("FORWARDGEN_INCLUDE_GENERATED_TYPES", "C") := by
    rcases List.mem_cons.mp mem with same | mem
    · exact same
    · obtain rfl := List.mem_singleton.mp mem
      exact absurd own (no_field_of_home f)
  constructor
  · intro f entry own
    constructor
    · intro mem
      rcases List.mem_cons.mp mem with rfl | mem
      · exact absurd own (no_field_of_colour f)
      · exact List.mem_cons.mpr (.inl (List.mem_singleton.mp mem))
    · intro mem
      exact List.mem_cons_of_mem _ (List.mem_singleton.mpr (common mem own))
  · intro f entry mem entry' mem' own own'
    rw [common mem own, common mem' own']
  · exact List.reverse_perm _
  · exact (by decide : (orderedTable.map fun entry => settingOf entry.1).Nodup)
  · exact List.reverse_perm _
  · exact (by decide : (orderedOverrides.map (·.1)).Nodup)
  · intro key key' unknown
    exact absurd unknown (known_ordered key)

/-- The override hides one line of the project file, wherever that stands. -/
theorem resolve_rearranged_reversed :
    ∃ r, (ordered.resolve orderedOverrides).1 = .ok r ∧ (reversed.resolve orderedOverrides.reverse).1 = .ok r ∧
      r.options = ⟨true, false, ["C"], ["A", "B"]⟩ := by
  have built : (ordered.sources orderedTable orderedOverrides).layers.resolve =
      .ok ⟨true, false, ["C"], ["A", "B"]⟩ := by rfl
  have resolved := resolve_eq_layers (w := ordered) rfl tableAt_ordered orderedOverrides
  rw [built] at resolved
  have absent : reversed.preset = (.ok (), { reversed with isPreset := true }) := by rfl
  obtain ⟨same, -⟩ := resolve_rearranged ordered reversed ordered _ orderedOverrides orderedOverrides.reverse rfl
    absent rfl
  exact ⟨_, resolved, (same _ _ tableAt_ordered tableAt_reversed rearranged_reversed).trans resolved, rfl⟩

end TypeForward.Workspace
