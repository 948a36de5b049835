import TypeForward.Proofs.Settings.Preset

/-! Runs of steps in a workspace, side by side. Where presets were read already, two runs that differ only in what
happens to the file of presets resolve to the same. -/
namespace TypeForward.Workspace
open Entries Disk

variable {w w' : Workspace} {steps steps' : List Step}

/-- Where the file of presets lies: where its name leads, which may be a link. -/
def presetPlace (w : Workspace) : Location :=
  w.disk.namedPlace ".env"

/-- The workspace after some steps. -/
def after (w : Workspace) (steps : List Step) : Workspace :=
  steps.foldl (fun w s => (w.step s).2.1) w

/-- The file of presets is itself the project file. -/
def hasPresetsAsProject (w : Workspace) : Bool :=
  match w.disk.find w.projectPath with
  | .ok (l, _) => decide (l = w.presetPlace)
  | .error _ => false

/-- What a resolution comes to, and whether it had the file of presets for its project file. -/
structure Outcome where
  result : Except Fault Resolution
  isOnPresets : Bool

/-- The same outcome, or one that had the file of presets for its project file. -/
def Outcome.Agrees (r r' : Outcome) : Prop :=
  r.isOnPresets = false → r'.isOnPresets = false → r.result = r'.result

/-- All along, the file of presets is a file or is absent. -/
def StaysPlain (w : Workspace) : List Step → Prop
  | [] => w.disk.IsPlainAt w.presetPlace
  | step :: rest => w.disk.IsPlainAt w.presetPlace ∧ (w.step step).2.1.StaysPlain rest

instance decidableStaysPlain (w : Workspace) : (steps : List Step) → Decidable (w.StaysPlain steps)
  | [] => inferInstanceAs (Decidable (w.disk.IsPlainAt w.presetPlace))
  | step :: rest =>
    have := decidableStaysPlain (w.step step).2.1 rest
    inferInstanceAs (Decidable (w.disk.IsPlainAt w.presetPlace ∧ (w.step step).2.1.StaysPlain rest))

/-- The step writes or takes away a file, and nothing changes but the file of presets. -/
def IsPresetChange (w : Workspace) (step : Step) : Prop :=
  ((∃ path content, step = .write path content) ∨ ∃ path, step = .remove path) ∧
    SameApart w.presetPlace w.disk (w.step step).2.1.disk

/-- Two workspaces where presets were read, with the same variables and the same files but for that of presets. -/
structure Alike (w w' : Workspace) : Prop where
  environment : w'.environment = w.environment
  isPreset : w.isPreset = true
  isPreset' : w'.isPreset = true
  disk : SameApart w.presetPlace w.disk w'.disk

theorem StaysPlain.first (plain : w.StaysPlain steps) : w.disk.IsPlainAt w.presetPlace := by
  cases steps with
  | nil => exact plain
  | cons step rest => exact plain.1

/-- Where presets were read a resolution changes nothing. -/
private theorem step_resolve_of_isPreset (isPreset : w.isPreset = true) (overrides : List (String × Value)) :
    (w.step (.resolve overrides)).2.1 = w := by
  rw [step]
  exact (resolve_workspace w overrides).trans (by rw [preset_of_isPreset isPreset])

private theorem disk_remove (w : Workspace) (path : String) :
    (w.step (.remove path)).2.1.disk = w.disk.removed path := by
  simp only [step, removed]
  cases w.disk.removeFile path <;> rfl

private theorem remove_workspace (w : Workspace) (path : String) :
    (w.step (.remove path)).2.1.environment = w.environment ∧ (w.step (.remove path)).2.1.isPreset = w.isPreset := by
  simp only [step]
  split <;> exact ⟨rfl, rfl⟩

private theorem presetPlace_step (w : Workspace) (s : Step) : (w.step s).2.1.presetPlace = w.presetPlace := by
  cases s with
  | assign name value =>
    simp only [step]
    split <;> rfl
  | write path content => exact namedPlace_place w.disk ".env" (.ofText path) content
  | remove path =>
    rw [presetPlace, disk_remove, presetPlace]
    rcases removed_cases w.disk path with same | ⟨l, n, -, same⟩
    · rw [same]
    · rw [same]
      rfl
  | resolve overrides =>
    rw [step]
    exact congrArg (Disk.namedPlace · ".env") ((congrArg disk (resolve_workspace w overrides)).trans w.preset_disk)
  | _ => rfl

private theorem IsPresetChange.workspace {s : Step} (change : w.IsPresetChange s) :
    (w.step s).2.1.environment = w.environment ∧ (w.step s).2.1.isPreset = w.isPreset := by
  obtain ⟨⟨path, content, rfl⟩ | ⟨path, rfl⟩, -⟩ := change
  · exact ⟨rfl, rfl⟩
  · exact remove_workspace w path

namespace Alike

theorem refl (isPreset : w.isPreset = true) : w.Alike w := ⟨rfl, isPreset, isPreset, .refl _ _⟩

private theorem presetPlace (alike : w.Alike w') : w'.presetPlace = w.presetPlace :=
  namedPlace_congr alike.disk.here alike.disk.links ".env"

theorem projectPath (alike : w.Alike w') : w'.projectPath = w.projectPath :=
  projectPath_congr (by rw [alike.environment])

theorem left {s : Step} (alike : w.Alike w') (change : w.IsPresetChange s) : (w.step s).2.1.Alike w' := by
  obtain ⟨environment, isPreset⟩ := change.workspace
  refine ⟨alike.environment.trans environment.symm, isPreset.trans alike.isPreset, alike.isPreset', ?_⟩
  have place : (w.step s).2.1.presetPlace = w.presetPlace := namedPlace_congr change.2.here change.2.links ".env"
  rw [place]
  exact change.2.symm.trans alike.disk

theorem right {s : Step} (alike : w.Alike w') (change : w'.IsPresetChange s) : w.Alike (w'.step s).2.1 := by
  obtain ⟨environment, isPreset⟩ := change.workspace
  exact ⟨environment.trans alike.environment, alike.isPreset, isPreset.trans alike.isPreset',
    alike.disk.trans (alike.presetPlace ▸ change.2)⟩

/-- A step on both leaves them alike, if the file of presets is no directory before and after. -/
theorem both (alike : w.Alike w') (s : Step) (plain : w.disk.IsPlainAt w.presetPlace)
    (plain' : w'.disk.IsPlainAt w'.presetPlace) (later : (w.step s).2.1.disk.IsPlainAt (w.step s).2.1.presetPlace)
    (later' : (w'.step s).2.1.disk.IsPlainAt (w'.step s).2.1.presetPlace) : (w.step s).2.1.Alike (w'.step s).2.1 := by
  have place := presetPlace_step w s
  rw [presetPlace_step] at later later'
  rw [alike.presetPlace] at plain' later'
  obtain ⟨environment, isPreset, isPreset', same⟩ := alike
  cases s with
  | assign name value =>
    simp only [step, environment]
    cases w.environment.assign name value with
    | error fault => exact ⟨environment, isPreset, isPreset', same⟩
    | ok env => exact ⟨rfl, isPreset, isPreset', same⟩
  | unassign name => exact ⟨by simp only [step, environment], isPreset, isPreset', same⟩
  | write path content =>
    exact ⟨environment, isPreset, isPreset', place ▸ same.place (.ofText path) content later later'⟩
  | remove path =>
    obtain ⟨env, set⟩ := remove_workspace w path
    obtain ⟨env', set'⟩ := remove_workspace w' path
    refine ⟨env'.trans (environment.trans env.symm), set.trans isPreset, set'.trans isPreset', ?_⟩
    rw [place, disk_remove, disk_remove]
    exact same.removed plain plain' path
  | resolve overrides =>
    rw [step_resolve_of_isPreset isPreset, step_resolve_of_isPreset isPreset']
    exact ⟨environment, isPreset, isPreset', same⟩
  | _ => exact ⟨environment, isPreset, isPreset', same⟩

/-- The project file is loaded alike, unless it is the file of presets. -/
theorem load_eq (alike : w.Alike w') (plain : w.disk.IsPlainAt w.presetPlace)
    (plain' : w'.disk.IsPlainAt w'.presetPlace) (other : w.hasPresetsAsProject = false)
    (other' : w'.hasPresetsAsProject = false) :
    Project.load w'.disk w'.projectPath = Project.load w.disk w.projectPath := by
  have apart {v : Workspace} (other : v.hasPresetsAsProject = false) (n : Node) :
      v.disk.find v.projectPath ≠ .ok (v.presetPlace, n) := by
    intro found
    simp [hasPresetsAsProject, found] at other
  have nothing {v : Workspace} (other : v.hasPresetsAsProject = false)
      (stops : v.disk.StopsAt v.presetPlace v.projectPath) :
      v.disk.find v.projectPath = .error .missing ∨ v.disk.find v.projectPath = .error .notADirectory := by
    rcases stops with found | found | found
    · exact absurd found (apart other _)
    · exact .inl found
    · exact .inr found
  have place := alike.presetPlace
  have path := alike.projectPath
  rcases alike.disk.find_cases plain (place ▸ plain') w.projectPath with leads | ⟨stops, stops'⟩
  · rw [path, Project.load, Project.load, leads]
  · rw [← path, ← place] at stops'
    rcases nothing other stops with found | found <;> rcases nothing other' stops' with found' | found' <;>
      rw [Project.load, Project.load, found, found', path]

/-- Both resolve to the same. -/
theorem resolve_eq (alike : w.Alike w') (plain : w.disk.IsPlainAt w.presetPlace)
    (plain' : w'.disk.IsPlainAt w'.presetPlace) (other : w.hasPresetsAsProject = false)
    (other' : w'.hasPresetsAsProject = false) (overrides : List (String × Value)) :
    (w.resolve overrides).1 = (w'.resolve overrides).1 := by
  have layered : w.layers overrides = w'.layers overrides := by
    rw [layers, layers, alike.load_eq plain plain' other other', alike.environment, alike.projectPath]
  simp only [resolve, preset_of_isPreset alike.isPreset, preset_of_isPreset alike.isPreset', layered]

end Alike

end TypeForward.Workspace
