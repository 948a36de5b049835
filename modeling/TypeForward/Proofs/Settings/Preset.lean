import TypeForward.Proofs.Disk.Apart
import TypeForward.Proofs.Settings.Precedence

/-! When preset variables are read: with the first resolution that can, and never again. They never replace a variable
that is set. After that the file of presets has no part in any resolution, unless it is itself the project file. -/
namespace TypeForward

namespace EnvFile
open Entries

variable {env env' : Environment} {entries : List (String × Option String)} {fault : Fault}

private theorem assign_ok {name value : String} (h : env.assign name value = .ok env') : env' = put name value env := by
  unfold Environment.assign at h
  split at h
  · cases h
  · split at h
    · cases h
    · exact (Except.ok.inj h).symm

/-- A preset without a value or for a variable that is set is passed over; any other is set if it can be. -/
private theorem preset_cons (env : Environment) (name : String) (given : Option String) :
    ((∀ rest, preset ((name, given) :: rest) env = preset rest env) ∧
        ((∃ old, get? name env = some old) ∨ given = none)) ∨
      ∃ value, given = some value ∧ get? name env = none ∧
        ((∀ rest, preset ((name, given) :: rest) env = preset rest (put name value env)) ∨
          ∃ fault, env.assign name value = .error fault ∧
            ∀ rest, preset ((name, given) :: rest) env = (.error fault, env)) := by
  cases given with
  | none => exact .inl ⟨fun rest => by simp [preset], .inr rfl⟩
  | some value =>
    cases set : get? name env with
    | some old => exact .inl ⟨fun rest => by simp [preset, set], .inl ⟨old, rfl⟩⟩
    | none =>
      refine .inr ⟨value, rfl, rfl, ?_⟩
      cases assigned : env.assign name value with
      | ok env' =>
        obtain rfl := assign_ok assigned
        exact .inl fun rest => by simp [preset, set, assigned]
      | error fault => exact .inr ⟨fault, rfl, fun rest => by simp [preset, set, assigned]⟩

/-- A variable that is set keeps its value, whether all presets can be set or not. -/
theorem preset_keeps (entries : List (String × Option String)) {name value : String}
    (set : get? name env = some value) : get? name (preset entries env).2 = some value := by
  induction entries generalizing env with
  | nil => exact set
  | cons entry rest ih =>
    obtain ⟨other, given⟩ := entry
    rcases preset_cons env other given with ⟨same, -⟩ | ⟨v, -, absent, same | ⟨fault, -, same⟩⟩
    · rw [same]
      exact ih set
    · have fresh : name ≠ other := by
        rintro rfl
        cases set.symm.trans absent
      rw [same]
      exact ih (by rw [get?_put_of_ne fresh, set])
    · rw [same]
      exact set

end EnvFile

namespace Workspace
open Entries Disk

variable {w w' : Workspace} {overrides : List (String × Value)} {fault : Fault}

/-- What reading the file of presets comes to as it is now. -/
def load (w : Workspace) : Except Fault Unit × Environment :=
  match presetText w.disk with
  | .error fault => (.error fault, w.environment)
  | .ok text => EnvFile.preset (EnvFile.presets text w.environment) w.environment

theorem preset_of_isPreset (h : w.isPreset = true) : w.preset = (.ok (), w) := by
  rw [preset, if_pos h]

/-- As long as presets were not read, they are read from the file that is there now. -/
theorem preset_of_not (h : w.isPreset = false) :
    w.preset = (w.load.1, { w with environment := w.load.2, isPreset := w.load.1.toBool }) := by
  obtain ⟨environment, disk, isPreset⟩ := w
  obtain rfl : isPreset = false := h
  rw [preset, load]
  dsimp only
  rcases presetText disk with fault | text
  · rfl
  · dsimp only
    rcases EnvFile.preset (EnvFile.presets text environment) environment with ⟨fault | ⟨⟩, env⟩ <;> rfl

theorem preset_disk (w : Workspace) : w.preset.2.disk = w.disk := by
  cases h : w.isPreset with
  | true => rw [preset_of_isPreset h]
  | false => rw [preset_of_not h]

private theorem load_keeps {name value : String} (set : get? name w.environment = some value) :
    get? name w.load.2 = some value := by
  unfold load
  split
  · exact set
  · exact EnvFile.preset_keeps _ set

theorem preset_keeps {name value : String} (set : get? name w.environment = some value) :
    get? name w.preset.2.environment = some value := by
  cases h : w.isPreset with
  | true => rw [preset_of_isPreset h]; exact set
  | false => rw [preset_of_not h]; exact load_keeps set

theorem resolve_workspace (w : Workspace) (overrides : List (String × Value)) :
    (w.resolve overrides).2.1 = w.preset.2 := by
  rw [resolve]
  rcases w.preset with ⟨fault | ⟨⟩, w'⟩ <;> rfl

theorem resolve_of_error (h : w.preset.1 = .error fault) : (w.resolve overrides).1 = .error fault := by
  rcases preset : w.preset with ⟨fault' | ⟨⟩, w'⟩
  · rw [preset] at h
    cases h
    rw [resolve, preset]
  · rw [preset] at h
    cases h

end Workspace

end TypeForward
