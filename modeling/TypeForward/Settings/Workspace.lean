import TypeForward.Settings.EnvFile
import TypeForward.Settings.Layers
import TypeForward.Settings.Project

/-! Where settings are resolved: an environment, a disk, and whether the file of preset variables was read. -/
namespace TypeForward

structure Workspace where
  environment : Environment
  disk : Disk
  isPreset : Bool

namespace Workspace

def fresh : Workspace := ⟨[], .fresh, false⟩

/-- The project file is where its variable says, or next to where the program runs. -/
def projectPath (w : Workspace) : FilePath :=
  match (Entries.get? Environment.projectFileVariable w.environment).filter (· ≠ "") with
  | some path => .ofText path
  | none => ⟨.home, ["pyproject.toml"]⟩

/-- The file of preset variables, looked for only where the program runs. A loader that starts where the text of its
caller lies and goes upwards from there may come upon another one. -/
def presetPath : FilePath := ⟨.here, [".env"]⟩

/-- The text of the file of preset variables; without a file it is empty. -/
def presetText (d : Disk) : Except Fault String :=
  match d.find presetPath with
  | .ok (_, .file content) =>
    match Text.Utf8.decode content with
    | some text => .ok text
    | none => .error .undecodable
  | _ => .ok ""

/-- Reads the file of preset variables the first time. If that fails it will be tried again. -/
def preset (w : Workspace) : Except Fault Unit × Workspace :=
  if w.isPreset then (.ok (), w)
  else match presetText w.disk with
    | .error fault => (.error fault, w)
    | .ok text =>
      match EnvFile.preset (EnvFile.presets text w.environment) w.environment with
      | (.ok (), environment) => (.ok (), { w with environment := environment, isPreset := true })
      | (.error fault, environment) => (.error fault, { w with environment := environment })

/-- Resolved options with the provenance of each field. -/
structure Resolution where
  options : Options
  provenance : Field → Settings.Provenance

/-- The layers that this workspace puts under overrides, and what was logged on the way. -/
def layers (w : Workspace) (overrides : List (String × Value)) : Except Fault Settings.Layers × List Event :=
  let (environment, ignored) := w.environment.settings
  let (project, log) := Project.load w.disk w.projectPath
  (project.map fun project => ⟨w.projectPath.text, project, environment, overrides⟩, ignored ++ log)

def resolve (w : Workspace) (overrides : List (String × Value)) :
    Except Fault Resolution × Workspace × List Event :=
  match w.preset with
  | (.error fault, w) => (.error fault, w, [])
  | (.ok (), w) =>
    let (layers, log) := w.layers overrides
    (layers.bind fun l => l.resolve.map fun o => ⟨o, l.provenance⟩, w, log)

/-- What can be done in a workspace. -/
inductive Step where
  | assign (name value : String)
  | unassign (name : String)
  | write (path : String) (content : Node)
  | remove (path : String)
  | path
  | readEnvironment
  | readProject (path : Option String)
  | resolve (overrides : List (String × Value))

inductive Answer where
  | done
  | path (text : String)
  | settings (found : List (String × Value))
  | resolution (r : Resolution)

def step (w : Workspace) : Step → Except Fault Answer × Workspace × List Event
  | .assign name value =>
    match w.environment.assign name value with
    | .ok environment => (.ok .done, { w with environment := environment }, [])
    | .error fault => (.error fault, w, [])
  | .unassign name => (.ok .done, { w with environment := Entries.erase name w.environment }, [])
  | .write path content =>
    let (made, disk) := w.disk.place (.ofText path) content
    (made.map fun _ => .done, { w with disk := disk }, [])
  | .remove path =>
    match w.disk.removeFile path with
    | .ok disk => (.ok .done, { w with disk := disk }, [])
    | .error fault => (.error fault, w, [])
  | .path => (.ok (.path w.projectPath.text), w, [])
  | .readEnvironment => (.ok (.settings w.environment.settings.1), w, w.environment.settings.2)
  | .readProject path =>
    let (found, log) := Project.load w.disk ((path.map FilePath.ofText).getD w.projectPath)
    (found.map .settings, w, log)
  | .resolve overrides =>
    let (found, w, log) := w.resolve overrides
    (found.map .resolution, w, log)

end Workspace

end TypeForward
