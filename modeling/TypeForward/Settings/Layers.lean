import TypeForward.Settings.Validation

/-! Settings from four layers: defaults, the project file, the environment and overrides. For each setting the
highest layer that has it wins, and its provenance is remembered. -/
namespace TypeForward.Settings

inductive Origin where
  | default
  | project
  | environment
  | overrides
  deriving DecidableEq

def Origin.name : Origin → String
  | default => "default"
  | project => "project"
  | environment => "env"
  | overrides => "overrides"

def Origin.ofName? (name : String) : Option Origin :=
  [Origin.default, .project, .environment, .overrides].find? fun o => o.name == name

/-- Where a value came from; the variable or the file is named when there is one. -/
structure Provenance where
  origin : Origin
  variableName : Option String
  fileName : Option String
  deriving DecidableEq

namespace Provenance

def default : Provenance := ⟨.default, none, none⟩

def project (file : String) : Provenance := ⟨.project, none, some file⟩

def environment (setting : String) : Provenance := ⟨.environment, some (variableFor setting), none⟩

def overrides : Provenance := ⟨.overrides, none, none⟩

/-- An empty name is as good as none. -/
def detail? (p : Provenance) : Option String :=
  match p.variableName.filter (· ≠ ""), p.fileName.filter (· ≠ "") with
  | some v, _ => some v
  | none, file => file

def label (p : Provenance) : String :=
  match p.detail? with
  | some detail => p.origin.name ++ ": " ++ detail
  | none => p.origin.name

end Provenance

/-- What each layer above the defaults sets, in the order in which it does. -/
structure Layers where
  projectFile : String
  project : List (String × Value)
  environment : List (String × Value)
  overrides : List (String × Value)

/-- Settings together with where they came from. -/
abbrev Merged := List (String × Value × Provenance)

/-- Puts a layer over what is below it. -/
def overlay (provenance : String → Provenance) (layer : List (String × Value)) (below : Merged) : Merged :=
  Entries.putAll below (layer.map fun entry => (entry.1, entry.2, provenance entry.1))

namespace Layers

def merged (l : Layers) : Merged :=
  overlay (fun _ => .overrides) l.overrides
    (overlay .environment l.environment
      (overlay (fun _ => .project l.projectFile) l.project []))

def settings (l : Layers) : List (String × Value) :=
  l.merged.map fun entry => (entry.1, entry.2.1)

/-- The provenance of a field; one that no layer sets has its default. -/
def provenance (l : Layers) (field : Field) : Provenance :=
  match Entries.get? field.name l.merged with
  | some (_, p) => p
  | none => .default

/-- The options that the layers amount to. -/
def resolve (l : Layers) : Except Fault Options := do
  Options.build (← validate l.settings)

end Layers

/-- One line for each field: its value and where it came from. -/
def auditLines (o : Options) (provenance : Field → Provenance) : List String :=
  Field.all.map fun field =>
    field.name ++ ": " ++ (o.value field).printed ++ " (" ++ (provenance field).label ++ ")"

end TypeForward.Settings
