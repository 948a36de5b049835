import TypeForward.Fault
import TypeForward.Text.Blank

/-! Options of a generation pass, built from one value for each field. Building checks the fields in the order of
their declaration, and a built snapshot has neither blank nor padded names. -/
namespace TypeForward

structure Options where
  excludeForwards : Bool
  publicTypes : Bool
  included : List String
  excluded : List String
  deriving DecidableEq

namespace Options

/-- One value for each field. -/
abbrev Arguments := Field → Value

/-- Both flags down, both lists empty. -/
def defaults : Arguments
  | .flag _ => .bool false
  | .names _ => .tuple []

/-- Only a genuine truth value is a flag. -/
def readFlag (flag : Flag) (given : Value) : Except Fault Bool :=
  match given with
  | .bool b => .ok b
  | _ => .error (.configuration (.notFlag flag given))

/-- The entries of a name list, trimmed. Each must be a text that is not blank. -/
def readEntries (list : NameList) : List Value → Except Fault (List String)
  | [] => .ok []
  | entry :: rest =>
    match entry with
    | .text s =>
      if Text.isBlankText s then .error (.about entry (.badName list entry))
      else (readEntries list rest).map (Text.trim s :: ·)
    | _ => .error (.about entry (.badName list entry))

/-- A text is no list of names, although it can be walked. -/
def readNames (list : NameList) (given : Value) : Except Fault (List String) :=
  if given.isText then .error (.configuration (.notNames list))
  else match given.elements? with
    | some entries => readEntries list entries
    | none => .error (.configuration (.notNames list))

def build (a : Arguments) : Except Fault Options := do
  let excludeForwards ← readFlag .excludeForwards (a (.flag .excludeForwards))
  let publicTypes ← readFlag .publicTypes (a (.flag .publicTypes))
  let included ← readNames .included (a (.names .included))
  let excluded ← readNames .excluded (a (.names .excluded))
  return ⟨excludeForwards, publicTypes, included, excluded⟩

/-- The arguments with one field replaced. -/
def Arguments.set (a : Arguments) (field : Field) (given : Value) : Arguments :=
  fun f => if f = field then given else a f

/-- Arguments by name over the defaults; a name of no field is refused before any value is looked at. -/
def arguments? : List (String × Value) → Except Fault Arguments
  | [] => .ok defaults
  | (name, given) :: rest => do
    let a ← arguments? rest
    match Field.ofName? name with
    | some field => return a.set field given
    | none => throw .wrongType

def ofPairs (pairs : List (String × Value)) : Except Fault Options := do
  build (← arguments? pairs)

def flag (o : Options) : Flag → Bool
  | .excludeForwards => o.excludeForwards
  | .publicTypes => o.publicTypes

def names (o : Options) : NameList → List String
  | .included => o.included
  | .excluded => o.excluded

/-- The value of a field, as arguments hold it. -/
def value (o : Options) : Field → Value
  | .flag f => .bool (o.flag f)
  | .names l => .tuple ((o.names l).map .text)

/-- A one-line form that leaves out empty lists. -/
def text (o : Options) : String :=
  let shown := Field.all.filter fun
    | .flag _ => true
    | .names l => !(o.names l).isEmpty
  "GenerationOptions(" ++ Value.commaJoined (shown.map fun f => f.name ++ "=" ++ (o.value f).printed) ++ ")"

end Options

end TypeForward
