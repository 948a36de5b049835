import TypeForward.Metadata
import TypeForward.Value.Integer

/-! Compilations that check nothing and remember what they were asked. -/
namespace TypeForward

/-- A question that a compilation was asked. -/
inductive Query where
  | version (threshold : Int)
  | type (name : Value)

/-- The object that a recorder is to set: a signal that its host still keeps by name, a signal that no name leads
to any more, or something that cannot be set. -/
inductive Recorder.Target where
  | kept (id : String)
  | lost
  | unsettable
  deriving DecidableEq

/-- Being asked for the watched name sets the target. -/
structure Recorder.Watch where
  name : String
  target : Recorder.Target
  deriving DecidableEq

structure Recorder where
  version : Value
  types : Value
  asked : List Query
  watch : Option Recorder.Watch

namespace Recorder

def record (r : Recorder) (q : Query) : Recorder :=
  { r with asked := r.asked ++ [q] }

/-- The answer to a version query. A threshold that is no integer is not remembered. -/
def atLeast (r : Recorder) (threshold : Value) : Except Fault Bool × Recorder :=
  match threshold.integer with
  | .error fault => (.error fault, r)
  | .ok n => ((r.version.atLeast? threshold).elim (.error .wrongType) .ok, r.record (.version n))

/-- The answer to a type query, which may use up the types. -/
def defines (r : Recorder) (name : Value) : Except Fault Bool × Recorder :=
  (r.types.has name, { r with types := r.types.afterSearch name })

/-- What a query for a name sets. -/
def target? (r : Recorder) (name : Value) : Option Target :=
  (r.watch.filter fun w => name.text? = some w.name).map (·.target)

/-- The recorder after the object of that name was replaced. -/
def losing (r : Recorder) (id : String) : Recorder :=
  { r with watch := r.watch.map fun w => if w.target = .kept id then { w with target := .lost } else w }

end Recorder

end TypeForward
