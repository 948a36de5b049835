import TypeForward.Artifact
import TypeForward.Options.Basic
import TypeForward.Value.Key

/-! Which available types are forwarded. A pass may bring a signal of its own; by default the name lists decide. -/
namespace TypeForward

/-- A signal from the host: is a type generated at all? It may fail. -/
abbrev Selector := Value → Options → Except Fault Bool

namespace Selection

/-- Exclusion wins, and an empty list of included names includes all. -/
def byLists : Selector := fun name options =>
  if name.isAmong options.excluded then .ok false
  else .ok (options.included.isEmpty || name.isAmong options.included)

/-- Whether a type is forwarded only when generated types are public. -/
def isPublicOnly (name : Value) : Except Fault Bool :=
  match name.memberIdentity with
  | .unhashable => .error .wrongType
  | _ => .ok (name.isAmong Candidates.publicOnly)

/-- The decision on one name, and the names put to the selector for it: none when forwards are disabled. -/
def decideName (selector : Selector) (options : Options) (name : Value) : Except Fault Bool × List Value :=
  if options.excludeForwards then (.ok false, [])
  else
    (match selector name options with
      | .ok true => (isPublicOnly name).map fun only => !only || options.publicTypes
      | answer => answer, [name])

/-- The selected names in their order, and the names put to the selector. -/
def select (selector : Selector) (options : Options) : List Value → Except Fault (List Value) × List Value
  | [] => (.ok [], [])
  | name :: rest =>
    match decideName selector options name with
    | (.error fault, asked) => (.error fault, asked)
    | (.ok keep, asked) =>
      let (chosen, more) := select selector options rest
      (chosen.map fun names => if keep then name :: names else names, asked ++ more)

end Selection

end TypeForward
