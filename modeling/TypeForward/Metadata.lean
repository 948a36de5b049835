import TypeForward.Entries
import TypeForward.LanguageVersion.Parse
import TypeForward.Value.Membership
import TypeForward.Value.Order

/-! What a compilation tells a pass, and signals to stop it. Both may look at the host they belong to and change
it; its state is a parameter. -/
namespace TypeForward

/-- A compilation that can be asked whether its language version reaches a threshold and whether its core library
defines a type. -/
structure Metadata (σ : Type) where
  atLeast : Value → σ → Except Fault Bool × σ
  defines : Value → σ → Except Fault Bool × σ

/-- A signal that can be polled. -/
structure Token (σ : Type) where
  poll : σ → Except Fault Bool × σ

/-- The signal of a pass that nobody can stop. -/
def Token.never {σ : Type} : Token σ :=
  ⟨fun s => (.ok false, s)⟩

/-- A compilation known by its language version and the names that its core library defines. -/
structure CoreLibrary where
  version : LanguageVersion
  types : List Value

namespace CoreLibrary

/-- The version is looked at first. A text is no collection of names. -/
def build (version types : Value) : Except Fault CoreLibrary := do
  let v ← LanguageVersion.parse version
  match types.isText, types.elements? with
  | false, some names => return ⟨v, ← Value.distinct names⟩
  | _, _ => throw (.configuration .notCoreTypes)

/-- From names given one by one, so that anything that can be walked will do. -/
def ofNames (version names : Value) : Except Fault CoreLibrary := do
  match names.elements? with
  | some names => return ⟨← LanguageVersion.parse version, ← Value.distinct names⟩
  | none => throw .wrongType

def atLeast (c : CoreLibrary) (threshold : Value) : Except Fault Bool :=
  match (Value.version c.version).atLeast? threshold with
  | some answer => .ok answer
  | none => .error .wrongType

def defines (c : CoreLibrary) (name : Value) : Except Fault Bool :=
  name.isMember c.types

/-- Queries leave no trace in the host, whose state has no part in the answers. -/
def metadata {σ : Type} (c : CoreLibrary) : Metadata σ where
  atLeast threshold s := (c.atLeast threshold, s)
  defines name s := (c.defines name, s)

end CoreLibrary

end TypeForward
