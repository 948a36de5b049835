import TypeForward.Fault

/-! The candidate types, and the source text that forwards one of them. -/
namespace TypeForward

namespace Candidates

def index : String := "System.Index"

def range : String := "System.Range"

def isExternalInit : String := "System.Runtime.CompilerServices.IsExternalInit"

/-- The types that a modifier in a signature can require, in emission order. -/
def all : List String :=
  [index, range, isExternalInit]

/-- Types that are forwarded only when generated types are public. -/
def publicOnly : List String :=
  [index, range]

end Candidates

/-- A generated source and the name it is registered under. -/
structure Artifact where
  hintName : String
  sourceText : String
  deriving DecidableEq

namespace Artifact

def fileSuffix : String := ".g.cs"

def hintNameOf (name : Value) : String :=
  name.shown ++ fileSuffix

/-- The assembly attribute that forwards a type, under a heading. Braces in the name have no meaning. -/
def sourceTextOf (name : Value) : String :=
  "// <auto-generated/>\n" ++ "#pragma warning disable\n" ++ "\n"
    ++ "[assembly: global::System.Runtime.CompilerServices.TypeForwardedTo(typeof(global::" ++ name.shown ++ "))]"

def forName (name : Value) : Artifact :=
  ⟨hintNameOf name, sourceTextOf name⟩

/-- The forward of a type, if its name can be written. -/
def render (name : Value) : Except Fault Artifact :=
  if name.isPrintable then .ok (forName name) else .error .badValue

@[simp] theorem forName_hintName (name : Value) : (forName name).hintName = hintNameOf name := rfl

@[simp] theorem forName_sourceText (name : Value) : (forName name).sourceText = sourceTextOf name := rfl

/-- Different names of types get different hint names. -/
theorem hintNameOf_text_inj {s t : String} : hintNameOf (.text s) = hintNameOf (.text t) ↔ s = t := by
  simp [hintNameOf]

end Artifact

end TypeForward
