import TypeForward.Fault
import TypeForward.LanguageVersion.Spelling
import TypeForward.Text.Blank
import TypeForward.Text.Case

/-! Language versions from what hosts pass: a member, its code, an alias or a numeric spelling. -/
namespace TypeForward.LanguageVersion

/-- The name of a version that moves with the releases, in small letters. -/
def alias? (name : String) : Option LanguageVersion :=
  if name = "default" ∨ name = "latest" ∨ name = "latestmajor" then some latest
  else if name = "preview" then some preview
  else none

/-- Surrounding white space and letter case do not matter. -/
def ofText (s : String) : Except Fault LanguageVersion :=
  let name := Text.lower (Text.trim s)
  let unknown : Except Fault LanguageVersion := .error (.configuration (.unknownVersion (.text s)))
  match alias? name with
  | some v => .ok v
  | none =>
    match Spelling.read? name.toList with
    | none => unknown
    | some spelling =>
      if spelling.tooLong then .error .badValue
      else match spelling.version? with
        | some v => .ok v
        | none => unknown

/-- Truth values are not codes, although they count as integers elsewhere. -/
def parse (given : Value) : Except Fault LanguageVersion :=
  match given with
  | .version v => .ok v
  | .int n =>
    match ofCode? n with
    | some v => .ok v
    | none => .error (.about given (.unknownVersionCode n))
  | .text s => ofText s
  | _ => .error (.about given (.unknownVersion given))

end TypeForward.LanguageVersion
