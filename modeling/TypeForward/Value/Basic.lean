import TypeForward.Binary64.Basic
import TypeForward.LanguageVersion.Basic
import TypeForward.Moment

/-! The dynamic values that hosts and configuration documents hand over. Collections list their elements in
iteration order. -/
namespace TypeForward

/-- A `stream` can be walked once; a `table` keeps its keys in the order given. -/
inductive Value where
  | none
  | bool (b : Bool)
  | int (n : Int)
  | version (v : LanguageVersion)
  | real (x : Binary64)
  | text (s : String)
  | octets (bytes : List UInt8)
  | moment (m : Moment)
  | list (xs : List Value)
  | tuple (xs : List Value)
  | stream (xs : List Value)
  | set (xs : List Value)
  | frozenSet (xs : List Value)
  | table (entries : List (String × Value))

namespace Value

/-- What walking through a value gives: the keys of a table, the numbers of octets, the characters of a text.
Other scalars cannot be walked. -/
def elements? : Value → Option (List Value)
  | text s => some (s.toList.map fun c => text (String.ofList [c]))
  | octets bytes => some (bytes.map fun b => int b.toNat)
  | list xs | tuple xs | stream xs | set xs | frozenSet xs => some xs
  | table entries => some (entries.map fun entry => text entry.1)
  | _ => Option.none

/-- The integer that a value counts as. Truth values and versions are integers. -/
def toInt? : Value → Option Int
  | bool b => some (if b then 1 else 0)
  | int n => some n
  | version v => some v.code
  | _ => Option.none

def text? : Value → Option String
  | text s => some s
  | _ => Option.none

def isText (v : Value) : Bool :=
  v.text?.isSome

/-- Whether a name is among texts; only a text can be. -/
def isAmong (name : Value) (texts : List String) : Bool :=
  match name with
  | text s => texts.contains s
  | _ => false

/-- The name of a value's type. -/
def typeName : Value → String
  | none => "NoneType"
  | bool _ => "bool"
  | int _ => "int"
  | version _ => "LanguageVersion"
  | real _ => "float"
  | text _ => "str"
  | octets _ => "bytes"
  | moment (.date _) => "date"
  | moment (.time _) => "time"
  | moment (.dateTime ..) => "datetime"
  | list _ => "list"
  | tuple _ => "tuple"
  | stream _ => "generator"
  | set _ => "set"
  | frozenSet _ => "frozenset"
  | table _ => "dict"

@[simp] theorem isAmong_text (s : String) (texts : List String) :
    (text s).isAmong texts = texts.contains s := rfl

end Value

end TypeForward
