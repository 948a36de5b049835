import TypeForward.Binary64.Shortest
import TypeForward.Text.Digit
import TypeForward.Text.Quoted
import TypeForward.Value.Basic

/-! Values as text: printed with quotes for diagnostics, shown without them in logs and in source text. -/
namespace TypeForward.Value

def commaJoined (items : List String) : String :=
  String.intercalate ", " items

mutual

/-- The printed form. A tuple of one has a comma, and an empty set is not taken for an empty table. A stream has no form
of its own, so one word stands for all. -/
def printed : Value → String
  | none => "None"
  | bool b => if b then "True" else "False"
  | int n => toString n
  | version v => "<LanguageVersion." ++ v.name ++ ": " ++ toString v.code ++ ">"
  | real x => x.text
  | text s => Text.quote s
  | octets bytes => Text.quoteOctets bytes
  | moment m => m.printed
  | list xs => "[" ++ commaJoined (printedAll xs) ++ "]"
  | tuple [x] => "(" ++ printed x ++ ",)"
  | tuple xs => "(" ++ commaJoined (printedAll xs) ++ ")"
  | stream _ => "<generator>"
  | set [] => "set()"
  | set xs => "\x7b" ++ commaJoined (printedAll xs) ++ "\x7d"
  | frozenSet [] => "frozenset()"
  | frozenSet xs => "frozenset(\x7b" ++ commaJoined (printedAll xs) ++ "\x7d)"
  | table entries => "\x7b" ++ commaJoined (printedEntries entries) ++ "\x7d"

def printedAll : List Value → List String
  | [] => []
  | x :: xs => printed x :: printedAll xs

def printedEntries : List (String × Value) → List String
  | [] => []
  | (key, x) :: entries => (Text.quote key ++ ": " ++ printed x) :: printedEntries entries

end

/-- Texts stand for themselves, versions for their labels, and moments are written with a space in between. -/
def shown : Value → String
  | text s => s
  | version v => v.label
  | moment m => m.textWith " "
  | v => v.printed

/-- Whether the decimal numeral of an integer is short enough to be written. -/
def hasDecimalForm (n : Int) : Bool :=
  decide (n.natAbs < Nat.pow 10 Text.digitLimit)

mutual

/-- Whether every integer in a value has a decimal form. -/
def isPrintable : Value → Bool
  | int n => hasDecimalForm n
  | list xs | tuple xs | set xs | frozenSet xs => allPrintable xs
  | table entries => entriesPrintable entries
  | _ => true

def allPrintable : List Value → Bool
  | [] => true
  | x :: xs => isPrintable x && allPrintable xs

def entriesPrintable : List (String × Value) → Bool
  | [] => true
  | (_, x) :: entries => isPrintable x && entriesPrintable entries

end

@[simp] theorem shown_text (s : String) : (text s).shown = s := rfl

end TypeForward.Value
