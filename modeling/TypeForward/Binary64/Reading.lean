import TypeForward.Binary64.Basic
import TypeForward.Text.Numeral

/-! Numbers read from decimal notation: a sign, digits with a point, a power of ten; or a name of infinity or of
the undefined number. -/
namespace TypeForward.Binary64

/-- The power of ten at the end of a number; nothing there means none. -/
def exponent? : List Char → Option Int
  | [] => some 0
  | c :: rest =>
    let (negative, digits) := Text.takeSign rest
    if (c = 'e' ∨ c = 'E') ∧ digits ≠ [] ∧ digits.all Char.isDigit = true then
      some (if negative then -(Text.natOfDigits digits : Int) else Text.natOfDigits digits)
    else none

/-- A number without its sign. At least one digit stands before or after the point. -/
def unsigned? (negative : Bool) (cs : List Char) : Option Binary64 :=
  let whole := cs.takeWhile Char.isDigit
  let rest := cs.dropWhile Char.isDigit
  let (fraction, rest) := match rest with
    | '.' :: rest => (rest.takeWhile Char.isDigit, rest.dropWhile Char.isDigit)
    | _ => ([], rest)
  if whole.isEmpty && fraction.isEmpty then none
  else (exponent? rest).map fun e =>
    ofDecimal negative (Text.natOfDigits (whole ++ fraction)) (e - fraction.length)

def read? (cs : List Char) : Option Binary64 :=
  let (negative, rest) := Text.takeSign cs
  let word := String.ofList (rest.map Char.toLower)
  if word = "nan" then some .nan
  else if word = "inf" ∨ word = "infinity" then some (.infinite negative)
  else unsigned? negative rest

/-- The number that a loosely written numeral stands for. -/
def ofNumeral? (cs : List Char) : Option Binary64 :=
  (Text.numeral? cs).bind read?

end TypeForward.Binary64
