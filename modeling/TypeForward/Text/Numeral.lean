import TypeForward.Text.Blank
import TypeForward.Text.Digit

/-! Numerals as people write them: space around them, digits of any script, single underscores between digits.
They are brought into a plain form before they are read. -/
namespace TypeForward.Text

/-- White space that may stand around a numeral. The information separators may not. -/
def isMargin (c : Char) : Bool :=
  isBlank c && !decide (0x1C ≤ c.toNat ∧ c.toNat ≤ 0x1F)

def withoutMargins (cs : List Char) : List Char :=
  ((cs.dropWhile isMargin).reverse.dropWhile isMargin).reverse

/-- The basic Latin digit for a digit of any script; other characters stay. -/
def plainDigit (c : Char) : Char :=
  match digitValue? c with
  | some d => Nat.digitChar d
  | none => c

/-- The text without its underscores, each of which must stand between two digits. -/
def ungrouped? (afterDigit : Bool) : List Char → Option (List Char)
  | [] => some []
  | c :: rest =>
    if c = '_' then
      match rest with
      | d :: _ => if afterDigit && d.isDigit then ungrouped? false rest else none
      | [] => none
    else (ungrouped? c.isDigit rest).map (c :: ·)

/-- The plain form of a numeral. -/
def numeral? (cs : List Char) : Option (List Char) :=
  ungrouped? false ((withoutMargins cs).map plainDigit)

/-- A sign in front, if there is one, and what follows it. -/
def takeSign : List Char → Bool × List Char
  | '-' :: rest => (true, rest)
  | '+' :: rest => (false, rest)
  | cs => (false, cs)

/-- The number written by basic Latin digits. -/
def natOfDigits (cs : List Char) : Nat :=
  numberOf (cs.map fun c => c.toNat - '0'.toNat)

/-- The integer that a numeral stands for. -/
def integer? (cs : List Char) : Option Int := do
  let (negative, digits) := takeSign (← numeral? cs)
  if digits ≠ [] ∧ digits.all Char.isDigit = true ∧ digits.length ≤ digitLimit then
    let n : Int := natOfDigits digits
    return if negative then -n else n
  else none

end TypeForward.Text
