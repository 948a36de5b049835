import TypeForward.Text.Printable

/-! Text and octets between quotes. A single quote is the mark unless the text holds one and no double quote;
the mark and the backslash are escaped, and so is everything that is not printable. -/
namespace TypeForward.Text

/-- The digits of a number in base sixteen, at least `width` of them, in small letters. -/
def hexDigits (width n : Nat) : List Char :=
  let digits := Nat.toDigits 16 n
  List.replicate (width - digits.length) '0' ++ digits

/-- The shortest escape that fits the code point. -/
def codeEscape (n : Nat) : List Char :=
  if n < 0x100 then '\\' :: 'x' :: hexDigits 2 n
  else if n < 0x10000 then '\\' :: 'u' :: hexDigits 4 n
  else '\\' :: 'U' :: hexDigits 8 n

def quoteMark (cs : List Char) : Char :=
  if cs.contains '\'' && !cs.contains '"' then '"' else '\''

def escaped (mark : Char) (printable : Char → Bool) (c : Char) : List Char :=
  if c = mark ∨ c = '\\' then ['\\', c]
  else if c = '\n' then ['\\', 'n']
  else if c = '\r' then ['\\', 'r']
  else if c = '\t' then ['\\', 't']
  else if printable c then [c]
  else codeEscape c.toNat

def quotedChars (printable : Char → Bool) (cs : List Char) : List Char :=
  let mark := quoteMark cs
  mark :: cs.flatMap (escaped mark printable) ++ [mark]

def quote (s : String) : String :=
  String.ofList (quotedChars isPrintable s.toList)

/-- Octets are quoted like the characters of the same numbers, of which only basic Latin is printable. -/
def quoteOctets (octets : List UInt8) : String :=
  let printable (c : Char) : Bool := decide (0x20 ≤ c.toNat ∧ c.toNat < 0x7F)
  String.ofList ('b' :: quotedChars printable (octets.map fun b => Char.ofNat b.toNat))

end TypeForward.Text
