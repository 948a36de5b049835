import TypeForward.Binary64.Reading
import TypeForward.Toml.Lexeme
import TypeForward.Value.Basic

/-! Numbers, dates and times of a configuration document. -/
namespace TypeForward.Toml

/-- Digits with single underscores between them, and what follows. -/
def grouped (isDigit : Char → Bool) : List Char → List Char × List Char
  | c :: '_' :: d :: more =>
    if isDigit c then
      if isDigit d then
        let (ds, rest) := grouped isDigit (d :: more)
        (c :: ds, rest)
      else ([c], '_' :: d :: more)
    else ([], c :: '_' :: d :: more)
  | c :: rest =>
    if isDigit c then
      let (ds, rest) := grouped isDigit rest
      (c :: ds, rest)
    else ([], c :: rest)
  | [] => ([], [])

def numberIn (base : Nat) (digits : List Char) : Nat :=
  digits.foldl (fun n c => base * n + (hexValue? c).getD 0) 0

/-- An integer in base two, eight or sixteen. -/
def basedInteger? (cs : List Char) : Option (Value × List Char) :=
  let read (base : Nat) (isDigit : Char → Bool) (cs : List Char) :=
    match grouped isDigit cs with
    | ([], _) => none
    | (digits, rest) => some (Value.int (numberIn base digits), rest)
  match cs with
  | '0' :: 'x' :: rest => read 16 (fun c => (hexValue? c).isSome) rest
  | '0' :: 'o' :: rest => read 8 (fun c => decide ('0' ≤ c ∧ c ≤ '7')) rest
  | '0' :: 'b' :: rest => read 2 (fun c => c == '0' || c == '1') rest
  | _ => none

/-- The digits before the point; a number does not start with a zero and go on. -/
def wholePart (cs : List Char) : List Char × List Char :=
  match cs with
  | '0' :: rest => (['0'], rest)
  | _ => grouped Char.isDigit cs

/-- The point and the digits after it, if there are any. -/
def fractionPart (cs : List Char) : List Char × List Char :=
  match cs with
  | '.' :: rest =>
    match grouped Char.isDigit rest with
    | ([], _) => ([], cs)
    | (digits, rest) => ('.' :: digits, rest)
  | _ => ([], cs)

/-- The power of ten with its mark, if there is one. -/
def exponentPart (cs : List Char) : List Char × List Char :=
  match cs with
  | c :: rest =>
    if c = 'e' ∨ c = 'E' then
      let (sign, rest) := match rest with
        | '+' :: rest => (['+'], rest)
        | '-' :: rest => (['-'], rest)
        | _ => ([], rest)
      match grouped Char.isDigit rest with
      | ([], _) => ([], cs)
      | (digits, rest) => ('e' :: sign ++ digits, rest)
    else ([], cs)
  | [] => ([], cs)

/-- A decimal number, if one starts here. -/
def decimal? (cs : List Char) : Option (Except Error (Read Value)) :=
  let (negative, rest) := Text.takeSign cs
  match wholePart rest with
  | ([], _) => none
  | (whole, rest) =>
    let (fraction, rest) := fractionPart rest
    let (power, rest) := exponentPart rest
    if fraction = [] ∧ power = [] then
      if Text.digitLimit < whole.length then some (.error .tooManyDigits)
      else
        let n : Int := numberIn 10 whole
        some (.ok (.int (if negative then -n else n), rest))
    else
      (Binary64.read? ((if negative then ['-'] else []) ++ whole ++ fraction ++ power)).map fun x =>
        .ok (.real x, rest)

/-- A name of infinity or of the undefined number, with an optional sign. -/
def namedNumber? (cs : List Char) : Option (Value × List Char) :=
  let (negative, rest) := Text.takeSign cs
  match rest with
  | 'i' :: 'n' :: 'f' :: rest => some (.real (.infinite negative), rest)
  | 'n' :: 'a' :: 'n' :: rest => some (.real .nan, rest)
  | _ => none

/-- The number written by exactly `count` digits. -/
def fixedDigits? : Nat → Nat → List Char → Option (Nat × List Char)
  | 0, n, cs => some (n, cs)
  | count + 1, n, c :: rest =>
    if c.isDigit then fixedDigits? count (10 * n + (c.toNat - '0'.toNat)) rest else none
  | _ + 1, _, [] => none

/-- A number of `count` digits in a range, after a mark. -/
def field? (mark : Option Char) (count low high : Nat) (cs : List Char) : Option (Nat × List Char) := do
  let cs ← match mark, cs with
    | none, cs => some cs
    | some m, c :: rest => if c = m then some rest else none
    | some _, [] => none
  let (n, rest) ← fixedDigits? count 0 cs
  if low ≤ n ∧ n ≤ high then some (n, rest) else none

/-- Microseconds after a point. Digits past the sixth are dropped. -/
def microseconds (cs : List Char) : Nat × List Char :=
  match cs with
  | '.' :: rest =>
    let digits := rest.takeWhile Char.isDigit
    if digits = [] then (0, cs)
    else
      let kept := digits.take 6
      (numberIn 10 (kept ++ List.replicate (6 - kept.length) '0'), rest.dropWhile Char.isDigit)
  | _ => (0, cs)

def clockTime? (cs : List Char) : Option (ClockTime × List Char) := do
  let (hour, rest) ← field? none 2 0 23 cs
  let (minute, rest) ← field? (some ':') 2 0 59 rest
  let (second, rest) ← field? (some ':') 2 0 59 rest
  let (micro, rest) := microseconds rest
  return (⟨hour, minute, second, micro⟩, rest)

/-- The offset in minutes, if one is written. -/
def offset? (cs : List Char) : Option Int × List Char :=
  match cs with
  | c :: rest =>
    if c = 'Z' ∨ c = 'z' then (some 0, rest)
    else if c = '+' ∨ c = '-' then
      let read := do
        let (hour, rest) ← field? none 2 0 23 rest
        let (minute, rest) ← field? (some ':') 2 0 59 rest
        return ((hour * 60 + minute : Nat), rest)
      match read with
      | some (minutes, rest) => (some (if c = '-' then -(minutes : Int) else minutes), rest)
      | none => (none, cs)
    else (none, cs)
  | [] => (none, cs)

def date? (cs : List Char) : Option (Date × List Char) := do
  let (year, rest) ← field? none 4 0 9999 cs
  let (month, rest) ← field? (some '-') 2 1 12 rest
  let (day, rest) ← field? (some '-') 2 1 31 rest
  return (⟨year, month, day⟩, rest)

/-- The time of day after a date, if a mark and a time follow. -/
def timeAfterDate? (cs : List Char) : Option (ClockTime × List Char) :=
  match cs with
  | c :: rest => if c = 'T' ∨ c = 't' ∨ c = ' ' then clockTime? rest else none
  | [] => none

/-- A date, a time or both, if one starts here. The day has to exist. -/
def moment? (cs : List Char) : Option (Except Error (Read Value)) :=
  match date? cs with
  | some (day, rest) =>
    if day.isValid then
      match timeAfterDate? rest with
      | some (clock, rest) =>
        let (offset, rest) := offset? rest
        some (.ok (.moment (.dateTime day clock offset), rest))
      | none => some (.ok (.moment (.date day), rest))
    else some (.error .malformed)
  | none => (clockTime? cs).map fun (clock, rest) => .ok (.moment (.time clock), rest)

/-- A truth value, if one starts here. -/
def truth? (cs : List Char) : Option (Value × List Char) :=
  match cs with
  | 't' :: 'r' :: 'u' :: 'e' :: rest => some (.bool true, rest)
  | 'f' :: 'a' :: 'l' :: 's' :: 'e' :: rest => some (.bool false, rest)
  | _ => none

/-- Everything but strings, arrays and tables. -/
def scalar (cs : List Char) : Except Error (Read Value) :=
  match truth? cs with
  | some found => .ok found
  | none =>
    match moment? cs with
    | some found => found
    | none =>
      match basedInteger? cs with
      | some found => .ok found
      | none =>
        match decimal? cs with
        | some found => found
        | none =>
          match namedNumber? cs with
          | some found => .ok found
          | none => .error .malformed

end TypeForward.Toml
