/-! The smallest parts of a configuration document: space, comments, names and quoted strings. Every reader returns
what follows the part that it read. -/
namespace TypeForward.Toml

/-- Besides a malformed document only a decimal integer with too many digits is refused. -/
inductive Error where
  | malformed
  | tooManyDigits
  deriving DecidableEq

/-- What was read, and the characters after it. -/
abbrev Read (α : Type) := α × List Char

def isSpace (c : Char) : Bool :=
  c == ' ' || c == '\t'

def skipSpace (cs : List Char) : List Char :=
  cs.dropWhile isSpace

/-- Control characters other than the tab. Line ends are allowed where a text may have several lines. -/
def isControl (c : Char) : Bool :=
  (decide (c.toNat < 0x20) && c != '\t') || c.toNat == 0x7F

def isControlInLines (c : Char) : Bool :=
  isControl c && c != '\n'

/-- Skips a comment, if one starts here, up to the end of its line. -/
def skipComment (cs : List Char) : Except Error (List Char) :=
  match cs with
  | '#' :: rest =>
    if (rest.takeWhile (· != '\n')).any isControl then .error .malformed
    else .ok (rest.dropWhile (· != '\n'))
  | _ => .ok cs

/-- Skips space, line ends and comments, from inside a comment or not. -/
def skipLinesFrom : Bool → List Char → Except Error (List Char)
  | _, [] => .ok []
  | true, c :: rest =>
    if c = '\n' then skipLinesFrom false rest
    else if isControl c then .error .malformed
    else skipLinesFrom true rest
  | false, c :: rest =>
    if isSpace c || c == '\n' then skipLinesFrom false rest
    else if c = '#' then skipLinesFrom true rest
    else .ok (c :: rest)

def skipLines (cs : List Char) : Except Error (List Char) :=
  skipLinesFrom false cs

def hexValue? (c : Char) : Option Nat :=
  if c.isDigit then some (c.toNat - '0'.toNat)
  else if 'a' ≤ c ∧ c ≤ 'f' then some (c.toNat - 'a'.toNat + 10)
  else if 'A' ≤ c ∧ c ≤ 'F' then some (c.toNat - 'A'.toNat + 10)
  else none

/-- The number written by exactly `count` hexadecimal digits. -/
def hexNumber? : Nat → Nat → List Char → Option (Nat × List Char)
  | 0, n, cs => some (n, cs)
  | count + 1, n, c :: rest => do hexNumber? count (16 * n + (← hexValue? c)) rest
  | _ + 1, _, [] => none

/-- The character of a numeric escape; surrogates are not characters. -/
def codeEscape (count : Nat) (cs : List Char) : Except Error (Read Char) :=
  match hexNumber? count 0 cs with
  | some (n, rest) => if n.isValidChar then .ok (Char.ofNat n, rest) else .error .malformed
  | none => .error .malformed

/-- The character after a backslash. -/
def escape : List Char → Except Error (Read Char)
  | 'b' :: rest => .ok ('\x08', rest)
  | 't' :: rest => .ok ('\t', rest)
  | 'n' :: rest => .ok ('\n', rest)
  | 'f' :: rest => .ok ('\x0C', rest)
  | 'r' :: rest => .ok ('\r', rest)
  | '"' :: rest => .ok ('"', rest)
  | '\\' :: rest => .ok ('\\', rest)
  | 'u' :: rest => codeEscape 4 rest
  | 'U' :: rest => codeEscape 8 rest
  | _ => .error .malformed

/-- The rest of a string between double quotes on one line. -/
def basicString : Nat → List Char → Except Error (Read (List Char))
  | 0, _ | _, [] => .error .malformed
  | _ + 1, '"' :: rest => .ok ([], rest)
  | fuel + 1, '\\' :: rest => do
    let (c, rest) ← escape rest
    let (cs, rest) ← basicString fuel rest
    return (c :: cs, rest)
  | fuel + 1, c :: rest =>
    if isControl c then .error .malformed
    else do
      let (cs, rest) ← basicString fuel rest
      return (c :: cs, rest)

/-- The rest of a string between single quotes on one line. -/
def literalString : List Char → Except Error (Read (List Char))
  | [] => .error .malformed
  | c :: rest =>
    if c = '\'' then .ok ([], rest)
    else if isControl c then .error .malformed
    else do
      let (cs, rest) ← literalString rest
      return (c :: cs, rest)

/-- Up to two quotes just inside the closing ones belong to the string. -/
def closingQuotes (quote : Char) : List Char → List Char × List Char
  | a :: b :: rest =>
    if a = quote then (if b = quote then ([quote, quote], rest) else ([quote], b :: rest)) else ([], a :: b :: rest)
  | [a] => if a = quote then ([quote], []) else ([], [a])
  | [] => ([], [])

/-- A backslash before the end of a line joins it to the next text. -/
def lineJoin? (cs : List Char) : Option (Except Error (List Char)) :=
  let skipAll (cs : List Char) := cs.dropWhile fun c => isSpace c || c == '\n'
  match cs with
  | '\n' :: _ => some (.ok (skipAll cs))
  | c :: _ =>
    if isSpace c then
      match skipSpace cs with
      | [] => some (.ok [])
      | '\n' :: rest => some (.ok (skipAll rest))
      | _ => some (.error .malformed)
    else none
  | [] => none

/-- The rest of a string between three double quotes. -/
def longBasicString : Nat → List Char → Except Error (Read (List Char))
  | 0, _ | _, [] => .error .malformed
  | _ + 1, '"' :: '"' :: '"' :: rest => .ok (closingQuotes '"' rest)
  | fuel + 1, '\\' :: rest =>
    match lineJoin? rest with
    | some joined => do longBasicString fuel (← joined)
    | none => do
      let (c, rest) ← escape rest
      let (cs, rest) ← longBasicString fuel rest
      return (c :: cs, rest)
  | fuel + 1, c :: rest =>
    if isControlInLines c then .error .malformed
    else do
      let (cs, rest) ← longBasicString fuel rest
      return (c :: cs, rest)

/-- The rest of a string between three single quotes. -/
def longLiteralString : List Char → Except Error (Read (List Char))
  | [] => .error .malformed
  | '\'' :: '\'' :: '\'' :: rest => .ok (closingQuotes '\'' rest)
  | c :: rest =>
    if isControlInLines c then .error .malformed
    else do
      let (cs, rest) ← longLiteralString rest
      return (c :: cs, rest)

def dropLineEnd : List Char → List Char
  | '\n' :: rest => rest
  | cs => cs

/-- A string with its quotes, if one starts here. -/
def string? (cs : List Char) : Option (Except Error (Read (List Char))) :=
  match cs with
  | '"' :: '"' :: '"' :: rest => some (longBasicString (rest.length + 1) (dropLineEnd rest))
  | '"' :: rest => some (basicString (rest.length + 1) rest)
  | '\'' :: '\'' :: '\'' :: rest => some (longLiteralString (dropLineEnd rest))
  | '\'' :: rest => some (literalString rest)
  | _ => none

def isBareKey (c : Char) : Bool :=
  c.isAlphanum || c == '-' || c == '_'

/-- One part of a key: a bare word or a string on one line. -/
def keyPart (cs : List Char) : Except Error (Read String) :=
  match cs with
  | '"' :: rest => (basicString (rest.length + 1) rest).map fun (part, rest) => (String.ofList part, rest)
  | '\'' :: rest => (literalString rest).map fun (part, rest) => (String.ofList part, rest)
  | _ =>
    let word := cs.takeWhile isBareKey
    if word = [] then .error .malformed else .ok (String.ofList word, cs.dropWhile isBareKey)

/-- The parts of a key, with points between them. -/
def key : Nat → List Char → Except Error (Read (List String))
  | 0, _ => .error .malformed
  | fuel + 1, cs => do
    let (part, rest) ← keyPart cs
    match skipSpace rest with
    | '.' :: rest =>
      let (parts, rest) ← key fuel (skipSpace rest)
      return (part :: parts, rest)
    | rest => return ([part], rest)

end TypeForward.Toml
