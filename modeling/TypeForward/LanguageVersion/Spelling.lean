import TypeForward.LanguageVersion.Basic
import TypeForward.Text.Digit

/-! Numeric spellings of language versions: digits of any script, an optional name of the language in front, an
optional minor number after a point or an underscore. -/
namespace TypeForward.LanguageVersion

/-- The digit values of the major and, if it is written, of the minor number. -/
structure Spelling where
  major : List Nat
  minor : Option (List Nat)
  deriving DecidableEq

namespace Spelling

def languageName : List Char :=
  ['c', 's', 'h', 'a', 'r', 'p']

/-- What follows the language name, if it stands in front. -/
def body (cs : List Char) : List Char :=
  (languageName.isPrefixOf? cs).getD cs

/-- The minor number after its separator; nothing else may follow it. -/
def minor? : List Char → Option (Option (List Nat))
  | [] => some none
  | c :: rest =>
    match Text.takeDigits rest with
    | (digits, []) => if (c = '.' ∨ c = '_') ∧ digits ≠ [] then some (some digits) else none
    | _ => none

/-- Reads text that is trimmed and in small letters. -/
def read? (cs : List Char) : Option Spelling :=
  let (major, rest) := Text.takeDigits (body cs)
  if major = [] then none else (minor? rest).map fun minor => ⟨major, minor⟩

/-- A run of digits that is too long is not read as a number. -/
def tooLong (s : Spelling) : Bool :=
  decide (Text.digitLimit < s.major.length ∨ Text.digitLimit < (s.minor.getD []).length)

/-- The code of a major and a minor number. Up to version 7 the major number alone is the code. -/
def encode (major minor : Nat) : Nat :=
  if major ≤ 7 ∧ minor = 0 then major else major * 100 + minor

/-- The numbers written; an omitted minor number is zero. -/
def numbers (s : Spelling) : Nat × Nat :=
  (Text.numberOf s.major, Text.numberOf (s.minor.getD []))

def version? (s : Spelling) : Option LanguageVersion :=
  ofCode? (encode s.numbers.1 s.numbers.2)

end Spelling

end TypeForward.LanguageVersion
