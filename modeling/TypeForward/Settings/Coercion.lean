import TypeForward.Text.Blank
import TypeForward.Text.Case
import TypeForward.Text.Pieces
import TypeForward.Value.Basic

/-! Plain text as values of settings, and the environment variables that settings have. -/
namespace TypeForward.Settings

def trueWords : List String := ["1", "true", "yes", "on"]

def falseWords : List String := ["0", "false", "no", "off", ""]

/-- The truth value that a word stands for, whatever its case and the space around it. Other text is left as it
is, for validation to complain about. -/
def coerceFlag (s : String) : Value :=
  let word := Text.lower (Text.trim s)
  if trueWords.contains word then .bool true
  else if falseWords.contains word then .bool false
  else .text s

def isSeparator (c : Char) : Bool :=
  c == ';' || c == ','

/-- The pieces of a text between separators, trimmed, without the empty ones. -/
def nameChars (cs : List Char) : List (List Char) :=
  ((Text.pieces isSeparator cs).map Text.trimmed).filter fun name => name ≠ []

/-- The names listed in a text. -/
def namesIn (s : String) : List String :=
  (nameChars s.toList).map String.ofList

/-- A text becomes the list of the names in it; other values stay. -/
def splitNames : Value → Value
  | .text s => .list ((namesIn s).map .text)
  | v => v

def variablePrefix : String := "FORWARDGEN_"

/-- The variable for a setting. -/
def variableFor (setting : String) : String :=
  variablePrefix ++ Text.upper setting

/-- The name of a setting as a document writes it: dashes count as underscores. -/
def settingOf (key : String) : String :=
  String.ofList (key.toList.map fun c => if c = '-' then '_' else c)

@[simp] theorem splitNames_text (s : String) : splitNames (.text s) = .list ((namesIn s).map .text) := rfl

end TypeForward.Settings
