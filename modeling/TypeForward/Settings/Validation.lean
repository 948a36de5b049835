import TypeForward.Entries
import TypeForward.Options.Basic
import TypeForward.Settings.Coercion
import TypeForward.Text.Utf8

/-! Validation of merged settings. It is more lenient than options themselves: words and numbers can be flags, and
texts can be lists. Fields are looked at in the order of their declaration, then unknown settings in theirs. -/
namespace TypeForward.Settings

def flagTrue : List String := ["1", "on", "t", "true", "y", "yes"]

def flagFalse : List String := ["0", "off", "f", "false", "n", "no"]

/-- Words count in any case, but not with space around them. -/
def flagOfWord (s : String) : Except Complaint Bool :=
  let word := Text.lower s
  if flagTrue.contains word then .ok true
  else if flagFalse.contains word then .ok false
  else .error .unreadableFlag

/-- Zero and one are flags. Numbers that do not fit a machine word are not even read. -/
def flagOfInt (n : Int) (fits : Bool) : Except Complaint Bool :=
  if n = 0 then .ok false
  else if n = 1 then .ok true
  else .error (if fits then .unreadableFlag else .notFlag)

def wordSize : Int := Nat.pow 2 63

def validFlag : Value → Except Complaint Bool
  | .bool b => .ok b
  | .text s => flagOfWord s
  | .octets bytes =>
    match Text.Utf8.decode bytes with
    | some s => flagOfWord s
    | none => .error .unreadableFlag
  | .int n => flagOfInt n (decide (-wordSize ≤ n ∧ n < wordSize))
  | .version v => flagOfInt v.code true
  | .real x =>
    match x.toInt? with
    | some n => flagOfInt n (decide (-wordSize < n ∧ n < wordSize))
    | none => .error .notFlag
  | _ => .error .notFlag

/-- A text without the space around it; anything else as it is. -/
def trimText : Value → Value
  | .text s => .text (Text.trim s)
  | v => v

def isBlankEntry : Value → Bool
  | .text s => Text.isBlankText s
  | _ => false

/-- Texts are split; in lists and tuples texts are trimmed and blank ones dropped. Other collections are left for
the options to judge. -/
def normalizeNames (v : Value) : Value :=
  match splitNames v with
  | .list xs | .tuple xs => .tuple ((xs.filter fun x => !isBlankEntry x).map trimText)
  | v => v

/-- Elements may be texts, encoded texts, or versions, which count as their codes. -/
def validText : Value → Except Complaint String
  | .text s => .ok s
  | .octets bytes =>
    match Text.Utf8.decode bytes with
    | some s => .ok s
    | none => .error .unreadableText
  | .version v => .ok (toString v.code)
  | _ => .error .notText

/-- All elements, or the place and the complaint of the first that is not valid. -/
def validTexts (start : Nat) : List Value → Except (Nat × Complaint) (List String)
  | [] => .ok []
  | x :: rest =>
    match validText x with
    | .error complaint => .error (start, complaint)
    | .ok s => (validTexts (start + 1) rest).map (s :: ·)

/-- The elements of a value that can be a list of names. -/
def collection? : Value → Option (List Value)
  | .list xs | .tuple xs | .stream xs | .set xs | .frozenSet xs => some xs
  | _ => none

def validNames (v : Value) : Except (Option Nat × Complaint) (List String) :=
  match collection? (normalizeNames v) with
  | none => .error (none, .notNames)
  | some xs =>
    match validTexts 0 xs with
    | .error (i, complaint) => .error (some i, complaint)
    | .ok names => .ok names

def complain (setting : String) (element : Option Nat) (complaint : Complaint) : Fault :=
  .configuration (.badSetting ⟨setting, element⟩ complaint)

/-- The value of a field as options take it. -/
def validField (field : Field) (v : Value) : Except Fault Value :=
  match field with
  | .flag _ =>
    match validFlag v with
    | .ok b => .ok (.bool b)
    | .error complaint => .error (complain field.name none complaint)
  | .names _ =>
    match validNames v with
    | .ok names => .ok (.tuple (names.map .text))
    | .error (element, complaint) => .error (complain field.name element complaint)

/-- Fields that are not set keep their defaults. -/
def validSetting (settings : List (String × Value)) (field : Field) : Except Fault Value :=
  match Entries.get? field.name settings with
  | some v => validField field v
  | none => .ok (Options.defaults field)

/-- Arguments for options from settings by name. -/
def validate (settings : List (String × Value)) : Except Fault Options.Arguments := do
  let excludeForwards ← validSetting settings (.flag .excludeForwards)
  let publicTypes ← validSetting settings (.flag .publicTypes)
  let included ← validSetting settings (.names .included)
  let excluded ← validSetting settings (.names .excluded)
  match settings.find? fun entry => (Field.ofName? entry.1).isNone with
  | some (setting, _) => throw (complain setting none .unknownSetting)
  | none => return fun
    | .flag .excludeForwards => excludeForwards
    | .flag .publicTypes => publicTypes
    | .names .included => included
    | .names .excluded => excluded

end TypeForward.Settings
