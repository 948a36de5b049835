import TypeForward.Options.Field
import TypeForward.Value.Printed

/-! Why a request is refused. A fault is a cause; its wording is here and nowhere else. -/
namespace TypeForward

/-- What is wrong with the value of a setting. -/
inductive Complaint where
  | notFlag
  | unreadableFlag
  | notNames
  | notText
  | unreadableText
  | unknownSetting
  deriving DecidableEq

/-- Where a complaint applies: to a setting or to one element of it. -/
structure Place where
  setting : String
  element : Option Nat
  deriving DecidableEq

/-- What makes options, versions, metadata or settings unusable. -/
inductive ConfigurationFault where
  | unknownVersion (given : Value)
  | unknownVersionCode (code : Int)
  | notFlag (flag : Flag) (given : Value)
  | notNames (list : NameList)
  | badName (list : NameList) (entry : Value)
  | notCoreTypes
  | cacheWithoutKey
  | badSetting (place : Place) (complaint : Complaint)

/-- What makes a sink refuse a source. -/
inductive Conflict where
  | alreadyAdded (hintName : String)
  | notPlain (hintName : String)
  deriving DecidableEq

/-- The causes after `conflict` have no wording of their own. -/
inductive Fault where
  | configuration (cause : ConfigurationFault)
  | conflict (cause : Conflict)
  | wrongType
  | badValue
  | overflow
  | missingAttribute
  | undecodable
  | unencodable
  | missing
  | fileExists
  | notADirectory
  | isADirectory
  | system

inductive Refusal.Kind where
  | general
  | configuration
  | conflict
  deriving DecidableEq

/-- A refusal as it is reported. -/
structure Refusal where
  kind : Refusal.Kind
  message : String
  hint : Option String
  hintName : Option String
  deriving DecidableEq

/-- Only a conflict takes a hint name. One that is given may still be empty. -/
def Refusal.build (kind : Refusal.Kind) (message : String) (hint : Option String)
    (hintName : Option (Option String)) : Except Fault Refusal :=
  if kind ≠ .conflict ∧ hintName ≠ none then .error .wrongType else .ok ⟨kind, message, hint, hintName.join⟩

def Complaint.message : Complaint → String
  | notFlag => "Input should be a valid boolean"
  | unreadableFlag => "Input should be a valid boolean, unable to interpret input"
  | notNames => "Input should be a valid tuple"
  | notText => "Input should be a valid string"
  | unreadableText => "Input should be a valid string, unable to parse raw data as a unicode string"
  | unknownSetting => "Extra inputs are not permitted"

/-- The empty name of a setting stands for the options as a whole. -/
def Place.text (p : Place) : String :=
  match p.element with
  | some i => p.setting ++ "." ++ toString i
  | none => if p.setting = "" then "options" else p.setting

namespace ConfigurationFault

def message : ConfigurationFault → String
  | unknownVersion given => "Unknown language version: " ++ given.printed
  | unknownVersionCode code => "Unknown language version value: " ++ toString code
  | notFlag flag given => flag.name ++ " must be a bool, got " ++ given.typeName
  | notNames list => list.name ++ " must be a collection of type names"
  | badName list entry => list.name ++ " entries must be non-empty strings, got " ++ entry.printed
  | notCoreTypes => "core_library_types must be a collection of type names"
  | cacheWithoutKey => "cache and compilation_key must be passed together"
  | badSetting place complaint =>
    "Configuration validation failed for " ++ place.text ++ ": " ++ complaint.message

def hint : ConfigurationFault → Option String
  | unknownVersion _ =>
    some "Use a version like '8.0' or '7.3', or one of: default, latest, latestmajor, preview"
  | unknownVersionCode _ => some "Use the compiler encoding, e.g. 703 for C# 7.3 or 800 for C# 8."
  | notFlag flag _ => some ("Pass " ++ flag.name ++ "=True or " ++ flag.name ++ "=False.")
  | notNames list => some ("Pass " ++ list.name ++ "=('System.Index', 'System.Range').")
  | badName .. => some "Use fully-qualified metadata names like 'System.Index'."
  | notCoreTypes => some "Pass core_library_types=\x7b'System.Index', 'System.Range'\x7d."
  | cacheWithoutKey => some "Pass both to memoize availability, or neither."
  | badSetting _ .unknownSetting =>
    some ("Known options: exclude_generated_types, exclude_type_forwarded_to_declarations, "
      ++ "include_generated_types, use_public_accessibility_for_generated_types")
  | badSetting .. => none

end ConfigurationFault

namespace Conflict

def hintName : Conflict → String
  | alreadyAdded name | notPlain name => name

def message : Conflict → String
  | alreadyAdded name => "A source named " ++ Text.quote name ++ " was already added"
  | notPlain name => "Hint name " ++ Text.quote name ++ " is not a plain file name"

def hint : Conflict → String
  | alreadyAdded _ => "Each hint name can be registered once per sink."
  | notPlain _ => "Hint names must not contain path separators or '..'."

end Conflict

namespace Fault

/-- The refusal that a fault is reported as, for the faults with a wording. -/
def refusal? : Fault → Option Refusal
  | configuration cause => some ⟨.configuration, cause.message, cause.hint, none⟩
  | conflict cause => some ⟨.conflict, cause.message, some cause.hint, some cause.hintName⟩
  | _ => none

/-- A fault whose wording prints a value: it cannot be worded if the value has no printed form. -/
def about (given : Value) (cause : ConfigurationFault) : Fault :=
  if given.isPrintable then configuration cause else badValue

end Fault

end TypeForward
