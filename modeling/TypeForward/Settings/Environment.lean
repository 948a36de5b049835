import TypeForward.Entries
import TypeForward.Event
import TypeForward.Fault
import TypeForward.Settings.Coercion

/-! Environment variables, in the order in which they were first set, and the settings that they hold. -/
namespace TypeForward

abbrev Environment := List (String × String)

namespace Environment

/-- Names must not be empty or hold an equals sign; neither names nor values hold a NUL. -/
def assign (env : Environment) (name value : String) : Except Fault Environment :=
  if name.toList.any (fun c => c == '=' || c == '\x00') || value.toList.contains '\x00' then .error .badValue
  else if name = "" then .error .system
  else .ok (Entries.put name value env)

/-- The variable that says where the project file is. It is not a setting. -/
def projectFileVariable : String := "FORWARDGEN_PYPROJECT_PATH"

/-- The setting that a variable would be for: what follows the prefix, in small letters. -/
def settingOf? (name : String) : Option String :=
  (Settings.variablePrefix.toList.isPrefixOf? name.toList).map fun rest => Text.lower (String.ofList rest)

/-- What the text of a variable means for a field. -/
def valueFor (field : Field) (text : String) : Value :=
  match field with
  | .flag _ => Settings.coerceFlag text
  | .names _ => Settings.splitNames (.text text)

def projectFileSetting : String := "pyproject_path"

/-- The settings in the environment. Of variables for one field the last one counts, at the place of the first;
variables with the prefix that are for no field are logged. -/
def settings (env : Environment) : List (String × Value) × List Event :=
  env.foldl (fun (found, log) (name, text) =>
    match settingOf? name with
    | none => (found, log)
    | some setting =>
      if setting = projectFileSetting then (found, log)
      else match Field.ofName? setting with
        | some field => (Entries.put setting (valueFor field text) found, log)
        | none => (found, log ++ [.variableIgnored name])) ([], [])

end Environment

end TypeForward
