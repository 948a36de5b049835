import TypeForward.Disk.Basic
import TypeForward.Event
import TypeForward.Settings.Coercion
import TypeForward.Text.Utf8
import TypeForward.Toml.Document

/-! Settings from the project file. A file that is missing or malformed sets nothing. -/
namespace TypeForward.Project

def toolName : String := "forwardgen"

/-- The settings in the table of this tool. Of keys for one setting the last counts, at the place of the first. -/
def settingsIn (table : List (String × Value)) : List (String × Value) :=
  table.foldl (fun found (key, v) =>
    let setting := Settings.settingOf key
    let v := match Field.ofName? setting with
      | some (.names _) => Settings.splitNames v
      | _ => v
    Entries.put setting v found) []

/-- The settings in a document. The tables of all tools must be in a table; that of this tool need not be one. -/
def settings (document : List (String × Value)) : Except Fault (List (String × Value)) :=
  match Entries.get? "tool" document with
  | none => .ok []
  | some (.table tools) =>
    match Entries.get? toolName tools with
    | some (.table table) => .ok (settingsIn table)
    | _ => .ok []
  | some _ => .error .missingAttribute

/-- The settings in the text of a project file; malformed text is logged. -/
def settingsOfText (path : FilePath) (text : String) : Except Fault (List (String × Value)) × List Event :=
  match Toml.parse text with
  | .ok document => (settings document, [])
  | .error .malformed => (.ok [], [.fileIgnored path.text])
  | .error .tooManyDigits => (.error .badValue, [])

/-- The settings in the project file at a path. -/
def load (d : Disk) (path : FilePath) : Except Fault (List (String × Value)) × List Event :=
  if path.hasNul then (.ok [], [])
  else match d.find path with
    | .error .tooLong => (.error .system, [])
    | .error _ => (.ok [], [])
    | .ok (_, .directory) => (.ok [], [.fileIgnored path.text])
    | .ok (_, .file content) =>
      match Text.Utf8.decode content with
      | some text => settingsOfText path text
      | none => (.error .undecodable, [])

end TypeForward.Project
