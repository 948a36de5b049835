import TypeForward.Artifact
import TypeForward.Disk.Basic
import TypeForward.Event
import TypeForward.Text.Utf8

/-! Where generated sources are registered. Each name is registered once; a sink keeps the order of registration.
A sink in memory takes any text, one on disk writes a file for each source. -/
namespace TypeForward

/-- Half of a character, which stands for nothing on its own. -/
def Text.isHalf (point : Nat) : Bool :=
  decide (0xD800 ≤ point ∧ point ≤ 0xDFFF)

/-- A text with half a character in it, by its code points. There are no octets for it. Names are never such texts
here. -/
structure BrokenText where
  points : List Nat
  isBroken : points.any Text.isHalf = true

/-- What is handed over as the text of a source. It need not be a text. -/
inductive SourceText where
  | value (v : Value)
  | broken (t : BrokenText)

@[match_pattern]
abbrev SourceText.text (s : String) : SourceText :=
  .value (.text s)

/-- The octets of a text that has some. -/
def SourceText.octets : SourceText → Except Fault (List UInt8)
  | .text s => .ok (Text.Utf8.encode s)
  | .broken _ => .error .unencodable
  | .value _ => .error .wrongType

/-- A `closed` sink takes nothing. -/
inductive Sink where
  | closed
  | memory (sources : List (String × SourceText))
  | directory (root : FilePath) (written : List String)

/-- A sink with the disk that it writes to. -/
structure Outlet where
  sink : Sink
  disk : Disk

@[simp] theorem SourceText.octets_text (s : String) : (SourceText.text s).octets = .ok (Text.Utf8.encode s) := rfl

namespace Sink

/-- The registered names in order. -/
def names : Sink → List String
  | closed => []
  | memory sources => sources.map (·.1)
  | directory _ written => written

def size (s : Sink) : Nat :=
  s.names.length

/-- The text registered under a name in memory. -/
def source? (name : String) : Sink → Option SourceText
  | memory sources => Entries.get? name sources
  | _ => none

/-- The files written so far. -/
def paths : Sink → List FilePath
  | directory root written => written.map root.child
  | _ => []

/-- A name that stays inside a directory. -/
def isPlainName (name : String) : Bool :=
  let cs := name.toList
  cs != [] && cs != ['.'] && cs != ['.', '.'] && !cs.contains '/' && !cs.contains '\\'

end Sink

namespace Outlet

/-- Writes a source below a root. The file is there and empty before its octets are asked for. -/
def write (root : FilePath) (written : List String) (disk : Disk) (name : String) (text : SourceText) :
    Except Fault (List Event) × Outlet :=
  match disk.openIn root name with
  | (.error fault, disk) => (.error fault, ⟨.directory root written, disk⟩)
  | (.ok target, disk) =>
    match text.octets with
    | .ok content =>
      (.ok [.wrote (root.child name).text], ⟨.directory root (written ++ [name]), disk.put target (.file content)⟩)
    | .error fault => (.error fault, ⟨.directory root written, disk.put target (.file [])⟩)

/-- Registers a source. A duplicate is refused before an unsafe name is. -/
def add (o : Outlet) (name : String) (text : SourceText) : Except Fault (List Event) × Outlet :=
  if o.sink.names.contains name then (.error (.conflict (.alreadyAdded name)), o)
  else match o.sink with
    | .closed => (.error .missingAttribute, o)
    | .memory sources => (.ok [], { o with sink := .memory (sources ++ [(name, text)]) })
    | .directory root written =>
      if Sink.isPlainName name then write root written o.disk name text
      else (.error (.conflict (.notPlain name)), o)

/-- Registers the forward of a type. -/
def emit (o : Outlet) (name : Value) : Except Fault (Artifact × List Event) × Outlet :=
  match Artifact.render name with
  | .error fault => (.error fault, o)
  | .ok artifact =>
    match o.add artifact.hintName (.text artifact.sourceText) with
    | (.error fault, o) => (.error fault, o)
    | (.ok events, o) => (.ok (artifact, events ++ [.emitted artifact.hintName]), o)

end Outlet

end TypeForward
