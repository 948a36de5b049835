import TypeForward.Disk.Location
import TypeForward.Disk.Path
import TypeForward.Entries
import TypeForward.Fault
import TypeForward.Text.Utf8

/-! A disk of directories, files and links, and the ways in which following a path, making directories or opening a file
can fail. -/
namespace TypeForward

inductive Node where
  | directory
  | file (content : List UInt8)
  deriving DecidableEq

/-- The text of a file. A directory has none. -/
def Node.text? : Node → Except Fault (Option String)
  | directory => .ok none
  | file content =>
    match Text.Utf8.decode content with
    | some text => .ok (some text)
    | none => .error .undecodable

/-- The place where the program runs is a directory, and so is all that lies above it. A link is one more name, which
leads to a place for good, be there anything or not, or in a circle. All files can be read and written, and all
directories can be searched and changed: who may do what is not looked at. -/
structure Disk where
  here : Location
  nodes : List (Location × Node)
  links : List (Location × Option Location)

/-- Why a path leads nowhere. -/
inductive Obstacle where
  | missing
  | notADirectory
  | tooLong
  | circle
  deriving DecidableEq

def Obstacle.fault : Obstacle → Fault
  | missing => .missing
  | tooLong | circle => .system
  | notADirectory => .notADirectory

namespace Disk

/-- Nothing but the place where the program runs, which is known by its sign only. -/
def fresh : Disk := ⟨Location.root.child FilePath.homeSign, [], []⟩

def node? (d : Disk) (l : Location) : Option Node :=
  if l.isAbove d.here then some .directory else Entries.get? l d.nodes

def put (d : Disk) (l : Location) (n : Node) : Disk :=
  { d with nodes := Entries.put l n d.nodes }

/-- Names have at most 255 octets. -/
def isTooLong (name : String) : Bool :=
  decide (255 < name.utf8ByteSize)

def startOf (d : Disk) (p : FilePath) : Location :=
  match p.start with
  | .root _ => .root
  | _ => d.here

/-- The place that a name stands for: that of the name itself unless it is a link, and none if that leads in a
circle. -/
def target? (d : Disk) (l : Location) : Option Location :=
  (Entries.get? l d.links).getD (some l)

/-- Where a name leads. A link leads nowhere while there is no directory for what it stands for. -/
def lead (d : Disk) (l : Location) : Except Obstacle Location :=
  match d.target? l with
  | none => .error .circle
  | some target => if target = l ∨ d.node? target.parent = some .directory then .ok target else .error .missing

/-- Where a name in a directory leads, and what is there. A double point leads up. -/
def look (d : Disk) (l : Location) (name : String) : Except Obstacle (Location × Option Node) :=
  if name = ".." then .ok (l.parent, some .directory)
  else if isTooLong name then .error .tooLong
  else (d.lead (l.child name)).map fun place => (place, d.node? place)

/-- Follows names from a node. Only in a directory is there anything to be found. -/
def walk (d : Disk) : Location → Node → List String → Except Obstacle (Location × Node)
  | l, n, [] => .ok (l, n)
  | _, .file _, _ :: _ => .error .notADirectory
  | l, .directory, name :: rest =>
    match d.look l name with
    | .error o => .error o
    | .ok (_, none) => .error .missing
    | .ok (place, some n) => d.walk place n rest

def find (d : Disk) (p : FilePath) : Except Obstacle (Location × Node) :=
  if p.isTooLong then .error .tooLong else d.walk (d.startOf p) .directory p.names

/-- Makes one directory below a node and gives its place; one that is there already is fine. A link that leads to none
is in its way. -/
def makeAt (d : Disk) (l : Location) (n : Node) (name : String) : Except Fault Location × Disk :=
  match n with
  | .file _ => (.error .notADirectory, d)
  | .directory =>
    match d.look l name with
    | .ok (place, some .directory) => (.ok place, d)
    | .ok (place, none) =>
      if place = l.child name then (.ok place, d.put place .directory) else (.error .fileExists, d)
    | .error .tooLong => (.error .system, d)
    | _ => (.error .fileExists, d)

/-- Makes a directory with its missing ancestors, for names in reverse order. The directory is tried first, and
only if its parent is missing are the ancestors made. Those made before a failure stay. -/
def makeReversed (d : Disk) (start : Location) : List String → Except Fault Location × Disk
  | [] => (.ok start, d)
  | name :: ancestors =>
    match d.walk start .directory ancestors.reverse with
    | .ok (l, n) => d.makeAt l n name
    | .error .missing =>
      match d.makeReversed start ancestors with
      | (.error fault, d) => (.error fault, d)
      | (.ok l, d) => d.makeAt l .directory name
    | .error o => (.error o.fault, d)

/-- Makes the directory of a path, with its missing ancestors, and gives its place. -/
def makeDirectories (d : Disk) (p : FilePath) : Except Fault Location × Disk :=
  if p.hasNul then (.error .badValue, d)
  else if p.isTooLong then (.error .system, d)
  else d.makeReversed (d.startOf p) p.names.reverse

/-- Where a name leads in a directory with a path, and what is there. -/
def entry (d : Disk) (directory : FilePath) (l : Location) (name : String) :
    Except Fault (Location × Option Node) :=
  if (directory.child name).hasNul then .error .badValue
  else if (directory.child name).isTooLong then .error .system
  else (d.look l name).mapError Obstacle.fault

/-- Makes a directory unless it is there, and looks up a name in it. -/
def entryIn (d : Disk) (directory : FilePath) (name : String) : Except Fault (Location × Option Node) × Disk :=
  match d.makeDirectories directory with
  | (.error fault, d) => (.error fault, d)
  | (.ok l, d) => (d.entry directory l name, d)

/-- Where a file lies that is opened for writing, in a directory that is made unless it is there. -/
def openIn (d : Disk) (directory : FilePath) (name : String) : Except Fault Location × Disk :=
  match d.entryIn directory name with
  | (.error fault, d) => (.error fault, d)
  | (.ok (_, some .directory), d) => (.error .isADirectory, d)
  | (.ok (target, _), d) => (.ok target, d)

/-- Writes a file, after its missing directories have been made. One that is there already is written over. -/
def writeFile (d : Disk) (p : FilePath) (content : List UInt8) : Except Fault Unit × Disk :=
  match p.names.getLast? with
  | none => (.error .isADirectory, d)
  | some name =>
    match d.openIn p.parent name with
    | (.error fault, d) => (.error fault, d)
    | (.ok target, d) => (.ok (), d.put target (.file content))

/-- Makes a directory that is not there yet, after its missing ancestors. -/
def makeDirectory (d : Disk) (p : FilePath) : Except Fault Unit × Disk :=
  match p.names.getLast? with
  | none => (.error .fileExists, d)
  | some name =>
    match d.entryIn p.parent name with
    | (.error fault, d) => (.error fault, d)
    | (.ok (_, some _), d) => (.error .fileExists, d)
    | (.ok (target, none), d) => (.ok (), d.put target .directory)

/-- Makes a node at a path, with the directories above it that are missing. -/
def place (d : Disk) (p : FilePath) (n : Node) : Except Fault Unit × Disk :=
  match n with
  | .file content => d.writeFile p content
  | .directory => d.makeDirectory p

/-- Takes away the file that a path leads to. The path is taken as it is written, so it may not be empty or end like
that of a directory. -/
def removeFile (d : Disk) (path : String) : Except Fault Disk :=
  if (FilePath.ofText path).hasNul then .error .badValue
  else if path = "" then .error .missing
  else if FilePath.isTooLongText path then .error .system
  else match d.find (.ofText path) with
    | .error o => .error o.fault
    | .ok (_, .directory) => .error .isADirectory
    | .ok (l, .file _) =>
      if FilePath.isDirectoryText path then .error .notADirectory
      else .ok { d with nodes := Entries.erase l d.nodes }

/-- Everything below the place where the program runs, under its path from there. -/
def listing (d : Disk) : List (String × Node) :=
  let below := d.nodes.filterMap fun entry =>
    match d.here.namesTo? entry.1 with
    | some (name :: rest) => some (FilePath.text ⟨.here, name :: rest⟩, entry.2)
    | _ => none
  below.mergeSort fun a b => decide (a.1 ≤ b.1)

/-- What is listed, with the text of each file. -/
def texts (d : Disk) : Except Fault (List (String × Option String)) :=
  d.listing.mapM fun entry => entry.2.text?.map fun text => (entry.1, text)

theorem node?_eq_get? {d : Disk} {l : Location} (free : d.node? l ≠ some .directory) :
    d.node? l = Entries.get? l d.nodes := by
  unfold node? at free ⊢
  split at free
  · exact absurd rfl free
  · next below => rw [if_neg below]

/-- What is put where there is no directory is there then. -/
theorem node?_put_self {d : Disk} {l : Location} (free : d.node? l ≠ some .directory) (n : Node) :
    (d.put l n).node? l = some n := by
  unfold node? at free ⊢
  split at free
  · exact absurd rfl free
  · next below =>
    rw [put, if_neg below]
    exact Entries.get?_put_self l n d.nodes

theorem node?_put_of_ne (d : Disk) {l l' : Location} (h : l' ≠ l) (n : Node) :
    (d.put l n).node? l' = d.node? l' := by
  simp [node?, put, Entries.get?_put_of_ne h]

end Disk

end TypeForward
