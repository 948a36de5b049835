import TypeForward.Text.Pieces

/-! Paths as they are written. Repeated slashes and single points mean nothing; a double point stays, since what it
names depends on the disk. -/
namespace TypeForward

/-- Where a path starts: where the program runs, the same place by its name, or the root, which may be written
with one slash or with two. -/
inductive FilePath.Start where
  | here
  | home
  | root (double : Bool)
  deriving DecidableEq

structure FilePath where
  start : FilePath.Start
  names : List String
  deriving DecidableEq

namespace FilePath

def startOf : List Char → Start
  | '/' :: '/' :: '/' :: _ => .root false
  | '/' :: '/' :: _ => .root true
  | '/' :: _ => .root false
  | _ => .here

def ofText (s : String) : FilePath :=
  let names := (Text.pieces (· == '/') s.toList).filter fun name => name ≠ [] && name ≠ ['.']
  ⟨startOf s.toList, names.map String.ofList⟩

/-- The place where the program runs is written by a sign, so that texts do not depend on it. -/
def homeSign : String := "<CWD>"

def text (p : FilePath) : String :=
  let joined := String.intercalate "/" p.names
  match p.start with
  | .here => if p.names.isEmpty then "." else joined
  | .home => if p.names.isEmpty then homeSign else homeSign ++ "/" ++ joined
  | .root double => (if double then "//" else "/") ++ joined

def child (p : FilePath) (name : String) : FilePath :=
  { p with names := p.names ++ [name] }

def parent (p : FilePath) : FilePath :=
  { p with names := p.names.dropLast }

/-- No file can have such a path. -/
def hasNul (p : FilePath) : Bool :=
  p.names.any fun name => name.toList.contains '\x00'

/-- Paths have less than 4096 octets, whatever they lead to. -/
def isTooLongText (s : String) : Bool :=
  decide (4096 ≤ s.utf8ByteSize)

def isTooLong (p : FilePath) : Bool :=
  isTooLongText p.text

/-- A text that ends with a slash or a single point names nothing but a directory. -/
def isDirectoryText (s : String) : Bool :=
  match (Text.pieces (· == '/') s.toList).getLast? with
  | some [] | some ['.'] => true
  | _ => false

@[simp] theorem parent_child (p : FilePath) (name : String) : (p.child name).parent = p := by
  simp [child, parent]

end FilePath

end TypeForward
