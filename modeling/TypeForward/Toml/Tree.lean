import TypeForward.Entries
import TypeForward.Toml.Lexeme
import TypeForward.Value.Basic

/-! The tables of a document while it is read, and which of them may still be extended. -/
namespace TypeForward.Toml

abbrev Table := List (String × Value)

abbrev KeyPath := List String

/-- Changes the table at a path. Missing tables on the way are made; inside a list of tables the last one counts,
if lists may be entered at all. -/
def changeAt (enterLists : Bool) (change : Table → Except Error Table) : KeyPath → Table → Except Error Table
  | [], t => change t
  | k :: path, t =>
    match Entries.get? k t with
    | none => do return Entries.put k (.table (← changeAt enterLists change path [])) t
    | some (.table inner) => do return Entries.put k (.table (← changeAt enterLists change path inner)) t
    | some (.list items) =>
      match enterLists, items.getLast? with
      | true, some (.table inner) => do
        let changed ← changeAt enterLists change path inner
        return Entries.put k (.list (items.dropLast ++ [.table changed])) t
      | _, _ => .error .malformed
    | some _ => .error .malformed

/-- A new key with its value. -/
def addEntry (k : String) (v : Value) (t : Table) : Except Error Table :=
  match Entries.get? k t with
  | none => .ok (t ++ [(k, v)])
  | some _ => .error .malformed

/-- One more empty table at the end of a list of tables. -/
def addToList (k : String) (t : Table) : Except Error Table :=
  match Entries.get? k t with
  | none => .ok (t ++ [(k, .list [.table []])])
  | some (.list items) => .ok (Entries.put k (.list (items ++ [.table []])) t)
  | some _ => .error .malformed

/-- Tables that are `declared` take no second header; what lies below a `frozen` value takes nothing more. Tables
made by dotted keys are `pending` until the next header and count as declared from then on. -/
structure Guards where
  declared : List KeyPath
  frozen : List KeyPath
  pending : List KeyPath

namespace Guards

def none : Guards := ⟨[], [], []⟩

def isDeclared (g : Guards) (path : KeyPath) : Bool :=
  g.declared.contains path

def isFrozen (g : Guards) (path : KeyPath) : Bool :=
  g.frozen.any (·.isPrefixOf path)

def declare (g : Guards) (path : KeyPath) : Guards :=
  { g with declared := path :: g.declared }

def freeze (g : Guards) (path : KeyPath) : Guards :=
  { g with frozen := path :: g.frozen }

/-- Forgets what is known at and below a path. -/
def release (g : Guards) (path : KeyPath) : Guards :=
  { g with
    declared := g.declared.filter fun p => !path.isPrefixOf p
    frozen := g.frozen.filter fun p => !path.isPrefixOf p }

def settle (g : Guards) : Guards :=
  { g with declared := g.pending ++ g.declared, pending := [] }

end Guards

end TypeForward.Toml
