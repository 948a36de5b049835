/-! Places on a disk, reached from its root by names. -/
namespace TypeForward

/-- The names on the way from the root, and how many they are: places at different depths are told apart without
a look at the names. -/
structure Location where
  depth : Nat
  names : List String
  length_names : names.length = depth := by simp
  deriving DecidableEq

namespace Location

def root : Location where
  depth := 0
  names := []

def child (l : Location) (name : String) : Location where
  depth := l.depth + 1
  names := l.names ++ [name]
  length_names := by simp [l.length_names]

/-- The place above; the root is above itself. -/
def parent (l : Location) : Location where
  depth := l.depth - 1
  names := l.names.dropLast
  length_names := by simp [l.length_names]

/-- The names that lead from one place down to another, if it is not elsewhere. -/
def namesTo? (l below : Location) : Option (List String) :=
  l.names.isPrefixOf? below.names

/-- A place is above itself. -/
def isAbove (l below : Location) : Bool :=
  decide (l.depth ≤ below.depth) && l.names.isPrefixOf below.names

theorem ext_names {l m : Location} (h : l.names = m.names) : l = m := by
  cases l with
  | mk depth names length_names =>
    cases m with
    | mk depth' names' length_names' =>
      subst h
      subst length_names
      subst length_names'
      rfl

@[simp] theorem names_child (l : Location) (name : String) : (l.child name).names = l.names ++ [name] := rfl

@[simp] theorem parent_child (l : Location) (name : String) : (l.child name).parent = l :=
  ext_names (by simp [parent])

/-- Different names lead to different places. -/
theorem child_inj {l : Location} {name other : String} : l.child name = l.child other ↔ name = other := by
  constructor
  · intro h
    simpa using congrArg names h
  · rintro rfl
    rfl

end Location

end TypeForward
