/-! The option fields: two flags and two lists of type names. -/
namespace TypeForward

inductive Flag where
  | excludeForwards
  | publicTypes
  deriving DecidableEq

inductive NameList where
  | included
  | excluded
  deriving DecidableEq

inductive Field where
  | flag (f : Flag)
  | names (l : NameList)
  deriving DecidableEq

def Flag.name : Flag → String
  | excludeForwards => "exclude_type_forwarded_to_declarations"
  | publicTypes => "use_public_accessibility_for_generated_types"

def NameList.name : NameList → String
  | included => "include_generated_types"
  | excluded => "exclude_generated_types"

namespace Field

def name : Field → String
  | flag f => f.name
  | names l => l.name

/-- The fields in the order in which they are declared and checked. -/
def all : List Field :=
  [flag .excludeForwards, flag .publicTypes, names .included, names .excluded]

def ofName? (name : String) : Option Field :=
  all.find? fun f => f.name == name

theorem mem_all (f : Field) : f ∈ all := by
  cases f with
  | flag f => cases f <;> decide
  | names l => cases l <;> decide

theorem name_injective {f g : Field} (h : f.name = g.name) : f = g := by
  revert h
  cases f with
  | flag f => cases f <;> cases g with
    | flag g => cases g <;> decide
    | names l => cases l <;> decide
  | names k => cases k <;> cases g with
    | flag g => cases g <;> decide
    | names l => cases l <;> decide

theorem name_ne {f g : Field} (other : f ≠ g) : f.name ≠ g.name :=
  fun same => other (name_injective same)

theorem ofName?_eq_some_iff {name : String} {f : Field} : ofName? name = some f ↔ f.name = name := by
  constructor
  · intro h
    simpa using List.find?_some h
  · intro h
    cases found : ofName? name with
    | none => exact absurd h (by simpa using List.find?_eq_none.1 found f (mem_all f))
    | some g =>
      have hg : g.name = name := by simpa using List.find?_some found
      rw [name_injective (hg.trans h.symm)]

@[simp] theorem ofName?_name (f : Field) : ofName? f.name = some f :=
  ofName?_eq_some_iff.2 rfl

end Field

end TypeForward
