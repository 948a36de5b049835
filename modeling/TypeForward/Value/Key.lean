import TypeForward.Value.Basic

/-! Equality of values as keys. Numbers of all types compare by what they denote, moments with an offset by their
instant, sets by their members. A key is written as its atoms in prefix order, each collection after its size and the
members of a set in a fixed order, so that equal keys are equal lists. -/
namespace TypeForward

inductive Key.Atom where
  | none
  | number (q : Rat)
  | infinite (negative : Bool)
  | text (s : String)
  | octets (bytes : List UInt8)
  | instant (microseconds : Int)
  | moment (m : Moment)
  | tuple (size : Nat)
  | members (size : Nat)
  deriving DecidableEq

abbrev Key := List Key.Atom

namespace Key

/-- The numbers of a moment, after one for its kind. -/
def momentCode : Moment → List Int
  | .date d => 0 :: dateCode d
  | .time t => 1 :: clockCode t
  | .dateTime d t offset => 2 :: (dateCode d ++ clockCode t ++ offset.toList)
where
  dateCode (d : Date) : List Int :=
    [d.year, d.month, d.day]
  clockCode (t : ClockTime) : List Int :=
    [t.hour, t.minute, t.second, t.microsecond]

/-- An atom as numbers, by which atoms are put in order. -/
def Atom.code : Atom → List Int
  | none => [0]
  | number q => [1, q.num, q.den]
  | infinite negative => [2, if negative then 1 else 0]
  | text s => 3 :: s.toList.map fun c => (c.toNat : Int)
  | octets bytes => 4 :: bytes.map fun b => (b.toNat : Int)
  | instant microseconds => [5, microseconds]
  | moment m => 6 :: momentCode m
  | tuple size => [7, size]
  | members size => [8, size]

def code (k : Key) : List (List Int) :=
  k.map Atom.code

/-- A key put among others that are in order, unless it is there. -/
def place (k : Key) : List Key → List Key
  | [] => [k]
  | l :: rest => if k = l then l :: rest else if k.code < l.code then k :: l :: rest else l :: place k rest

/-- The same keys in order, each once. -/
def ordered (ks : List Key) : List Key :=
  ks.foldr place []

end Key

/-- How a value takes part in look-ups. One that is `unique` can be looked up but equals nothing, not even
a second copy of itself. -/
inductive Identity where
  | unhashable
  | unique
  | key (k : Key)
  deriving DecidableEq

namespace Identity

/-- The identity of a sequence from those of its head and its tail. -/
def append : Identity → Identity → Identity
  | unhashable, _ | _, unhashable => unhashable
  | unique, _ | _, unique => unique
  | key a, key b => key (a ++ b)

def key? : Identity → Option Key
  | key k => some k
  | _ => none

/-- The identity of a set from those of its members. -/
def ofMembers (ids : List Identity) : Identity :=
  match ids.foldr append (.key []) with
  | .key _ =>
    let ks := Key.ordered (ids.filterMap key?)
    .key (.members ks.length :: ks.flatten)
  | other => other

end Identity

namespace Value

mutual

/-- Lists, mutable sets and tables cannot be keys, nor can anything that holds one. -/
def identity : Value → Identity
  | none => .key [.none]
  | bool b => .key [.number (if b then 1 else 0)]
  | int n => .key [.number n]
  | version v => .key [.number v.code]
  | real .nan => .unique
  | real (.infinite negative) => .key [.infinite negative]
  | real (.finite negative m e) => .key [.number (((Binary64.finite negative m e).toRat?).getD 0)]
  | text s => .key [.text s]
  | octets bytes => .key [.octets bytes]
  | moment m => .key [m.instant?.elim (.moment m) .instant]
  | tuple xs => (Identity.key [.tuple xs.length]).append (identityAll xs)
  | frozenSet xs => .ofMembers (identities xs)
  | stream _ => .unique
  | list _ | set _ | table _ => .unhashable

def identityAll : List Value → Identity
  | [] => .key []
  | x :: xs => (identity x).append (identityAll xs)

def identities : List Value → List Identity
  | [] => []
  | x :: xs => identity x :: identities xs

end

/-- How a value is looked up in a set: there a mutable set stands for the frozen set of its members. -/
def memberIdentity : Value → Identity
  | set xs => identity (frozenSet xs)
  | v => identity v

/-- The first of each group of equal values; an unhashable one refuses the whole. -/
def distinct? : List Value → Option (List Value)
  | xs => go [] xs
where
  go (seen : List Key) : List Value → Option (List Value)
    | [] => some []
    | x :: rest =>
      match x.identity with
      | .unhashable => Option.none
      | .unique => (go seen rest).map (x :: ·)
      | .key k => if seen.contains k then go seen rest else (go (k :: seen) rest).map (x :: ·)

@[simp] theorem identity_text (s : String) : (text s).identity = .key [.text s] := rfl

end Value

end TypeForward
