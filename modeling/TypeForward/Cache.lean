import TypeForward.Availability

/-! Availability remembered by its owner. A result belongs to a key together with a threshold, and only complete
results are kept. -/
namespace TypeForward

/-- An entry without a key was stored under something that equals nothing; it only counts. -/
structure Cache where
  entries : List (Option Key × List Value)

namespace Cache

def empty : Cache := ⟨[]⟩

def size (c : Cache) : Nat :=
  c.entries.length

/-- The identity under which the result for a key at a threshold is kept. -/
def slot (key threshold : Value) : Identity :=
  (Value.tuple [key, threshold]).identity

def lookUp (c : Cache) (key threshold : Value) : Except Fault (Option (List Value)) :=
  match slot key threshold with
  | .unhashable => .error .wrongType
  | .unique => .ok none
  | .key k => .ok (Entries.get? (some k) c.entries)

/-- An earlier result for the same key and threshold is replaced. -/
def insert (c : Cache) (key threshold : Value) (names : List Value) : Except Fault Cache :=
  match slot key threshold with
  | .unhashable => .error .wrongType
  | .unique => .ok ⟨c.entries ++ [(none, names)]⟩
  | .key k => .ok ⟨Entries.put (some k) names c.entries⟩

/-- Stores what walking through a value gives. -/
def store (c : Cache) (key threshold result : Value) : Except Fault Cache :=
  match result.elements? with
  | some names => c.insert key threshold names
  | none => .error .wrongType

/-- The stored result if there is one, else a resolution, which is stored unless it was cancelled. -/
def getOrResolve {σ : Type} (c : Cache) (key threshold : Value) (m : Metadata σ) (t : Token σ)
    (s : Progress σ) : Except Fault (List Value) × Cache × Progress σ :=
  match c.lookUp key threshold with
  | .error fault => (.error fault, c, s)
  | .ok (some names) => (.ok names, c, s.note (.cacheHit key threshold))
  | .ok none =>
    match Availability.resolve m t threshold Availability.registry (s.note (.cacheMiss key threshold)) with
    | (.error fault, s) => (.error fault, c, s)
    | (.ok names, s) =>
      match s.poll t with
      | (.error fault, s) => (.error fault, c, s)
      | (.ok true, s) => (.ok names, c, s)
      | (.ok false, s) =>
        match c.insert key threshold names with
        | .error fault => (.error fault, c, s)
        | .ok c => (.ok names, c, s)

end Cache

end TypeForward
