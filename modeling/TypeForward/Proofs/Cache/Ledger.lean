import TypeForward.Proofs.Cache.Transparency
import TypeForward.Proofs.Value.Equality

/-! What a cache is asked for, and a ledger that answers the same. Every result that is stored is written down in the
ledger with its key and its threshold, and an answer is read off what was written last for the two, up to equality. -/
namespace TypeForward
variable {σ : Type}

instance (v : Value) : Decidable v.Unhashable :=
  decidable_of_iff _ Value.identity_eq_unhashable_iff

namespace Cache

/-- Nothing can be kept for a key at a threshold if one of them cannot be a key. -/
def Refused (key threshold : Value) : Prop :=
  key.Unhashable ∨ threshold.Unhashable

instance (key threshold : Value) : Decidable (Refused key threshold) :=
  inferInstanceAs (Decidable (_ ∨ _))

/-- A call of one of the operations on a cache. -/
inductive Call (σ : Type) where
  | get (key threshold : Value)
  | set (key threshold result : Value)
  | clear
  | size
  | resolve (r : Request σ)

/-- What a call comes to. After a resolution that includes the host and the log. -/
inductive Reply (σ : Type) where
  | found (stored : Except Fault (Option (List Value)))
  | done (outcome : Except Fault Unit)
  | counted (n : Nat)
  | resolved (names : Except Fault (List Value)) (progress : Progress σ)

def Reply.fault? : Reply σ → Option Fault
  | found (.error fault) | done (.error fault) | resolved (.error fault) _ => some fault
  | _ => none

/-- The call is about other pairs than this one, or about none. -/
def Call.Spares (key threshold : Value) : Call σ → Prop
  | get .. | size => True
  | clear => False
  | set k t _ => ¬ (k.same key = true ∧ t.same threshold = true)
  | resolve r => ¬ (r.key.same key = true ∧ r.threshold.same threshold = true)

/-- The resolution that a request asks for where nothing is kept for it. -/
def Request.resolution (r : Request σ) : Except Fault (List Value) × Progress σ :=
  Availability.resolve r.metadata r.token r.threshold Availability.registry
    (r.progress.note (.cacheMiss r.key r.threshold))

/-- The replies to calls in a row, and the state after them, of anything that performs calls. -/
def serve {α : Type} (perform : α → Call σ → Reply σ × α) (a : α) : List (Call σ) → List (Reply σ) × α
  | [] => ([], a)
  | call :: rest =>
    let (reply, a) := perform a call
    let (replies, a) := serve perform a rest
    (reply :: replies, a)

def perform (c : Cache) : Call σ → Reply σ × Cache
  | .get key threshold => (.found (c.lookUp key threshold), c)
  | .set key threshold result =>
    match c.store key threshold result with
    | .error fault => (.done (.error fault), c)
    | .ok c => (.done (.ok ()), c)
  | .clear => (.done (.ok ()), .empty)
  | .size => (.counted c.size, c)
  | .resolve r =>
    let (names, c, progress) := c.getOrResolve r.key r.threshold r.metadata r.token r.progress
    (.resolved names progress, c)

/-- The answers that a request gets from its host. -/
def asked (c : Cache) (r : Request σ) : Record :=
  (c.getOrResolve r.key r.threshold r.metadata.observed r.token.observed (r.progress.observed [])).2.2.host.seen

/-- A result that was stored for a key at a threshold. -/
structure Line where
  key : Value
  threshold : Value
  names : List Value

/-- Whether the line is about a key at a threshold, up to equality. -/
def Line.isFor (line : Line) (key threshold : Value) : Bool :=
  line.key.same key && line.threshold.same threshold

/-- What was stored since the ledger was last cleared, the latest first. -/
abbrev Ledger := List Line

namespace Ledger

/-- What was stored last for a key at a threshold. -/
def latest? (l : Ledger) (key threshold : Value) : Option (List Value) :=
  (l.find? fun line => line.isFor key threshold).map (·.names)

/-- The number of different pairs of a key and a threshold for which something was stored. -/
def pairs : Ledger → Nat
  | [] => 0
  | line :: earlier => pairs earlier + if earlier.any (·.isFor line.key line.threshold) then 0 else 1

def lookUp (l : Ledger) (key threshold : Value) : Except Fault (Option (List Value)) :=
  if Refused key threshold then .error .wrongType else .ok (l.latest? key threshold)

def store (l : Ledger) (key threshold result : Value) : Except Fault Ledger :=
  match result.elements? with
  | none => .error .wrongType
  | some names => if Refused key threshold then .error .wrongType else .ok (⟨key, threshold, names⟩ :: l)

/-- What is written down for a request is its reply, and its host is not asked. Otherwise the reply is that of the
resolution, and it is written down if the poll afterwards says to go on. -/
def resolve (l : Ledger) (r : Request σ) : Reply σ × Ledger :=
  match l.lookUp r.key r.threshold with
  | .error fault => (.resolved (.error fault) r.progress, l)
  | .ok (some names) => (.resolved (.ok names) (r.progress.note (.cacheHit r.key r.threshold)), l)
  | .ok none =>
    match r.resolution with
    | (.error fault, progress) => (.resolved (.error fault) progress, l)
    | (.ok names, progress) =>
      match progress.poll r.token with
      | (.error fault, progress) => (.resolved (.error fault) progress, l)
      | (.ok true, progress) => (.resolved (.ok names) progress, l)
      | (.ok false, progress) => (.resolved (.ok names) progress, ⟨r.key, r.threshold, names⟩ :: l)

def perform (l : Ledger) : Call σ → Reply σ × Ledger
  | .get key threshold => (.found (l.lookUp key threshold), l)
  | .set key threshold result =>
    match l.store key threshold result with
    | .error fault => (.done (.error fault), l)
    | .ok l => (.done (.ok ()), l)
  | .clear => (.done (.ok ()), [])
  | .size => (.counted l.pairs, l)
  | .resolve r => l.resolve r

/-- Writing a line down adds a pair if there was nothing for it. -/
theorem pairs_cons (line : Line) (l : Ledger) :
    pairs (line :: l) = l.pairs + if (l.latest? line.key line.threshold).isSome then 0 else 1 := by
  rw [pairs, latest?, Option.isSome_map, List.isSome_find?]

end Ledger

end Cache

end TypeForward
