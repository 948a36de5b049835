import TypeForward.Artifact
import TypeForward.Event
import TypeForward.Metadata

/-! Which candidates the core library of a compilation defines. A resolution that is cancelled yields nothing
rather than a part. -/
namespace TypeForward

/-- The state of the host and what was logged so far. -/
structure Progress (σ : Type) where
  host : σ
  log : List Event

namespace Progress

variable {σ : Type}

def note (s : Progress σ) (e : Event) : Progress σ :=
  { s with log := s.log ++ [e] }

def poll (s : Progress σ) (t : Token σ) : Except Fault Bool × Progress σ :=
  let (stop, host) := t.poll s.host
  (stop, { s with host := host })

def atLeast (s : Progress σ) (m : Metadata σ) (threshold : Value) : Except Fault Bool × Progress σ :=
  let (answer, host) := m.atLeast threshold s.host
  (answer, { s with host := host })

def defines (s : Progress σ) (m : Metadata σ) (name : Value) : Except Fault Bool × Progress σ :=
  let (answer, host) := m.defines name s.host
  (answer, { s with host := host })

end Progress

namespace Availability

variable {σ : Type}

/-- Below this version no generated type needs a forward. -/
def defaultThreshold : Value :=
  .version .csharp8

/-- The present ones of the candidates, or `none` if a poll before one of them says to stop. -/
def lookUp (m : Metadata σ) (t : Token σ) :
    List Value → Progress σ → Except Fault (Option (List Value)) × Progress σ
  | [], s => (.ok (some []), s)
  | name :: rest, s =>
    match s.poll t with
    | (.error fault, s) => (.error fault, s)
    | (.ok true, s) => (.ok none, s.note (.resolutionCancelled name))
    | (.ok false, s) =>
      match s.defines m name with
      | (.error fault, s) => (.error fault, s)
      | (.ok true, s) =>
        let (found, s) := lookUp m t rest s
        (found.map (·.map (name :: ·)), s)
      | (.ok false, s) => lookUp m t rest (s.note (.notDefined name))

/-- The candidates that the core library defines, in their order; nothing below the threshold. -/
def resolve (m : Metadata σ) (t : Token σ) (threshold candidates : Value) (s : Progress σ) :
    Except Fault (List Value) × Progress σ :=
  match s.atLeast m threshold with
  | (.error fault, s) => (.error fault, s)
  | (.ok false, s) => (.ok [], s.note (.versionBelow threshold))
  | (.ok true, s) =>
    match candidates.elements? with
    | none => (.error .wrongType, s)
    | some names =>
      let (found, s) := lookUp m t names s
      (found.map (·.getD []), s)

/-- The registry of candidates as a value that can be walked. -/
def registry : Value :=
  .tuple (Candidates.all.map .text)

end Availability

end TypeForward
