import TypeForward.Cache
import TypeForward.Selection
import TypeForward.Sink

/-! A generation pass: resolve what is available, select what is forwarded, emit until told to stop. -/
namespace TypeForward

/-- What a pass is asked to do. Without a cache the key is the value `none`. -/
structure Pass (σ : Type) where
  metadata : Metadata σ
  token : Token σ
  options : Options
  selector : Selector
  threshold : Value
  key : Value

namespace Pass

variable {σ : Type}

/-- What a pass works on, and the names it has put to the selector. -/
structure State (σ : Type) where
  progress : Progress σ
  cache : Option Cache
  outlet : Outlet
  asked : List Value

/-- What the emission of selected names came to. -/
structure Emission where
  made : List Artifact
  cancelled : Bool

/-- Emits names in order; the token is polled before each. -/
def emitAll (t : Token σ) : List Value → State σ → Except Fault Emission × State σ
  | [], s => (.ok ⟨[], false⟩, s)
  | name :: rest, s =>
    match s.progress.poll t with
    | (.error fault, progress) => (.error fault, { s with progress := progress })
    | (.ok true, progress) => (.ok ⟨[], true⟩, { s with progress := progress })
    | (.ok false, progress) =>
      match s.outlet.emit name with
      | (.error fault, outlet) => (.error fault, { s with progress := progress, outlet := outlet })
      | (.ok (artifact, events), outlet) =>
        let progress := { progress with log := progress.log ++ events }
        let (result, s) := emitAll t rest { s with progress := progress, outlet := outlet }
        (result.map fun e => { e with made := artifact :: e.made }, s)

/-- The available names, from the cache if there is one. -/
def available (p : Pass σ) (s : State σ) : Except Fault (List Value) × State σ :=
  match s.cache with
  | some cache =>
    let (names, cache, progress) := cache.getOrResolve p.key p.threshold p.metadata p.token s.progress
    (names, { s with cache := some cache, progress := progress })
  | none =>
    let (names, progress) := Availability.resolve p.metadata p.token p.threshold Availability.registry s.progress
    (names, { s with progress := progress })

/-- Selects among the available names. -/
def select (p : Pass σ) (names : List Value) (s : State σ) : Except Fault (List Value) × State σ :=
  match Selection.select p.selector p.options names with
  | (.error fault, asked) => (.error fault, { s with asked := s.asked ++ asked })
  | (.ok chosen, asked) =>
    (.ok chosen, { s with
      asked := s.asked ++ asked
      progress := s.progress.note (.selected chosen.length names.length) })

/-- The event that closes a pass. -/
def closing (e : Emission) (available chosen : Nat) : Event :=
  if e.cancelled then .passCancelled e.made.length chosen else .passFinished available e.made.length

/-- A cache and a key go together. -/
def isPaired (p : Pass σ) (s : State σ) : Bool :=
  match p.key with
  | .none => s.cache.isNone
  | _ => s.cache.isSome

/-- The artifacts that the pass made. -/
def run (p : Pass σ) (s : State σ) : Except Fault (List Artifact) × State σ :=
  if !p.isPaired s then (.error (.configuration .cacheWithoutKey), s)
  else match p.available s with
    | (.error fault, s) => (.error fault, s)
    | (.ok names, s) =>
      match p.select names s with
      | (.error fault, s) => (.error fault, s)
      | (.ok chosen, s) =>
        match emitAll p.token chosen s with
        | (.error fault, s) => (.error fault, s)
        | (.ok e, s) =>
          (.ok e.made, { s with progress := s.progress.note (closing e names.length chosen.length) })

end Pass

end TypeForward
