import TypeForward.Pass
import TypeForward.Session.Recorder

/-! The objects that a host keeps by name: stop signals, compilations, caches and sinks. -/
namespace TypeForward

/-- A `manual` signal is set by hand and stays set; a `limited` one says to go on a number of times and to stop
from then on. -/
inductive Signal where
  | never
  | manual (cancelled : Bool)
  | limited (allowed polled : Nat)
  deriving DecidableEq

def Signal.poll : Signal → Bool × Signal
  | never => (false, never)
  | manual cancelled => (cancelled, manual cancelled)
  | limited allowed polled => (decide (allowed ≤ polled), limited allowed (polled + 1))

inductive Object where
  | signal (s : Signal)
  | library (c : CoreLibrary)
  | recorder (r : Recorder)
  | cache (c : Cache)
  | sink (s : Sink)

namespace Object

/-- How many things an object holds, if it counts them. -/
def size? : Object → Option Nat
  | cache c => some c.size
  | sink s => some s.size
  | _ => none

/-- A description. Only signals that are not counted and libraries have one of their own. -/
def text : Object → String
  | signal .never => "CancellationToken.NONE"
  | signal (.manual cancelled) => "CancellationToken(cancelled=" ++ (Value.bool cancelled).printed ++ ")"
  | library c =>
    "InMemoryMetadataSource(language_version=" ++ (Value.version c.version).printed ++ ", core_library_types="
      ++ (Value.frozenSet c.types).printed ++ ")"
  | _ => "<object>"

end Object

/-- The objects by name. -/
abbrev Host := List (String × Object)

namespace Host

variable (host : Host)

/-- The object of a name, if a name is given and leads to one. -/
def named? (id : Option String) : Option Object :=
  id.bind fun id => Entries.get? id host

def put (id : String) (o : Object) : Host :=
  Entries.put id o host

/-- Puts a new object, so that recorders lose the signal that had its name. -/
def install (id : String) (o : Object) : Host :=
  (host.put id o).map fun (name, o) =>
    match o with
    | .recorder r => (name, .recorder (r.losing id))
    | _ => (name, o)

/-- What a recorder is to set, given the name of an object. Where there is none, nothing is set. -/
def target? (id : String) : Option Recorder.Target :=
  (Entries.get? id host).map fun
    | .signal (.manual _) => .kept id
    | _ => .unsettable

/-- Sets what a query for a watched name sets. -/
def trigger : Option Recorder.Target → Except Fault Unit × Host
  | none | some .lost => (.ok (), host)
  | some (.kept id) => (.ok (), host.put id (.signal (.manual true)))
  | some .unsettable => (.error .missingAttribute, host)

/-- Polls the signal of a name. A name that leads nowhere never stops anything. -/
def poll (id : String) : Except Fault Bool × Host :=
  match Entries.get? id host with
  | none => (.ok false, host)
  | some (.signal s) => (.ok s.poll.1, host.put id (.signal s.poll.2))
  | some _ => (.error .missingAttribute, host)

/-- Asks the compilation of a name for its version. -/
def atLeast (id : String) (threshold : Value) : Except Fault Bool × Host :=
  match Entries.get? id host with
  | some (.library c) => (c.atLeast threshold, host)
  | some (.recorder r) =>
    let (answer, r) := r.atLeast threshold
    (answer, host.put id (.recorder r))
  | _ => (.error .missingAttribute, host)

/-- Asks the compilation of a name for a type. A recorder remembers the question and sets its target before it
answers. -/
def defines (id : String) (name : Value) : Except Fault Bool × Host :=
  match Entries.get? id host with
  | some (.library c) => (c.defines name, host)
  | some (.recorder r) =>
    let r := r.record (.type name)
    match host.trigger (r.target? name) with
    | (.error fault, host) => (.error fault, host.put id (.recorder r))
    | (.ok (), host) =>
      let (answer, r) := r.defines name
      (answer, host.put id (.recorder r))
  | _ => (.error .missingAttribute, host)

end Host

/-- The signal of that name; without one a pass is never stopped. -/
def Token.named : Option String → Token Host
  | none => .never
  | some id => ⟨fun host => host.poll id⟩

/-- A compilation that is not there answers nothing. -/
def Metadata.absent {σ : Type} : Metadata σ where
  atLeast _ s := (.error .missingAttribute, s)
  defines _ s := (.error .missingAttribute, s)

/-- The compilation of that name. -/
def Metadata.named : Option String → Metadata Host
  | none => .absent
  | some id =>
    { atLeast := fun threshold host => host.atLeast id threshold
      defines := fun name host => host.defines id name }

end TypeForward
