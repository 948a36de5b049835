import TypeForward.Session.Object

/-! Sessions: a host and a disk, what can be done with them and what may come of it. -/
namespace TypeForward

structure Session where
  host : Host
  disk : Disk

namespace Session

def fresh : Session := ⟨[], .fresh⟩

/-- The objects that a step names. -/
structure Names where
  metadata : Option String
  token : Option String
  cache : Option String
  sink : Option String

/-- A signal for selection: the names that are generated, or all of them. -/
structure Signals where
  names : List String
  all : Bool

def Signals.selector (s : Signals) : Selector :=
  fun name _ => .ok (s.all || name.isAmong s.names)

/-- A recorder watches a name and is to set the object of another. A `lookUp` is made at a threshold or, without
one, as the object asked sees fit. -/
inductive Action where
  | makeSignal (id : String) (s : Signal)
  | makeLibrary (id : String) (version types : Value)
  | makeLibraryOf (id : String) (version names : Value)
  | makeRecorder (id : String) (version types : Value) (watch : Option (String × String))
  | makeCache (id : String)
  | makeSink (id : String) (s : Sink)
  | cancel
  | poll
  | describe
  | atLeast (threshold : Value)
  | defines (name : Value)
  | resolve (threshold candidates : Value)
  | lookUp (key : Value) (threshold : Option Value)
  | cacheSet (key threshold result : Value)
  | cacheClear
  | cacheSize
  | cacheResolve (key threshold : Value)
  | add (name : String) (text : SourceText)
  | source (name : String)
  | contains (name : String)
  | size
  | emit (name : Value)
  | files
  | generate (options : List (String × Value)) (signals : Option Signals) (key threshold : Value)

inductive Answer where
  | done
  | library (c : CoreLibrary)
  | value (v : Value)
  | text (t : SourceText)
  | files (found : List (String × Option String))
  | artifact (a : Artifact)
  | artifacts (made : List Artifact)

/-- What a step came to. The names put to a selector are reported only if the step brought one. -/
structure Outcome where
  answer : Except Fault Answer
  asked : Option (List Value)
  log : List Event

/-- An answer with nothing logged. -/
def Outcome.plain (answer : Except Fault Answer) : Outcome :=
  ⟨answer, none, []⟩

def Outcome.ofNames (names : Except Fault (List Value)) (log : List Event) : Outcome :=
  ⟨names.map fun names => .value (.tuple names), none, log⟩

end Session

end TypeForward
