import TypeForward.Value.Printed

/-! What the library logs. Every event but one is for debugging: that a pass was cancelled is a warning. -/
namespace TypeForward

inductive Event where
  | versionBelow (threshold : Value)
  | resolutionCancelled (next : Value)
  | notDefined (name : Value)
  | cacheHit (key threshold : Value)
  | cacheMiss (key threshold : Value)
  | selected (count total : Nat)
  | wrote (path : String)
  | emitted (hintName : String)
  | passCancelled (made planned : Nat)
  | passFinished (available made : Nat)
  | fileIgnored (path : String)
  | variableIgnored (name : String)

namespace Event

inductive Level where
  | debug
  | warning
  deriving DecidableEq

def level : Event → Level
  | passCancelled .. => .warning
  | _ => .debug

def Level.name : Level → String
  | debug => "DEBUG"
  | warning => "WARNING"

/-- The channel on which an event is logged. -/
def channel : Event → String
  | versionBelow _ | resolutionCancelled _ | notDefined _ => "forwardgen.availability"
  | cacheHit .. | cacheMiss .. => "forwardgen.cache"
  | selected .. => "forwardgen.selection"
  | wrote _ => "forwardgen.sinks"
  | emitted _ => "forwardgen.emit"
  | passCancelled .. | passFinished .. => "forwardgen.generator"
  | fileIgnored _ | variableIgnored _ => "forwardgen.config.loaders"

def message : Event → String
  | versionBelow threshold => "Language version below " ++ threshold.shown ++ "; no type forwards resolved"
  | resolutionCancelled next => "Availability resolution cancelled before " ++ next.shown
  | notDefined name => name.shown ++ " not defined in core library"
  | cacheHit key threshold => "Availability cache hit for " ++ key.printed ++ " at " ++ threshold.shown
  | cacheMiss key threshold => "Availability cache miss for " ++ key.printed ++ " at " ++ threshold.shown
  | selected count total => "Selected " ++ toString count ++ " of " ++ toString total ++ " available type forwards"
  | wrote path => "Wrote " ++ path
  | emitted hintName => "Emitted " ++ hintName
  | passCancelled made planned =>
    "Type-forward generation cancelled after " ++ toString made ++ " of " ++ toString planned ++ " forwards"
  | passFinished available made =>
    "Type forwards: " ++ toString available ++ " available, " ++ toString made ++ " emitted"
  | fileIgnored path => "Ignoring unreadable config file " ++ path ++ ": <error>"
  | variableIgnored name => "Ignoring unrecognized environment variable " ++ name

end Event

end TypeForward
