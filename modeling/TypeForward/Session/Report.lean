import TypeForward.Session.Basic

/-! What is reported on the objects that a step names. -/
namespace TypeForward.Session

/-- What a report says about one object. -/
inductive Remark where
  | sources (found : List (String × SourceText))
  | paths (written : List String)
  | asked (queries : List Query)
  | polled (times : Nat)
  | cancelled (b : Bool)
  | entries (count : Nat)

def remark? : Object → Option Remark
  | .sink (.memory sources) => some (.sources sources)
  | .sink (.directory root written) => some (.paths ((Sink.directory root written).paths.map FilePath.text))
  | .recorder r => some (.asked r.asked)
  | .signal (.limited _ polled) => some (.polled polled)
  | .signal (.manual b) => some (.cancelled b)
  | .cache c => some (.entries c.size)
  | _ => none

/-- An object after a report on it: what a recorder was asked is told once. -/
def reported : Object → Object
  | .recorder r => .recorder { r with asked := [] }
  | o => o

/-- The remarks on the objects of names, one after the other. -/
def remarks (host : Host) : List String → List Remark × Host
  | [] => ([], host)
  | id :: rest =>
    match Entries.get? id host with
    | none => remarks host rest
    | some o =>
      let (more, host) := remarks (host.put id (reported o)) rest
      ((remark? o).toList ++ more, host)

/-- The remarks on the objects that a step names. -/
def report (s : Session) (n : Names) : List Remark × Session :=
  let (found, host) := remarks s.host ([n.sink, n.metadata, n.token, n.cache].filterMap id)
  (found, { s with host := host })

end TypeForward.Session
