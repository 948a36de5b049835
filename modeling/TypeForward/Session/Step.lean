import TypeForward.Session.Report

/-! Steps of a session: objects are made and used by name, and every step reports on the objects that it names. -/
namespace TypeForward.Session

/-- Makes an object unless its making fails. -/
def make (s : Session) (id : String) (made : Except Fault (Object × Answer)) : Outcome × Session :=
  match made with
  | .ok (o, answer) => (.plain (.ok answer), { s with host := s.host.install id o })
  | .error fault => (.plain (.error fault), s)

/-- Uses the cache of a name. Other objects cannot stand in for it. -/
def withCache (s : Session) (id : Option String) (use : String → Cache → Outcome × Session) : Outcome × Session :=
  match id, s.host.named? id with
  | some id, some (.cache c) => use id c
  | _, _ => (.plain (.error .missingAttribute), s)

/-- Uses the sink of a name. Other objects cannot stand in for it. -/
def withSink (s : Session) (id : Option String) (use : String → Sink → Outcome × Session) : Outcome × Session :=
  match id, s.host.named? id with
  | some id, some (.sink sink) => use id sink
  | _, _ => (.plain (.error .missingAttribute), s)

/-- Keeps what became of a sink and of the disk. -/
def keepOutlet (s : Session) (id : String) (o : Outlet) : Session :=
  ⟨s.host.put id (.sink o.sink), o.disk⟩

def keepCache (s : Session) (id : String) (c : Cache) : Session :=
  { s with host := s.host.put id (.cache c) }

def cancel (s : Session) (id : Option String) : Outcome × Session :=
  match id, s.host.named? id with
  | some id, some (.signal (.manual _)) =>
    (.plain (.ok (.value .none)), { s with host := s.host.put id (.signal (.manual true)) })
  | _, _ => (.plain (.error .missingAttribute), s)

def describe (s : Session) (id : Option String) : Value :=
  .text ((s.host.named? id).elim Value.none.printed Object.text)

/-- The text registered under a key in memory. -/
def source (sources : List (String × SourceText)) (key : Value) : Except Fault SourceText :=
  match key.identity, key with
  | .unhashable, _ => .error .wrongType
  | _, .text name => .ok ((Entries.get? name sources).getD (.value .none))
  | _, _ => .ok (.value .none)

/-- What an object has under a key. Only a cache knows thresholds. -/
def entry (o : Option Object) (key : Value) (threshold : Option Value) : Except Fault Answer :=
  match o, threshold with
  | some (.cache c), _ =>
    (c.lookUp key (threshold.getD Availability.defaultThreshold)).map fun found =>
      .value ((found.map .tuple).getD .none)
  | some (.sink (.memory sources)), none => (source sources key).map .text
  | some (.sink (.memory _)), some _ => .error .wrongType
  | _, _ => .error .missingAttribute

/-- Whether a sink in memory has a source of that name. Other objects cannot be searched. -/
def hasSource (o : Option Object) (name : String) : Except Fault Bool :=
  match o with
  | some (.sink (.memory sources)) => .ok ((Sink.memory sources).names.contains name)
  | _ => .error .wrongType

def size (o : Option Object) : Except Fault Nat :=
  (o.bind Object.size?).elim (.error .wrongType) .ok

/-- The cache that a pass uses, if it uses one. An object that is no cache fails as soon as it is used, which a
missing key prevents. -/
def cacheFor (o : Option Object) (key : Value) : Except Fault (Option Cache) :=
  match o, key with
  | none, _ => .ok none
  | some (.cache c), _ => .ok (some c)
  | some _, .none => .error (.configuration .cacheWithoutKey)
  | some _, _ => .error .missingAttribute

/-- The sink that a pass emits to. Without one the first source is refused. -/
def sinkFor : Option Object → Sink
  | some (.sink s) => s
  | _ => .closed

/-- Keeps what a pass made of the cache and the sink, if they are objects of the host. -/
def keep (s : Session) (n : Names) (final : Pass.State Host) : Session :=
  let s := { s with host := final.progress.host, disk := final.outlet.disk }
  let s := match n.cache, final.cache with
    | some id, some c => s.keepCache id c
    | _, _ => s
  match n.sink, s.host.named? n.sink with
  | some id, some (.sink _) => { s with host := s.host.put id (.sink final.outlet.sink) }
  | _, _ => s

/-- A pass over the objects named. The options are built first. -/
def generate (s : Session) (n : Names) (options : List (String × Value)) (signals : Option Signals)
    (key threshold : Value) : Outcome × Session :=
  let ready : Except Fault (Options × Option Cache) := do
    let options ← Options.ofPairs options
    return (options, ← cacheFor (s.host.named? n.cache) key)
  match ready with
  | .error fault => (⟨.error fault, signals.map fun _ => [], []⟩, s)
  | .ok (options, cache) =>
    let pass : Pass Host :=
      { metadata := .named n.metadata
        token := .named n.token
        options := options
        selector := (signals.map Signals.selector).getD Selection.byLists
        threshold := threshold
        key := key }
    let (made, final) := pass.run ⟨⟨s.host, []⟩, cache, ⟨sinkFor (s.host.named? n.sink), s.disk⟩, []⟩
    (⟨made.map .artifacts, signals.map fun _ => final.asked, final.progress.log⟩, s.keep n final)

def perform (s : Session) (n : Names) : Action → Outcome × Session
  | .makeSignal id signal => s.make id (.ok (.signal signal, .done))
  | .makeLibrary id version types =>
    s.make id ((CoreLibrary.build version types).map fun c => (.library c, .library c))
  | .makeLibraryOf id version names =>
    s.make id ((CoreLibrary.ofNames version names).map fun c => (.library c, .library c))
  | .makeRecorder id version types watch =>
    let watch := watch.bind fun (name, target) => (s.host.target? target).map (Recorder.Watch.mk name)
    s.make id (.ok (.recorder ⟨version, types, [], watch⟩, .done))
  | .makeCache id => s.make id (.ok (.cache .empty, .done))
  | .makeSink id sink => s.make id (.ok (.sink sink, .done))
  | .cancel => s.cancel n.token
  | .poll =>
    let (stop, host) := (Token.named n.token).poll s.host
    (.plain (stop.map fun b => .value (.bool b)), { s with host := host })
  | .describe => (.plain (.ok (.value (s.describe n.token))), s)
  | .atLeast threshold =>
    let (answer, host) := (Metadata.named n.metadata).atLeast threshold s.host
    (.plain (answer.map fun b => .value (.bool b)), { s with host := host })
  | .defines name =>
    let (answer, host) := (Metadata.named n.metadata).defines name s.host
    (.plain (answer.map fun b => .value (.bool b)), { s with host := host })
  | .resolve threshold candidates =>
    let (names, progress) := Availability.resolve (.named n.metadata) (.named n.token) threshold candidates
      ⟨s.host, []⟩
    (.ofNames names progress.log, { s with host := progress.host })
  | .lookUp key threshold => (.plain (entry (s.host.named? n.cache) key threshold), s)
  | .cacheSet key threshold result => s.withCache n.cache fun id c =>
    match c.store key threshold result with
    | .ok c => (.plain (.ok (.value .none)), s.keepCache id c)
    | .error fault => (.plain (.error fault), s)
  | .cacheClear => s.withCache n.cache fun id _ => (.plain (.ok (.value .none)), s.keepCache id .empty)
  | .cacheSize => (.plain ((size (s.host.named? n.cache)).map fun count => .value (.int count)), s)
  | .cacheResolve key threshold => s.withCache n.cache fun id c =>
    let (names, c, progress) := c.getOrResolve key threshold (.named n.metadata) (.named n.token) ⟨s.host, []⟩
    (.ofNames names progress.log, keepCache { s with host := progress.host } id c)
  | .add name text => s.withSink n.sink fun id sink =>
    match Outlet.add ⟨sink, s.disk⟩ name text with
    | (.ok log, o) => (⟨.ok (.value .none), none, log⟩, s.keepOutlet id o)
    | (.error fault, o) => (.plain (.error fault), s.keepOutlet id o)
  | .source name => (.plain (entry (s.host.named? n.sink) (.text name) none), s)
  | .contains name => (.plain ((hasSource (s.host.named? n.sink) name).map fun b => .value (.bool b)), s)
  | .size => (.plain ((size (s.host.named? n.sink)).map fun count => .value (.int count)), s)
  | .emit name => s.withSink n.sink fun id sink =>
    match Outlet.emit ⟨sink, s.disk⟩ name with
    | (.ok (artifact, log), o) => (⟨.ok (.artifact artifact), none, log⟩, s.keepOutlet id o)
    | (.error fault, o) => (.plain (.error fault), s.keepOutlet id o)
  | .files => (.plain (s.disk.texts.map .files), s)
  | .generate options signals key threshold => s.generate n options signals key threshold

/-- What a step came to, what is reported after it, and the session from there. -/
def step (s : Session) (n : Names) (a : Action) : Outcome × List Remark × Session :=
  let (outcome, s) := s.perform n a
  let (remarks, s) := s.report n
  (outcome, remarks, s)

end TypeForward.Session
