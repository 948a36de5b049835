import TypeForward.Proofs.Cache.Slots
import TypeForward.Proofs.Disk.Confinement
import TypeForward.Proofs.Pass.Cancellation

/-! What a sink below a root can do to a disk, for any name and any text, and for a pass over any names: a name that is
not plain is refused before anything is touched, and nothing happens but where the root and the name lead. -/
namespace TypeForward

/-- The names that are not plain, in full. -/
theorem Sink.isPlainName_eq_false {name : String} :
    Sink.isPlainName name = false ↔
      name = "" ∨ name = "." ∨ name = ".." ∨ '/' ∈ name.toList ∨ '\\' ∈ name.toList := by
  have spelled (other : String) : name.toList = other.toList ↔ name = other := String.toList_inj
  have empty := spelled ""
  have point := spelled "."
  have points := spelled ".."
  simp only [String.reduceToList] at empty point points
  simp only [Sink.isPlainName, Bool.and_eq_false_iff, bne_eq_false_iff_eq, empty, point, points, Bool.not_eq_false',
    List.contains_iff_mem, or_assoc]

namespace Disk

variable {d : Disk} (cause : Conflict)

/-! No fault of a disk is a conflict of names. -/

private theorem makeAt_no_conflict (l : Location) (n : Node) (name : String) :
    (d.makeAt l n name).1 ≠ .error (.conflict cause) := by
  cases n with
  | file content => simp [makeAt]
  | directory =>
    rw [makeAt]
    split
    · simp
    · split <;> simp
    · simp
    · simp

private theorem makeReversed_no_conflict (start : Location) (reversed : List String) :
    (d.makeReversed start reversed).1 ≠ .error (.conflict cause) := by
  induction reversed with
  | nil => simp [makeReversed]
  | cons name ancestors ih =>
    rw [makeReversed]
    split
    · exact makeAt_no_conflict cause _ _ _
    · split
      · next failed =>
        rw [failed] at ih
        exact ih
      · exact makeAt_no_conflict cause _ _ _
    · next obstacle _ _ => cases obstacle <;> simp [Obstacle.fault]

theorem makeDirectories_no_conflict (p : FilePath) : (d.makeDirectories p).1 ≠ .error (.conflict cause) := by
  rw [makeDirectories]
  split
  · simp
  · split
    · simp
    · exact makeReversed_no_conflict cause _ _

private theorem entry_no_conflict (root : FilePath) (l : Location) (name : String) :
    d.entry root l name ≠ .error (.conflict cause) := by
  unfold entry
  split
  · simp
  · split
    · simp
    · rcases d.look l name with (_ | _ | _ | _) | result
      all_goals
        intro conflict
        cases conflict

theorem openIn_no_conflict (root : FilePath) (name : String) :
    (d.openIn root name).1 ≠ .error (.conflict cause) := by
  have unmade := makeDirectories_no_conflict (d := d) cause root
  rcases made : d.makeDirectories root with ⟨fault | l, d'⟩
  · rw [made] at unmade
    rw [openIn, entryIn, made]
    exact unmade
  · have unopened := entry_no_conflict (d := d') cause root l name
    simp only [openIn, entryIn, made]
    rcases opened : d'.entry root l name with fault | ⟨place, _ | _ | content⟩
    · rw [opened] at unopened
      intro conflict
      exact unopened (congrArg Except.error (Except.error.inj conflict))
    · simp
    · simp
    · simp

end Disk

/-- The plain ones among the hint names of types that can be written. -/
def plainHintNames (names : List Value) : List String :=
  ((names.filter Value.isPrintable).map Artifact.hintNameOf).filter Sink.isPlainName

private theorem plainHintNames_mono {names names' : List Value} (sub : names ⊆ names') :
    plainHintNames names ⊆ plainHintNames names' := by
  intro name mem
  obtain ⟨mem, plain⟩ := List.mem_filter.mp mem
  obtain ⟨v, kept, rfl⟩ := List.mem_map.mp mem
  obtain ⟨mem, printable⟩ := List.mem_filter.mp kept
  exact List.mem_filter.mpr ⟨List.mem_map_of_mem (List.mem_filter.mpr ⟨sub mem, printable⟩), plain⟩

/-- A text that has no octets is no conflict of names. -/
private theorem SourceText.octets_no_conflict (text : SourceText) (cause : Conflict) :
    text.octets ≠ .error (.conflict cause) := by
  unfold octets
  split <;> simp

namespace Outlet
open Disk

variable {root : FilePath} {written : List String} {disk : Disk} {name : String} {text : SourceText}

/-- Writing a source makes the directories of the root. Then the file cannot be opened, or it is written, or it is left
empty for want of octets. -/
theorem write_cases (root : FilePath) (written : List String) (disk : Disk) (name : String) (text : SourceText) :
    (∃ fault, (disk.openIn root name).1 = .error fault ∧ write root written disk name text =
      (.error fault, ⟨.directory root written, (disk.makeDirectories root).2⟩)) ∨
    ∃ l place d, disk.makeDirectories root = (.ok l, d) ∧ d.Opens root l name place ∧
      ((∃ content, text.octets = .ok content ∧ write root written disk name text =
        (.ok [.wrote (root.child name).text], ⟨.directory root (written ++ [name]), d.put place (.file content)⟩)) ∨
      ∃ fault, text.octets = .error fault ∧ write root written disk name text =
        (.error fault, ⟨.directory root written, d.put place (.file [])⟩)) := by
  rcases openIn_cases disk root name with ⟨⟨fault, failed⟩, same⟩ | ⟨l, place, d, made, opens, opened⟩
  · have whole : disk.openIn root name = (.error fault, (disk.makeDirectories root).2) := Prod.ext failed same
    exact .inl ⟨fault, failed, by rw [write, whole]⟩
  · refine .inr ⟨l, place, d, made, opens, ?_⟩
    cases octets : text.octets with
    | ok content => exact .inl ⟨content, rfl, by simp only [write, opened, octets]⟩
    | error fault => exact .inr ⟨fault, rfl, by simp only [write, opened, octets]⟩

theorem write_no_conflict (cause : Conflict) :
    (write root written disk name text).1 ≠ .error (.conflict cause) := by
  intro conflict
  rcases write_cases root written disk name text with
    ⟨fault, failed, same⟩ | ⟨l, place, d, -, -, ⟨content, -, same⟩ | ⟨fault, octets, same⟩⟩
  · rw [same] at conflict
    exact openIn_no_conflict cause root name (failed.trans (congrArg Except.error (Except.error.inj conflict)))
  · rw [same] at conflict
    cases conflict
  · rw [same] at conflict
    exact text.octets_no_conflict cause (octets.trans (congrArg Except.error (Except.error.inj conflict)))

/-- Whatever becomes of it, writing a source changes nothing but the file where its name leads and the directories on
the way to the root. -/
theorem write_confined : Confined root [name] disk (write root written disk name text).2.disk := by
  have start := Confined.of_made (makeDirectories_made disk root) [name]
  rcases write_cases root written disk name text with ⟨fault, -, same⟩ | ⟨l, place, d, made, opens, wrote⟩
  · rw [same]
    exact start
  · have file (content : List UInt8) : Confined root [name] disk (d.put place (.file content)) := by
      rw [made] at start
      exact start.trans (.put opens.leads opens.lead opens.free content)
    rcases wrote with ⟨content, -, same⟩ | ⟨fault, -, same⟩
    · rw [same]
      exact file _
    · rw [same]
      exact file _

private theorem write_sink : ∃ written', (write root written disk name text).2.sink = .directory root written' := by
  rcases write_cases root written disk name text with
    ⟨fault, -, same⟩ | ⟨l, place, d, -, -, ⟨content, -, same⟩ | ⟨fault, -, same⟩⟩
  all_goals
    rw [same]
    exact ⟨_, rfl⟩

/-- A source below a root is refused, because its name is taken or not plain, or it is written. -/
theorem add_cases (root : FilePath) (written : List String) (disk : Disk) (name : String) (text : SourceText) :
    let o : Outlet := ⟨.directory root written, disk⟩
    (name ∈ written ∧ o.add name text = (.error (.conflict (.alreadyAdded name)), o)) ∨
      (Sink.isPlainName name = false ∧ o.add name text = (.error (.conflict (.notPlain name)), o)) ∨
      (name ∉ written ∧ Sink.isPlainName name = true ∧ o.add name text = write root written disk name text) := by
  intro o
  by_cases taken : name ∈ written
  · exact .inl ⟨taken, by simp [o, add, Sink.names, taken]⟩
  · right
    cases plain : Sink.isPlainName name with
    | false => exact .inl ⟨rfl, by simp [o, add, Sink.names, taken, plain]⟩
    | true => exact .inr ⟨taken, rfl, by simp [o, add, Sink.names, taken, plain]⟩

/-- A conflict leaves all as it is. -/
theorem add_of_conflict {cause : Conflict}
    (conflict : ((⟨.directory root written, disk⟩ : Outlet).add name text).1 = .error (.conflict cause)) :
    ((⟨.directory root written, disk⟩ : Outlet).add name text).2 = ⟨.directory root written, disk⟩ := by
  rcases add_cases root written disk name text with ⟨-, same⟩ | ⟨-, same⟩ | ⟨-, -, same⟩
  · rw [same]
  · rw [same]
  · rw [same] at conflict
    exact absurd conflict (write_no_conflict cause)

private theorem add_conflict_iff (fresh : name ∉ written) :
    (∃ cause, ((⟨.directory root written, disk⟩ : Outlet).add name text).1 = .error (.conflict cause)) ↔
      Sink.isPlainName name = false := by
  rcases add_cases root written disk name text with ⟨taken, -⟩ | ⟨climbs, same⟩ | ⟨-, plain, same⟩
  · exact absurd taken fresh
  · rw [same]
    exact ⟨fun _ => climbs, fun _ => ⟨_, rfl⟩⟩
  · rw [same, plain]
    constructor
    · rintro ⟨cause, conflict⟩
      exact absurd conflict (write_no_conflict cause)
    · simp

theorem add_confined : Confined root ([name].filter Sink.isPlainName) disk
    ((⟨.directory root written, disk⟩ : Outlet).add name text).2.disk := by
  rcases add_cases root written disk name text with ⟨-, same⟩ | ⟨-, same⟩ | ⟨-, plain, same⟩
  · rw [same]
    exact .refl root _ disk
  · rw [same]
    exact .refl root _ disk
  · rw [same, List.filter_cons_of_pos plain]
    exact write_confined

private theorem add_sink : ∃ written',
    ((⟨.directory root written, disk⟩ : Outlet).add name text).2.sink = .directory root written' := by
  rcases add_cases root written disk name text with ⟨-, same⟩ | ⟨-, same⟩ | ⟨-, -, same⟩
  · exact ⟨written, by rw [same]⟩
  · exact ⟨written, by rw [same]⟩
  · rw [same]
    exact write_sink

/-- The forward of a type is registered under its hint name. -/
private theorem emit_outlet {name : Value} (printable : name.isPrintable = true) (o : Outlet) :
    (o.emit name).2 = (o.add (Artifact.hintNameOf name) (.text (Artifact.sourceTextOf name))).2 := by
  rw [emit, Artifact.render_of_isPrintable printable]
  dsimp only
  rw [Artifact.forName_hintName, Artifact.forName_sourceText]
  rcases o.add (Artifact.hintNameOf name) (.text (Artifact.sourceTextOf name)) with ⟨fault | events, o'⟩ <;> rfl

theorem emit_confined {o : Outlet} (start : o.sink = .directory root written) (name : Value) :
    Confined root (plainHintNames [name]) o.disk (o.emit name).2.disk ∧
      ∃ written', (o.emit name).2.sink = .directory root written' := by
  obtain ⟨sink, disk⟩ := o
  obtain rfl : sink = .directory root written := start
  cases printable : name.isPrintable with
  | false =>
    rw [emit_of_not_isPrintable printable]
    exact ⟨.refl root _ disk, written, rfl⟩
  | true =>
    rw [emit_outlet printable, plainHintNames, List.filter_cons_of_pos printable]
    exact ⟨add_confined, add_sink⟩

end Outlet

namespace Pass
open Disk

/-- The emission of names to a sink below a root, whether it comes to its end or not. -/
theorem Emitted.confined {chosen : List Value} {o outlet : Outlet} {seen : Record} {result : Except Fault Emission}
    (emitted : Emitted chosen o seen result outlet) {root : FilePath} {written : List String}
    (start : o.sink = .directory root written) : Confined root (plainHintNames chosen) o.disk outlet.disk := by
  induction emitted generalizing written with
  | done o | unpolled _ _ o | stopped _ _ o => exact .refl root _ o.disk
  | @refused name rest _ _ _ he =>
    have first := Outlet.emit_confined start name
    rw [he] at first
    exact first.1.mono (plainHintNames_mono (List.cons_subset_cons _ (List.nil_subset rest)))
  | @added name rest _ _ _ _ _ _ _ he _ ih =>
    have first := Outlet.emit_confined start name
    rw [he] at first
    obtain ⟨confined, written', start'⟩ := first
    exact (confined.mono (plainHintNames_mono (List.cons_subset_cons _ (List.nil_subset rest)))).trans
      ((ih start').mono (plainHintNames_mono (List.subset_cons_self name rest)))

/-- A pass on a sink below a root, whatever names its cache or its compilation gives it. -/
theorem run_confined {σ : Type} (p : Pass σ) {s : State σ} {root : FilePath} {written : List String}
    (start : s.outlet.sink = .directory root written) :
    Confined root (plainHintNames (p.chosen s)) s.outlet.disk (p.run s).2.outlet.disk := by
  have ran := (p.run_observed s).2.2
  generalize p.observations s = seen, (p.run s).1 = result, (p.run s).2.cache = cache,
    (p.run s).2.outlet = outlet, (p.run s).2.asked = asked at ran
  cases ran with
  | unpaired | unavailable | unselected => exact .refl root _ s.outlet.disk
  | emitted _ available _ select emitted =>
    rw [chosen_of_select available select]
    exact emitted.confined start

end Pass

namespace Outlet
open Disk

/-- A sink below a root, on any disk and whatever was registered before. A new name is refused as a conflict exactly if
it is not plain, and a conflict leaves the sink and the disk as they are. In any case, for any text, and for a pass over
any names: files change or are made only where plain names that were given lead from the root, and directories are made
only where a front part of the root's path leads. A name that is no link leads to the place right below the root that
has this name. -/
theorem directory_confined (root : FilePath) (written : List String) (disk : Disk) :
    let o : Outlet := ⟨.directory root written, disk⟩
    (∀ name text,
      (name ∉ written → ((∃ cause, (o.add name text).1 = .error (.conflict cause)) ↔
        name = "" ∨ name = "." ∨ name = ".." ∨ '/' ∈ name.toList ∨ '\\' ∈ name.toList)) ∧
      (∀ cause, (o.add name text).1 = .error (.conflict cause) → (o.add name text).2 = o) ∧
      Confined root ([name].filter Sink.isPlainName) disk (o.add name text).2.disk) ∧
    (∀ (σ : Type) (p : Pass σ) (s : Pass.State σ), s.outlet = o →
      Confined root (plainHintNames (p.chosen s)) disk (p.run s).2.outlet.disk) ∧
    ∀ (d' : Disk) (names : List String), Confined root names disk d' → ∀ (l place : Location) (name : String),
      Entries.get? (l.child name) disk.links = none → d'.lead (l.child name) = .ok place → place = l.child name := by
  intro o
  refine ⟨?_, ?_, ?_⟩
  · intro name text
    refine ⟨?_, fun cause => add_of_conflict, add_confined⟩
    intro fresh
    exact (add_conflict_iff fresh).trans Sink.isPlainName_eq_false
  · intro σ p s start
    have below : s.outlet.sink = .directory root written := by rw [start]
    have confined := p.run_confined below
    rwa [start] at confined
  · intro d' names confined l place name unlinked leads
    have own := lead_of_unlinked (d := d') (by rw [confined.links]; exact unlinked)
    exact (Except.ok.inj (own.symm.trans leads)).symm

/-- A cache gives a pass a name that leads out of the root after one that does not: the file of the first is all that is
written. A call by hand is refused such a name as well, while points alone do no harm. -/
theorem directory_confined_climbing :
    let root : FilePath := ⟨.here, ["out", "gen"]⟩
    let o : Outlet := ⟨.directory root [], .fresh⟩
    let cache : Cache := ⟨[(Cache.label (.text "corlib") (.int 800),
      [.text "System.Index", .text "../../System.Range"])]⟩
    let c : CoreLibrary := ⟨.csharp8, []⟩
    let p : Pass Unit := ⟨c.metadata, .never, ⟨false, true, [], []⟩, Selection.byLists, .int 800, .text "corlib"⟩
    let s : Pass.State Unit := ⟨⟨(), []⟩, some cache, o, []⟩
    ((∃ cause, (o.add "../x" (.text "")).1 = .error (.conflict cause)) ∧ (o.add "../x" (.text "")).2 = o) ∧
      (¬ ∃ cause, (o.add "..x" (.value .none)).1 = .error (.conflict cause)) ∧
      Confined root ["System.Index.g.cs"] .fresh (p.run s).2.outlet.disk ∧
      (p.run s).2.outlet.disk.nodes.map (·.1.names) = [[FilePath.homeSign, "out"], [FilePath.homeSign, "out", "gen"],
        [FilePath.homeSign, "out", "gen", "System.Index.g.cs"]] := by
  intro root o cache c p s
  obtain ⟨calls, passes, -⟩ := directory_confined root [] .fresh
  have climbs : ∃ cause, (o.add "../x" (.text "")).1 = .error (.conflict cause) :=
    ((calls "../x" (.text "")).1 List.not_mem_nil).mpr (by decide)
  have plain : ¬ ∃ cause, (o.add "..x" (.value .none)).1 = .error (.conflict cause) :=
    mt ((calls "..x" (.value .none)).1 List.not_mem_nil).mp (by decide)
  obtain ⟨cause, conflict⟩ := climbs
  have names : plainHintNames (p.chosen s) = ["System.Index.g.cs"] := by decide +kernel
  exact ⟨⟨⟨cause, conflict⟩, (calls _ _).2.1 cause conflict⟩, plain, names ▸ passes Unit p s rfl, by decide +kernel⟩

/-- Of the names in a directory `out` one is a link to a file next to it. -/
def linkedOut : Disk :=
  let out := Disk.fresh.here.child "out"
  let notes := Disk.fresh.here.child "notes"
  ⟨Disk.fresh.here, [(out, .directory), (notes, .file [1])], [(out.child "x", some notes)]⟩

/-- A file outside the root is written over where the name is a link to it. And where the path of the root leads through
a directory and out of it again, this is made although the root is there and lies above it. -/
theorem unconfined_of_linked :
    (let out := Disk.fresh.here.child "out"
      let notes := Disk.fresh.here.child "notes"
      let o : Outlet := ⟨.directory ⟨.here, ["out"]⟩ [], linkedOut⟩
      linkedOut.LeadsTo ⟨.here, ["out"]⟩ out ∧ (∀ name, notes ≠ out.child name) ∧
        linkedOut.node? notes = some (.file [1]) ∧
        (o.add "x" (.text "t")).2.disk.node? notes = some (.file (Text.Utf8.encode "t"))) ∧
    let root : FilePath := ⟨.here, ["a", ".."]⟩
    let disk := ((⟨.directory root [], .fresh⟩ : Outlet).add "x" (.text "t")).2.disk
    disk.LeadsTo root disk.here ∧ disk.here = Disk.fresh.here ∧
      Disk.fresh.node? (disk.here.child "a") = none ∧ disk.node? (disk.here.child "a") = some .directory := by
  refine ⟨⟨⟨by decide, by decide, by rfl⟩, ?_, by rfl, by rfl⟩, ⟨by decide, by decide, by rfl⟩, by rfl, by rfl, by rfl⟩
  intro name same
  cases congrArg Location.depth same

end Outlet

end TypeForward
