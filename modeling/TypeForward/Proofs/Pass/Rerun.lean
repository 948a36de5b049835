import TypeForward.Proofs.Disk.Rewriting
import TypeForward.Proofs.Sink.Confinement

/-! The same pass once more, on the disk that it left and with a fresh sink. It writes the same files again, which
changes nothing; and of what was there before the first pass nothing was changed but the files of its artifacts. -/
namespace TypeForward
variable {σ : Type}
open Record

namespace Disk

/-- The place of a file below a directory, by its name. -/
def spot (d : Disk) (l : Location) (name : String) : Location :=
  (d.lead (l.child name)).toOption.getD l

/-- The file of a type below a directory, with the text of its forward. -/
def fileOf (d : Disk) (l : Location) (name : Value) : Location × List UInt8 :=
  (d.spot l (Artifact.hintNameOf name), Text.Utf8.encode (Artifact.sourceTextOf name))

/-- The forward of a type can be written to its file below a root. -/
structure Takes (d : Disk) (root : FilePath) (l : Location) (name : Value) : Prop where
  printable : name.isPrintable = true
  plain : Sink.isPlainName (Artifact.hintNameOf name) = true
  opens : d.Opens root l (Artifact.hintNameOf name) (d.fileOf l name).1

variable {d d' : Disk} {root : FilePath} {l place : Location} {name : Value}

private theorem spot_eq {hint : String} (leads : d.lead (l.child hint) = .ok place) : d.spot l hint = place := by
  rw [spot, leads]
  rfl

/-- The file stays where it is as long as all directories do. -/
private theorem Takes.fileOf_eq (takes : d.Takes root l name) (keeps : d.Keeps d') :
    d'.fileOf l name = d.fileOf l name :=
  Prod.ext (spot_eq (keeps.lead takes.opens.lead)) rfl

theorem Takes.of_keeps (takes : d.Takes root l name) (keeps : d.Keeps d')
    (free : d'.node? (d.fileOf l name).1 ≠ some .directory) : d'.Takes root l name := by
  refine ⟨takes.printable, takes.plain, ?_⟩
  rw [takes.fileOf_eq keeps]
  exact takes.opens.of_keeps keeps free

end Disk

namespace Outlet
open Disk

variable {root : FilePath} {written : List String} {disk : Disk} {name : Value} {l : Location}

/-- A forward that is registered below a root had a new name, and its text is written where the name leads. -/
private theorem emit_directory_ok {artifact : Artifact} {events : List Event} {o : Outlet}
    (h : (⟨.directory root written, disk⟩ : Outlet).emit name = (.ok (artifact, events), o)) :
    artifact = Artifact.forName name ∧ Artifact.hintNameOf name ∉ written ∧
      ∃ l d, disk.makeDirectories root = (.ok l, d) ∧ d.Takes root l name ∧
        o = ⟨.directory root (written ++ [Artifact.hintNameOf name]),
          d.put (d.fileOf l name).1 (.file (d.fileOf l name).2)⟩ := by
  obtain ⟨printable, rfl, before, added, -⟩ := emit_ok h
  rw [Artifact.forName_hintName, Artifact.forName_sourceText] at added
  rcases add_cases root written disk (Artifact.hintNameOf name) (.text (Artifact.sourceTextOf name)) with
    ⟨-, same⟩ | ⟨-, same⟩ | ⟨fresh, plain, same⟩
  · cases same.symm.trans added
  · cases same.symm.trans added
  · rw [same] at added
    rcases write_cases root written disk (Artifact.hintNameOf name) (.text (Artifact.sourceTextOf name)) with
      ⟨fault, -, wrote⟩ | ⟨l, place, d, made, opens, ⟨content, octets, wrote⟩ | ⟨fault, -, wrote⟩⟩
    · cases wrote.symm.trans added
    · cases wrote.symm.trans added
      rw [SourceText.octets_text] at octets
      have file : d.fileOf l name = (place, content) := by rw [fileOf, spot_eq opens.lead, Except.ok.inj octets]
      exact ⟨rfl, fresh, l, d, made, ⟨printable, plain, by rw [file]; exact opens⟩, by rw [file]⟩
    · cases wrote.symm.trans added

/-- A forward with a new name that can be written is written. -/
private theorem emit_of_takes (fresh : Artifact.hintNameOf name ∉ written) (takes : disk.Takes root l name) :
    ∃ events, (⟨.directory root written, disk⟩ : Outlet).emit name = (.ok (Artifact.forName name, events),
      ⟨.directory root (written ++ [Artifact.hintNameOf name]),
        disk.put (disk.fileOf l name).1 (.file (disk.fileOf l name).2)⟩) := by
  rcases add_cases root written disk (Artifact.hintNameOf name) (.text (Artifact.sourceTextOf name)) with
    ⟨taken, -⟩ | ⟨climbs, -⟩ | ⟨-, -, same⟩
  · exact absurd taken fresh
  · cases climbs.symm.trans takes.plain
  · have wrote : write root written disk (Artifact.hintNameOf name) (.text (Artifact.sourceTextOf name)) =
        (.ok [.wrote (root.child (Artifact.hintNameOf name)).text],
          ⟨.directory root (written ++ [Artifact.hintNameOf name]),
            disk.put (disk.fileOf l name).1 (.file (disk.fileOf l name).2)⟩) := by
      rw [write, takes.opens.openIn]
      simp only [SourceText.octets_text, fileOf]
    rw [emit, Artifact.render_of_isPrintable takes.printable]
    simp only [Artifact.forName_hintName, Artifact.forName_sourceText, same, wrote]
    exact ⟨_, rfl⟩

end Outlet

namespace Cache

variable {c c' : Cache} {key threshold : Value} {names : List Value}

/-- What an insertion stored is found again, unless it is kept under something that equals nothing. -/
private theorem lookUp_of_insert (h : c.insert key threshold names = .ok c') :
    c'.lookUp key threshold = .ok (some names) ∨ c'.lookUp key threshold = .ok none := by
  rw [insert] at h
  rw [lookUp]
  cases hs : slot key threshold with
  | unhashable => rw [hs] at h; cases h
  | unique => exact .inr rfl
  | key k =>
    rw [hs] at h
    obtain rfl := Except.ok.inj h
    exact .inl (congrArg Except.ok (Entries.get?_put_self (some k) names c.entries))

private theorem Obtained.of_hit {seen : Record} {result : Except Fault (List Value)}
    (obtained : c.Obtained key threshold seen result c') (hit : c.lookUp key threshold = .ok (some names)) :
    result = .ok names := by
  cases obtained with
  | hit stored =>
    cases hit.symm.trans stored
    rfl
  | refused h | failed h | unpolled _ h | dropped h | stored h => cases hit.symm.trans h

end Cache

namespace Pass

variable {p : Pass σ} {s s' : State σ}

/-- A cache stays one. -/
theorem Found.isPaired {cache : Option Cache} {seen : Record} {result : Except Fault (List Value)}
    (found : p.Found s.cache seen result cache) (carried : s'.cache = cache) : p.isPaired s' = p.isPaired s := by
  unfold Pass.isPaired
  rw [carried]
  generalize s.cache = before at found
  cases found with
  | resolved | cached => rfl

/-- With the cache that a request leaves the same is available again, if the same is reported. -/
theorem Found.again {cache cache' cache'' : Option Cache} {seen other : Record} {names : List Value}
    {result : Except Fault (List Value)} (found : p.Found cache seen (.ok names) cache')
    (found' : p.Found cache' other result cache'') (quiet : Quiet seen) (quiet' : Quiet other)
    (same : Concordant seen other) : result = .ok names := by
  cases found with
  | resolved resolved =>
    cases found' with
    | resolved resolved' => exact (resolved.unique resolved' quiet quiet' same).symm
  | cached obtained =>
    cases found' with
    | cached obtained' =>
      cases obtained with
      | hit stored => exact obtained'.of_hit stored
      | dropped => cases quiet _ (List.mem_append_right _ List.mem_cons_self)
      | stored _ resolved inserted =>
        rcases Cache.lookUp_of_insert inserted with hit | missed
        · exact obtained'.of_hit hit
        · obtain ⟨before, sub, resolved'⟩ := obtained'.of_miss missed quiet'
          exact (resolved.unique resolved' (quiet_append.mp quiet).1 (quiet'.mono sub)
            (same.mono (List.subset_append_left _ _) sub)).symm

/-- An emission below a root that is there, if it succeeds and nobody stops it: all forwards are made, under different
names, and each is written to its file in its turn. -/
private theorem Emitted.rewrites {chosen : List Value} {o outlet : Outlet} {seen : Record}
    {result : Except Fault Emission} (emitted : Emitted chosen o seen result outlet) {root : FilePath} {l : Location}
    {written : List String} {d : Disk} (start : o = ⟨.directory root written, d⟩) (leads : d.LeadsTo root l)
    (quiet : Quiet seen) (distinct : written.Nodup) {e : Emission} (h : result = .ok e) :
    e.made = chosen.map Artifact.forName ∧ (written ++ chosen.map Artifact.hintNameOf).Nodup ∧
      outlet.sink = .directory root (written ++ chosen.map Artifact.hintNameOf) ∧ d.Keeps outlet.disk ∧
      (∀ name ∈ chosen, outlet.disk.Takes root l name ∧ d.node? (outlet.disk.fileOf l name).1 ≠ some .directory) ∧
      outlet.disk = d.writeAll (chosen.map (outlet.disk.fileOf l)) := by
  induction emitted generalizing written d e with
  | unpolled | refused => cases h
  | stopped => cases quiet.head
  | done =>
    cases h
    subst start
    exact ⟨rfl, by simpa using distinct, by simp, .refl d, by simp, rfl⟩
  | @added name rest _ _ _ _ _ _ _ he emitted ih =>
    subst start
    obtain ⟨rfl, fresh, l', d', made, takes, rfl⟩ := Outlet.emit_directory_ok he
    obtain ⟨rfl, rfl⟩ : l = l' ∧ d = d' := by
      cases leads.makeDirectories.symm.trans made
      exact ⟨rfl, rfl⟩
    obtain ⟨e', rfl, rfl⟩ := ok_of_map h
    have distinct₁ : (written ++ [Artifact.hintNameOf name]).Nodup := by
      refine List.nodup_append.mpr ⟨distinct, by simp, ?_⟩
      rintro _ mem last new rfl
      obtain rfl := List.mem_singleton.mp new
      exact fresh mem
    have first : d.Keeps (d.put (d.fileOf l name).1 (.file (d.fileOf l name).2)) := .put (.inl takes.opens.free)
    obtain ⟨all, distinct', sink, keeps, later, after⟩ := ih rfl (leads.of_keeps first) quiet.tail distinct₁ rfl
    have whole : written ++ [Artifact.hintNameOf name] ++ rest.map Artifact.hintNameOf =
        written ++ (name :: rest).map Artifact.hintNameOf := by simp
    rw [whole] at distinct' sink
    have keeps' := first.trans keeps
    have own := takes.fileOf_eq keeps'
    have free {place : Location} (free : d.node? place ≠ some .directory) :
        (d.put (d.fileOf l name).1 (.file (d.fileOf l name).2)).node? place ≠ some .directory :=
      Disk.node?_put_file_ne free
    refine ⟨congrArg (Artifact.forName name :: ·) all, distinct', sink, keeps', ?_, ?_⟩
    · intro other mem
      rcases List.mem_cons.mp mem with rfl | mem
      · refine ⟨takes.of_keeps keeps' ?_, own ▸ takes.opens.free⟩
        rw [after]
        exact Disk.node?_writeAll_ne (free takes.opens.free) _
      · exact ⟨(later other mem).1, fun there => (later other mem).2 (first.directories _ there)⟩
    · rw [List.map_cons, own, Disk.writeAll_cons]
      exact after

/-- An emission that succeeds has made the root, or there was nothing to emit. -/
private theorem Emitted.rooted {chosen : List Value} {o outlet : Outlet} {seen : Record} {e : Emission}
    (emitted : Emitted chosen o seen (.ok e) outlet) {root : FilePath} {written : List String} {d : Disk}
    (start : o = ⟨.directory root written, d⟩) (quiet : Quiet seen) :
    (chosen = [] ∧ outlet = o) ∨
      ∃ l d', d.makeDirectories root = (.ok l, d') ∧
        Emitted chosen ⟨.directory root written, d'⟩ seen (.ok e) outlet := by
  generalize h : Except.ok e = result at emitted
  cases emitted with
  | unpolled | refused => cases h
  | stopped => cases quiet.head
  | done => exact .inl ⟨rfl, rfl⟩
  | @added name rest _ _ _ _ _ _ _ he emitted =>
    subst start
    obtain ⟨rfl, fresh, l, d', made, takes, rfl⟩ := Outlet.emit_directory_ok he
    obtain ⟨events, again⟩ := Outlet.emit_of_takes fresh takes
    exact .inr ⟨l, d', made, .added again emitted⟩

/-- An emission of forwards that can all be written below the root, with a sink that has none of their names, makes
them all if nobody stops it. -/
theorem Emitted.succeeds {chosen : List Value} {o outlet : Outlet} {seen : Record} {result : Except Fault Emission}
    (emitted : Emitted chosen o seen result outlet) {root : FilePath} {l : Location} {written : List String} {d : Disk}
    (start : o = ⟨.directory root written, d⟩) (quiet : Quiet seen)
    (distinct : (written ++ chosen.map Artifact.hintNameOf).Nodup) (takes : ∀ name ∈ chosen, d.Takes root l name) :
    result = .ok ⟨chosen.map Artifact.forName, false⟩ := by
  have step (name : Value) (rest : List Value) {written : List String} {d : Disk}
      (distinct : (written ++ (name :: rest).map Artifact.hintNameOf).Nodup) (takes : d.Takes root l name) :
      ∃ events, (⟨.directory root written, d⟩ : Outlet).emit name = (.ok (Artifact.forName name, events),
        ⟨.directory root (written ++ [Artifact.hintNameOf name]),
          d.put (d.fileOf l name).1 (.file (d.fileOf l name).2)⟩) := by
    apply Outlet.emit_of_takes ?_ takes
    intro taken
    exact (List.nodup_append.mp distinct).2.2 _ taken _ List.mem_cons_self rfl
  induction emitted generalizing written d with
  | unpolled | stopped => cases quiet.head
  | done => rfl
  | @refused name rest _ _ _ he =>
    subst start
    obtain ⟨events, made⟩ := step name rest distinct (takes name List.mem_cons_self)
    cases he.symm.trans made
  | @added name rest _ _ _ _ _ _ _ he _ ih =>
    subst start
    have own := takes name List.mem_cons_self
    obtain ⟨events, made⟩ := step name rest distinct own
    cases he.symm.trans made
    have whole : written ++ (name :: rest).map Artifact.hintNameOf =
        written ++ [Artifact.hintNameOf name] ++ rest.map Artifact.hintNameOf := by simp
    rw [whole] at distinct
    have keeps : d.Keeps (d.put (d.fileOf l name).1 (.file (d.fileOf l name).2)) := .put (.inl own.opens.free)
    have later (other : Value) (mem : other ∈ rest) :
        (d.put (d.fileOf l name).1 (.file (d.fileOf l name).2)).Takes root l other := by
      have other' := takes other (List.mem_cons_of_mem _ mem)
      exact other'.of_keeps keeps (Disk.node?_put_file_ne other'.opens.free)
    rw [ih rfl quiet.tail distinct later]
    rfl

/-- What a pass leaves behind whose emission below a root succeeded: the files of its artifacts, written in their turn
to a disk on which that changes nothing any more. -/
structure Left (root : FilePath) (l : Location) (chosen : List Value) (after : Disk) : Prop where
  takes : ∀ name ∈ chosen, after.Takes root l name
  leads : chosen ≠ [] → after.LeadsTo root l
  again : after.writeAll (chosen.map (after.fileOf l)) = after
  holds : ∀ front name back, chosen = front ++ name :: back →
    (after.fileOf l name).1 ∉ (back.map (after.fileOf l)).map (·.1) →
    after.node? (after.fileOf l name).1 = some (.file (after.fileOf l name).2)
  file : ∀ name ∈ chosen, ∃ content, after.node? (after.fileOf l name).1 = some (.file content)

theorem Emitted.left {chosen : List Value} {o outlet : Outlet} {seen : Record} {e : Emission}
    (emitted : Emitted chosen o seen (.ok e) outlet) {root : FilePath} {d : Disk} (start : o = ⟨.directory root [], d⟩)
    (quiet : Quiet seen) :
    e.made = chosen.map Artifact.forName ∧ (chosen.map Artifact.hintNameOf).Nodup ∧
      outlet.sink = .directory root (chosen.map Artifact.hintNameOf) ∧ ∃ l, Left root l chosen outlet.disk := by
  rcases emitted.rooted start quiet with ⟨rfl, rfl⟩ | ⟨l, d', made, emitted⟩
  · cases emitted
    subst start
    exact ⟨rfl, List.nodup_nil, rfl, .root, by simp, by simp, rfl, by simp, by simp⟩
  · have leads := Disk.makeDirectories_ok made
    obtain ⟨all, distinct, sink, keeps, takes, after⟩ := emitted.rewrites rfl leads quiet List.nodup_nil rfl
    refine ⟨all, distinct, sink, l, fun name mem => (takes name mem).1, fun _ => leads.of_keeps keeps, ?_, ?_, ?_⟩
    · generalize outlet.disk.fileOf l = file at after
      rw [after, Disk.writeAll_again]
    · rintro front name back rfl last
      have free := (takes name (by simp)).2
      generalize outlet.disk.fileOf l = file at after free last ⊢
      rw [after]
      exact Disk.node?_writeAll free (List.map_append ..) last
    · intro name mem
      have free := (takes name mem).2
      have written : (outlet.disk.fileOf l name).1 ∈ (chosen.map (outlet.disk.fileOf l)).map (·.1) :=
        List.mem_map_of_mem (List.mem_map_of_mem mem)
      generalize outlet.disk.fileOf l = file at after free written ⊢
      rw [after]
      exact Disk.exists_file free written

namespace Left

variable {root : FilePath} {l place : Location} {chosen : List Value} {after : Disk} {name : Value}

/-- What lies where the name of an artifact leads is its file. -/
private theorem find_eq (left : Left root l chosen after) (mem : name ∈ chosen) {n : Node}
    (there : after.node? (after.fileOf l name).1 = some n) :
    after.find (root.child (Artifact.hintNameOf name)) = .ok ((after.fileOf l name).1, n) :=
  (left.takes name mem).opens.find there

/-- The name of an artifact leads to a file. -/
private theorem exists_find (left : Left root l chosen after) {a : Artifact} (mem : a ∈ chosen.map Artifact.forName) :
    ∃ place content, after.find (root.child a.hintName) = .ok (place, .file content) := by
  obtain ⟨name, selected, rfl⟩ := List.mem_map.mp mem
  obtain ⟨content, there⟩ := left.file name selected
  exact ⟨_, content, left.find_eq selected there⟩

/-- The file of an artifact has its text unless the name of a later one leads there as well. -/
private theorem text_of_last (left : Left root l chosen after) {front back : List Artifact} {a : Artifact}
    (split : chosen.map Artifact.forName = front ++ a :: back) {n : Node}
    (leads : after.find (root.child a.hintName) = .ok (place, n))
    (last : ∀ b ∈ back, ∀ m, after.find (root.child b.hintName) ≠ .ok (place, m)) :
    n = .file (Text.Utf8.encode a.sourceText) := by
  obtain ⟨front', rest, rfl, -, rest'⟩ := List.map_eq_append_iff.mp split
  obtain ⟨name, back', rfl, rfl, rfl⟩ := List.map_eq_cons_iff.mp rest'
  have mem : name ∈ front' ++ name :: back' := by simp
  obtain ⟨content, there⟩ := left.file name mem
  cases (left.find_eq mem there).symm.trans leads
  have alone : (after.fileOf l name).1 ∉ (back'.map (after.fileOf l)).map (·.1) := by
    intro shared
    obtain ⟨file, written, same⟩ := List.mem_map.mp shared
    obtain ⟨other, later, rfl⟩ := List.mem_map.mp written
    have mem' : other ∈ front' ++ name :: back' := by simp [later]
    obtain ⟨content', there'⟩ := left.file other mem'
    exact last _ (List.mem_map_of_mem later) _ (same ▸ left.find_eq mem' there')
  exact Option.some.inj (there.symm.trans (left.holds front' name back' rfl alone))

/-- Where the name of no artifact leads the files are those that were there before. -/
private theorem file_iff (left : Left root l chosen after) {disk : Disk}
    (confined : Disk.Confined root (plainHintNames chosen) disk after)
    (elsewhere : ∀ a ∈ chosen.map Artifact.forName, ∀ n, after.find (root.child a.hintName) ≠ .ok (place, n))
    (content : List UInt8) : after.node? place = some (.file content) ↔ disk.node? place = some (.file content) := by
  apply confined.file_iff ?_ content
  intro l' hint leads named lead
  obtain ⟨name, mem, rfl⟩ := List.mem_map.mp (List.mem_filter.mp named).1
  have mem := (List.mem_filter.mp mem).1
  have takes := left.takes name mem
  obtain rfl := takes.opens.leads.unique leads
  obtain rfl := Except.ok.inj (takes.opens.lead.symm.trans lead)
  obtain ⟨content', there⟩ := left.file name mem
  exact elsewhere _ (List.mem_map_of_mem mem) _ (left.find_eq mem there)

/-- Another emission of the same forwards with a fresh sink makes them all and leaves the disk as it is. -/
theorem emitted {o outlet : Outlet} {seen : Record} {result : Except Fault Emission} (left : Left root l chosen after)
    (emitted : Emitted chosen o seen result outlet) (start : o = ⟨.directory root [], after⟩) (quiet : Quiet seen)
    (distinct : (chosen.map Artifact.hintNameOf).Nodup) :
    result = .ok ⟨chosen.map Artifact.forName, false⟩ ∧
      outlet = ⟨.directory root (chosen.map Artifact.hintNameOf), after⟩ := by
  obtain rfl := emitted.succeeds start quiet distinct left.takes
  refine ⟨rfl, ?_⟩
  by_cases empty : chosen = []
  · subst empty
    cases emitted
    exact start
  · obtain ⟨-, -, sink, keeps, -, rewritten⟩ := emitted.rewrites start (left.leads empty) quiet List.nodup_nil rfl
    have files : chosen.map (outlet.disk.fileOf l) = chosen.map (after.fileOf l) :=
      List.map_congr_left fun name mem => (left.takes name mem).fileOf_eq keeps
    rw [files, left.again] at rewritten
    obtain ⟨_, _⟩ := outlet
    cases sink
    cases rewritten
    rfl

end Left

/-- Two passes that nobody stops, each with a fresh sink on the same root, the second with the cache and on the disk
that the first left, and with the same answers about the compilation. If the first succeeds so does the second, with the
same artifacts, and the disk stays as the first left it. Then the name of each artifact leads to a file, which has the
text of the last artifact whose name leads there, whatever was in it before; and every other file is the same as before
the first pass. -/
theorem run_again (p : Pass σ) (s s' : State σ) {root : FilePath} {disk : Disk} {made : List Artifact}
    (start : s.outlet = ⟨.directory root [], disk⟩) (succeeds : (p.run s).1 = .ok made)
    (cache : s'.cache = (p.run s).2.cache) (start' : s'.outlet = ⟨.directory root [], (p.run s).2.outlet.disk⟩)
    (quiet : Quiet (p.observations s)) (quiet' : Quiet (p.observations s'))
    (same : Concordant (p.observations s) (p.observations s')) :
    let after := (p.run s).2.outlet.disk
    (p.run s').1 = .ok made ∧ (p.run s').2.outlet = (p.run s).2.outlet ∧
      (∀ a ∈ made, ∃ place content, after.find (root.child a.hintName) = .ok (place, .file content)) ∧
      (∀ front a back place n, made = front ++ a :: back → after.find (root.child a.hintName) = .ok (place, n) →
        (∀ b ∈ back, ∀ m, after.find (root.child b.hintName) ≠ .ok (place, m)) →
        n = .file (Text.Utf8.encode a.sourceText)) ∧
      ∀ place content, (∀ a ∈ made, ∀ n, after.find (root.child a.hintName) ≠ .ok (place, n)) →
        (after.node? place = some (.file content) ↔ disk.node? place = some (.file content)) := by
  intro after
  have ended : p.run s = (.ok made, (p.run s).2) := Prod.ext succeeds rfl
  obtain ⟨seen, more, names, chosen, e, parts, rfl⟩ := succeeded_of_run ended
  obtain ⟨quietSeen, quietMore⟩ := quiet_append.mp (parts.record ▸ quiet)
  obtain ⟨all, distinct, sink, l, left⟩ := parts.emitted.left start quietMore
  -- The second pass finds the same names, selects the same of them and registers them again.
  have ran := (p.run_observed s').2.2
  have paired : p.isPaired s' = true := (parts.found.isPaired cache).trans parts.paired
  have available : (p.available s').1 = .ok names := by
    obtain ⟨before, front, found⟩ := ran.found paired
    rw [cache] at found
    have sub : seen ⊆ p.observations s := parts.record ▸ List.subset_append_left _ _
    exact parts.found.again found quietSeen (quiet'.mono front.subset) (same.mono sub front.subset)
  obtain ⟨before, more', emission, record, -, emitted, result⟩ := ran.emission paired available parts.select
  have quietAgain : Quiet more' := (quiet_append.mp (record ▸ quiet')).2
  obtain ⟨rfl, outlet'⟩ := left.emitted emitted start' quietAgain distinct
  rw [all]
  refine ⟨result, outlet'.trans ?_, fun _ => left.exists_find, ?_, ?_⟩
  · rw [← sink]
  · intro front a back place n split leads last
    exact left.text_of_last split leads last
  · intro place content elsewhere
    have confined : Disk.Confined root (plainHintNames chosen) disk after := by
      have confined := parts.emitted.confined (congrArg Outlet.sink start)
      rwa [start] at confined
    exact left.file_iff confined elsewhere content

/-- Under the name of the forward lies a file that is longer than its text, and next to the root another one. -/
theorem run_again_over :
    let c : CoreLibrary := ⟨.csharp8, [.text Candidates.index]⟩
    let p : Pass Unit := ⟨c.metadata, .never, ⟨false, true, [], []⟩, Selection.byLists, .int 800, .none⟩
    let root : FilePath := ⟨.here, ["out"]⟩
    let out := Disk.fresh.here.child "out"
    let notes := Disk.fresh.here.child "notes"
    let made := Artifact.forName (.text Candidates.index)
    let disk : Disk := ⟨Disk.fresh.here,
      [(out, .directory), (out.child made.hintName, .file (List.replicate 999 0)), (notes, .file [1])], []⟩
    let s : State Unit := ⟨⟨(), []⟩, none, ⟨.directory root [], disk⟩, []⟩
    let after := (p.run s).2.outlet
    let s' : State Unit := ⟨⟨(), []⟩, none, ⟨.directory root [], after.disk⟩, []⟩
    (p.run s).1 = .ok [made] ∧ (p.run s').1 = .ok [made] ∧ (p.run s').2.outlet = after ∧
      (∃ place, after.disk.find (root.child made.hintName) = .ok (place, .file (Text.Utf8.encode made.sourceText))) ∧
      after.disk.node? notes = some (.file [1]) := by
  intro c p root out notes made disk s after s'
  have succeeds : (p.run s).1 = .ok [made] := by rfl
  have talk := (p.run_observed s).2.1
  have talk' := (p.run_observed s').2.1
  have same : Concordant (p.observations s) (p.observations s') :=
    Agrees.concordant (c.gives _ _ _ _ talk) (c.gives _ _ _ _ talk')
  obtain ⟨again, unchanged, files, texts, others⟩ :=
    p.run_again s s' rfl succeeds rfl rfl talk.quiet_of_never talk'.quiet_of_never same
  obtain ⟨place, content, leads⟩ := files made List.mem_cons_self
  have text := texts [] made [] place _ rfl leads (by simp)
  refine ⟨succeeds, again, unchanged, ⟨place, text ▸ leads⟩, (others notes [1] ?_).mpr rfl⟩
  intro a mem n found
  obtain rfl := List.mem_singleton.mp mem
  have depth : (after.disk.find (root.child made.hintName)).toOption.map (·.1.depth) = some 3 := by rfl
  rw [found] at depth
  cases depth

/-- A compilation whose types are looked for in a stream: what stands before a type that is found is lost, and all of it
if none is. -/
def streamed : Metadata (List Value) where
  atLeast _ left := (.ok true, left)
  defines name left :=
    let rest := left.dropWhile fun v => v.identity != name.identity
    (.ok !rest.isEmpty, rest.tail)

/-- A second pass over a stream finds nothing that is left. And where the names of two forwards are links to a file next
to the root, that is changed although it is not below the root, and the first of them has not its own text. -/
theorem rerun_unlike :
    let root : FilePath := ⟨.here, ["out"]⟩
    (let p : Pass (List Value) := ⟨streamed, .never, ⟨false, true, [], []⟩, Selection.byLists, .int 800, .none⟩
      let s : State (List Value) := ⟨⟨Candidates.all.map .text, []⟩, none, ⟨.directory root [], .fresh⟩, []⟩
      let later := (p.run s).2
      let s' : State (List Value) := ⟨later.progress, none, ⟨.directory root [], later.outlet.disk⟩, []⟩
      (p.run s).1 = .ok (Candidates.all.map fun name => Artifact.forName (.text name)) ∧ (p.run s').1 = .ok []) ∧
    let c : CoreLibrary := ⟨.csharp8, Candidates.publicOnly.map .text⟩
    let p : Pass Unit := ⟨c.metadata, .never, ⟨false, true, [], []⟩, Selection.byLists, .int 800, .none⟩
    let out := Disk.fresh.here.child "out"
    let notes := Disk.fresh.here.child "notes"
    let first := Artifact.forName (.text Candidates.index)
    let second := Artifact.forName (.text Candidates.range)
    let disk : Disk := ⟨Disk.fresh.here, [(out, .directory), (notes, .file [1])],
      [(out.child first.hintName, some notes), (out.child second.hintName, some notes)]⟩
    let s : State Unit := ⟨⟨(), []⟩, none, ⟨.directory root [], disk⟩, []⟩
    let after := (p.run s).2.outlet.disk
    (p.run s).1 = .ok [first, second] ∧ (∀ name, notes ≠ out.child name) ∧ disk.node? notes = some (.file [1]) ∧
      after.node? notes = some (.file (Text.Utf8.encode second.sourceText)) ∧
      after.find (root.child first.hintName) = .ok (notes, .file (Text.Utf8.encode second.sourceText)) ∧
      second.sourceText ≠ first.sourceText := by
  intro root
  refine ⟨⟨by rfl, by rfl⟩, ?_⟩
  intro c p out notes first second disk s after
  refine ⟨by rfl, ?_, by rfl, by rfl, by rfl, by decide⟩
  intro name same
  cases congrArg Location.depth same

end Pass

end TypeForward
