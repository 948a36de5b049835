import TypeForward.Sink
import TypeForward.Proofs.Disk.Directories

/-! Sources registered one after the other. In memory and on disk a sink is the same log that is written once: the
first source under a name is kept, later ones are refused, and each file holds the text of the first. -/
namespace TypeForward

open Entries

namespace WriteOnce

/-- The names of calls in the order of their first. -/
def names (calls : List (String × String)) : List String :=
  (keys calls).eraseDups

/-- What a log that is written once answers after other calls. -/
def answer (calls : List (String × String)) (name : String) : Except Fault Unit :=
  if name ∈ keys calls then .error (.conflict (.alreadyAdded name)) else .ok ()

variable {calls : List (String × String)} {name text : String}

theorem mem_names : name ∈ names calls ↔ name ∈ keys calls :=
  List.mem_eraseDups

private theorem nodup_eraseDups : ∀ xs : List String, xs.eraseDups.Nodup
  | [] => List.nodup_nil
  | x :: xs => by
    rw [List.eraseDups_cons, List.nodup_cons, List.mem_eraseDups]
    exact ⟨by simp, nodup_eraseDups _⟩
termination_by xs => xs.length
decreasing_by exact Nat.lt_succ_of_le (List.length_filter_le _ _)

theorem nodup_names (calls : List (String × String)) : (names calls).Nodup :=
  nodup_eraseDups _

private theorem names_append_of_mem (known : name ∈ keys calls) : names (calls ++ [(name, text)]) = names calls := by
  have nothing : [name].removeAll (keys calls) = [] := by simp [List.removeAll, known]
  rw [names, keys, List.map_append, List.eraseDups_append]
  exact (congrArg (names calls ++ List.eraseDups ·) nothing).trans (List.append_nil _)

private theorem names_append_of_not_mem (fresh : name ∉ keys calls) :
    names (calls ++ [(name, text)]) = names calls ++ [name] := by
  have itself : [name].removeAll (keys calls) = [name] := by simp [List.removeAll, fresh]
  rw [names, keys, List.map_append, List.eraseDups_append]
  exact congrArg (names calls ++ List.eraseDups ·) itself

private theorem get?_append_of_mem (known : name ∈ keys calls) (other : String) :
    get? other (calls ++ [(name, text)]) = get? other calls := by
  rw [get?_append]
  by_cases own : other = name
  · obtain ⟨first, found⟩ := Option.isSome_iff_exists.mp (get?_isSome_iff.mpr (own ▸ known))
    rw [found, Option.some_or]
  · simp [get?, Ne.symm own]

private theorem get?_append_of_not_mem (fresh : name ∉ keys calls) (other : String) :
    get? other (calls ++ [(name, text)]) = if other = name then some text else get? other calls := by
  rw [get?_append]
  by_cases own : other = name
  · have none : get? other calls = none := get?_eq_none_iff.mpr (own ▸ fresh)
    simp [get?, own ▸ none, own]
  · simp [get?, own, Ne.symm own]

end WriteOnce

namespace Outlet
open WriteOnce

/-- Registers sources one after the other; one that is refused is passed over. -/
def addAll (o : Outlet) (calls : List (String × String)) : Outlet :=
  calls.foldl (fun o call => (o.add call.1 (.text call.2)).2) o

/-- What registering one source keeps, if its name is as asked, registering all of them keeps. -/
private theorem addAll_of_step (kept : List (String × String) → Outlet → Prop) (asked : String → Prop)
    (step : ∀ calls o name text, kept calls o → asked name →
      kept (calls ++ [(name, text)]) (o.add name (.text text)).2)
    (calls : List (String × String)) {more : List (String × String)} {o : Outlet} (h : kept calls o)
    (fine : ∀ name ∈ keys more, asked name) :
    kept (calls ++ more) (o.addAll more) := by
  induction more generalizing calls o with
  | nil => rwa [List.append_nil]
  | cons call rest ih =>
    have first := step calls o call.1 call.2 h (fine _ List.mem_cons_self)
    have all := ih _ first fun name mem => fine name (List.mem_cons_of_mem _ mem)
    rwa [List.append_assoc] at all

variable {calls : List (String × String)} {o : Outlet} {name text : String}

private theorem contains_iff (named : o.sink.names = names calls) :
    o.sink.names.contains name = true ↔ name ∈ keys calls := by
  rw [named, List.contains_iff_mem, mem_names]

/-- A name that is taken is refused, and nothing changes. -/
private theorem add_of_mem (named : o.sink.names = names calls) (known : name ∈ keys calls) (text : SourceText) :
    o.add name text = (.error (.conflict (.alreadyAdded name)), o) := by
  rw [add, (contains_iff named).mpr known]
  rfl

/-- A sink in memory after calls. -/
structure InMemory (calls : List (String × String)) (o : Outlet) : Prop where
  memory : ∃ sources, o.sink = .memory sources
  named : o.sink.names = names calls
  source? : ∀ name, o.sink.source? name = (get? name calls).map .text

private theorem InMemory.add_of_not_mem (h : InMemory calls o) (fresh : name ∉ keys calls) (text : SourceText) :
    ∃ sources, o.sink = .memory sources ∧
      o.add name text = (.ok [], { o with sink := .memory (sources ++ [(name, text)]) }) := by
  obtain ⟨sources, sink⟩ := h.memory
  have free : ¬ o.sink.names.contains name = true := mt (contains_iff h.named).mp fresh
  exact ⟨sources, sink, by rw [add, if_neg free, sink]⟩

theorem InMemory.answer (h : InMemory calls o) (name text : String) :
    (o.add name (.text text)).1.map (fun _ => ()) = WriteOnce.answer calls name := by
  by_cases known : name ∈ keys calls
  · rw [add_of_mem h.named known, WriteOnce.answer, if_pos known]
    rfl
  · obtain ⟨sources, -, added⟩ := h.add_of_not_mem known (.text text)
    rw [added, WriteOnce.answer, if_neg known]
    rfl

theorem InMemory.add (h : InMemory calls o) (name text : String) :
    InMemory (calls ++ [(name, text)]) (o.add name (.text text)).2 := by
  by_cases known : name ∈ keys calls
  · rw [add_of_mem h.named known]
    refine ⟨h.memory, ?_, ?_⟩
    · rw [h.named, names_append_of_mem known]
    · intro other
      rw [h.source?, get?_append_of_mem known]
  · obtain ⟨sources, sink, added⟩ := h.add_of_not_mem known (.text text)
    have named := h.named
    have found := h.source?
    rw [sink] at named found
    rw [added]
    refine ⟨⟨_, rfl⟩, ?_, ?_⟩
    · rw [names_append_of_not_mem known, ← named, Sink.names, List.map_append]
      rfl
    · intro other
      have last : get? other [(name, SourceText.text text)] = (get? other [(name, text)]).map .text := by
        simp only [get?]
        split <;> rfl
      rw [Sink.source?, get?_append, show get? other sources = _ from found other, last, get?_append, Option.map_or]

/-- A name that a file can have. -/
structure IsFileName (name : String) : Prop where
  plain : Sink.isPlainName name = true
  nul : name.toList.contains '\x00' = false
  fits : Disk.isTooLong name = false

private theorem IsFileName.ne_up (h : IsFileName name) : name ≠ ".." := by
  rintro rfl
  have climbs : Sink.isPlainName ".." = false := by decide
  rw [h.plain] at climbs
  cases climbs

/-- A sink on disk after calls, for names that may come: its root can be made, and a file can be opened under each of
the names at a place. -/
structure OnDisk (root : FilePath) (l : Location) (place : String → Location) (asked : List String)
    (calls : List (String × String)) (o : Outlet) : Prop where
  sink : o.sink = .directory root (names calls)
  known : keys calls ⊆ asked
  made : ∃ d, o.disk.makeDirectories root = (.ok l, d) ∧ (calls ≠ [] → d = o.disk) ∧
    (∀ name ∈ asked, d.Opens root l name (place name)) ∧
    ∀ name text, get? name calls = some text → d.node? (place name) = some (.file (Text.Utf8.encode text))

section OnDisk

variable {root : FilePath} {l : Location} {place : String → Location} {asked : List String}

/-- Before the first call the root need not be there. -/
theorem OnDisk.nil {d d' : Disk} (made : d.makeDirectories root = (.ok l, d'))
    (opens : ∀ name ∈ asked, d'.Opens root l name (place name)) :
    OnDisk root l place asked [] ⟨.directory root [], d⟩ := by
  refine ⟨rfl, List.nil_subset asked, d', made, fun none => absurd rfl none, opens, ?_⟩
  intro name text found
  cases found

theorem OnDisk.named (h : OnDisk root l place asked calls o) : o.sink.names = names calls := by
  rw [h.sink]
  rfl

/-- A new name is written to the file where it leads. -/
private theorem OnDisk.add_of_not_mem (h : OnDisk root l place asked calls o) (plain : Sink.isPlainName name = true)
    (mem : name ∈ asked) (fresh : name ∉ keys calls) (text : String) :
    ∃ d, o.disk.makeDirectories root = (.ok l, d) ∧ d.Opens root l name (place name) ∧
      o.add name (.text text) = (.ok [.wrote (root.child name).text],
        ⟨.directory root (names calls ++ [name]), d.put (place name) (.file (Text.Utf8.encode text))⟩) := by
  obtain ⟨d, made, -, opens, -⟩ := h.made
  have untaken : ¬ o.sink.names.contains name = true := mt (contains_iff h.named).mp fresh
  have opened := (Disk.openIn_of_made made name).trans (opens name mem).openIn
  refine ⟨d, made, opens name mem, ?_⟩
  rw [add, if_neg untaken, h.sink]
  simp only [plain, write, opened]
  rfl

theorem OnDisk.answer (h : OnDisk root l place asked calls o) (plain : Sink.isPlainName name = true)
    (mem : name ∈ asked) (text : String) :
    (o.add name (.text text)).1.map (fun _ => ()) = WriteOnce.answer calls name := by
  by_cases known : name ∈ keys calls
  · rw [add_of_mem h.named known, WriteOnce.answer, if_pos known]
    rfl
  · obtain ⟨d, -, -, added⟩ := h.add_of_not_mem plain mem known text
    rw [added, WriteOnce.answer, if_neg known]
    rfl

theorem OnDisk.add (h : OnDisk root l place asked calls o)
    (apart : ∀ name ∈ asked, ∀ other ∈ asked, place name = place other → name = other)
    (plain : Sink.isPlainName name = true) (mem : name ∈ asked) (text : String) :
    OnDisk root l place asked (calls ++ [(name, text)]) (o.add name (.text text)).2 := by
  have sub : keys (calls ++ [(name, text)]) ⊆ asked := by
    rw [keys, List.map_append]
    exact List.append_subset.mpr ⟨h.known, List.cons_subset.mpr ⟨mem, List.nil_subset asked⟩⟩
  by_cases known : name ∈ keys calls
  · obtain ⟨d, made, settled, opens, files⟩ := h.made
    rw [add_of_mem h.named known]
    refine ⟨by rw [h.sink, names_append_of_mem known], sub, d, made, ?_, opens, ?_⟩
    · intro _
      apply settled
      rintro rfl
      cases known
    · intro other first found
      rw [get?_append_of_mem known] at found
      exact files other first found
  · obtain ⟨d, made, own, added⟩ := h.add_of_not_mem plain mem known text
    obtain ⟨d', made', -, opens, files⟩ := h.made
    obtain rfl : d' = d := (Prod.mk.inj (made'.symm.trans made)).2
    rw [added]
    -- The root is not made anew: what was put is a file, where there was no directory.
    have keeps : d'.Keeps (d'.put (place name) (.file (Text.Utf8.encode text))) := .put (.inl own.free)
    have there := Disk.node?_put_self own.free (.file (Text.Utf8.encode text))
    refine ⟨by rw [names_append_of_not_mem known], sub, _, (own.leads.of_keeps keeps).makeDirectories, fun _ => rfl,
      ?_, ?_⟩
    · intro other askedToo
      apply (opens other askedToo).of_keeps keeps
      by_cases same : place other = place name
      · rw [same, there]
        simp
      · rw [Disk.node?_put_of_ne _ same]
        exact (opens other askedToo).free
    · intro other first found
      rw [get?_append_of_not_mem known] at found
      split at found
      · next same =>
        rw [same, there, Option.some.inj found]
      · next different =>
        have earlier : other ∈ asked := h.known (get?_isSome_iff.mp (by rw [found]; rfl))
        rw [Disk.node?_put_of_ne _ (mt (apart other earlier name mem) different)]
        exact files other first found

/-- The file of each name holds the text of the first call for it. -/
theorem OnDisk.find (h : OnDisk root l place asked calls o) (first : get? name calls = some text) :
    o.disk.find (root.child name) = .ok (place name, .file (Text.Utf8.encode text)) := by
  obtain ⟨d, -, settled, opens, files⟩ := h.made
  have some : calls ≠ [] := by
    rintro rfl
    cases first
  obtain rfl := settled some
  exact (opens name (h.known (get?_isSome_iff.mp (by rw [first]; rfl)))).find (files name text first)

end OnDisk

/-- Calls with names that files can have, on a sink in memory and on one below a root that can be made, where the names
lead to different places, which are no directories, and no path is too long. After each call both have the same names,
those of the calls in the order of their first; in memory there is for each the text of its first call, and on disk a
file with just that text. A call is refused by both if its name was taken, which then changes nothing, and else taken by
both. -/
theorem addAll_once (d d' : Disk) (root : FilePath) (l : Location) (calls : List (String × String))
    (place : String → Location) (made : d.makeDirectories root = (.ok l, d'))
    (fileNames : ∀ name ∈ keys calls, IsFileName name)
    (short : ∀ name ∈ keys calls, (root.child name).isTooLong = false)
    (leads : ∀ name ∈ keys calls, d'.lead (l.child name) = .ok (place name))
    (apart : ∀ name ∈ keys calls, ∀ other ∈ keys calls, place name = place other → name = other)
    (free : ∀ name ∈ keys calls, d'.node? (place name) ≠ some .directory)
    (earlier later : List (String × String)) (split : calls = earlier ++ later) :
    let m := (⟨.memory [], d⟩ : Outlet).addAll earlier
    let o := (⟨.directory root [], d⟩ : Outlet).addAll earlier
    m.sink.names = names earlier ∧ o.sink.names = names earlier ∧ (names earlier).Nodup ∧
      m.sink.size = (names earlier).length ∧ o.sink.size = (names earlier).length ∧
      (∀ name, m.sink.source? name = (get? name earlier).map .text) ∧
      o.sink.paths = (names earlier).map root.child ∧
      (∀ name text, get? name earlier = some text →
        o.disk.find (root.child name) = .ok (place name, .file (Text.Utf8.encode text))) ∧
      ∀ name text rest, later = (name, text) :: rest →
        (m.add name (.text text)).1.map (fun _ => ()) = answer earlier name ∧
        (o.add name (.text text)).1.map (fun _ => ()) = answer earlier name ∧
        (name ∈ keys earlier → (m.add name (.text text)).2 = m ∧ (o.add name (.text text)).2 = o) := by
  intro m o
  have whole : keys calls = keys earlier ++ keys later := by
    rw [split, keys, List.map_append]
    rfl
  have inMemory : InMemory earlier m := by
    refine addAll_of_step InMemory (fun _ => True) ?_ [] ⟨⟨[], rfl⟩, rfl, fun _ => rfl⟩ fun _ _ => trivial
    intro calls o name text h _
    exact h.add name text
  have root' := Disk.makeDirectories_ok made
  have onDisk : OnDisk root l place (keys calls) earlier o := by
    refine addAll_of_step (OnDisk root l place (keys calls)) (· ∈ keys calls) ?_ [] ?_ ?_
    · intro _ _ name text h mem
      exact h.add apart (fileNames name mem).plain mem text
    · refine .nil made ?_
      intro name mem
      have fine := fileNames name mem
      exact ⟨root', Disk.hasNul_child root'.plain fine.nul, short name mem, fine.fits, fine.ne_up, leads name mem,
        free name mem⟩
    · intro name mem
      rw [whole]
      exact List.mem_append_left _ mem
  refine ⟨inMemory.named, onDisk.named, nodup_names earlier, by rw [Sink.size, inMemory.named],
    by rw [Sink.size, onDisk.named], inMemory.source?, by rw [onDisk.sink]; rfl, fun _ _ => onDisk.find, ?_⟩
  intro name text rest next
  have mem : name ∈ keys calls := by
    rw [whole, next]
    exact List.mem_append_right _ List.mem_cons_self
  refine ⟨inMemory.answer name text, onDisk.answer (fileNames name mem).plain mem text, ?_⟩
  intro known
  rw [add_of_mem inMemory.named known, add_of_mem onDisk.named known]
  exact ⟨rfl, rfl⟩

def outPath : FilePath := ⟨.here, ["out"]⟩

/-- Of three sources the last has the name of the first. -/
theorem addAll_once_three :
    let o := (⟨.directory outPath [], .fresh⟩ : Outlet).addAll [("a", "x"), ("b", "y")]
    o.sink.paths = [outPath.child "a", outPath.child "b"] ∧
      (∃ place, o.disk.find (outPath.child "a") = .ok (place, .file [120])) ∧
      (o.add "a" (.text "z")).1.map (fun _ => ()) = .error (.conflict (.alreadyAdded "a")) ∧
      (o.add "a" (.text "z")).2 = o := by
  intro o
  let calls := [("a", "x"), ("b", "y"), ("a", "z")]
  obtain ⟨l, d', made, unlinked, empty⟩ := Disk.makeDirectories_of_empty (d := .fresh) rfl rfl (p := outPath) rfl
    (by decide +kernel) (by decide +kernel) (by decide +kernel)
  have fileNames : ∀ name ∈ keys calls, IsFileName name := by
    intro name mem
    have all : ∀ name ∈ keys calls, Sink.isPlainName name = true ∧ name.toList.contains '\x00' = false ∧
        Disk.isTooLong name = false := by decide +kernel
    obtain ⟨plain, nul, fits⟩ := all name mem
    exact ⟨plain, nul, fits⟩
  have leads (name : String) : d'.lead (l.child name) = .ok (l.child name) :=
    Disk.lead_of_unlinked (by rw [unlinked]; rfl)
  obtain ⟨-, -, -, -, -, -, paths, files, next⟩ := addAll_once .fresh d' outPath l calls l.child made fileNames
    (by decide +kernel) (fun name _ => leads name) (fun _ _ _ _ => Location.child_inj.mp) (by simp [empty])
    [("a", "x"), ("b", "y")] [("a", "z")] rfl
  obtain ⟨-, refused, same⟩ := next "a" "z" [] rfl
  exact ⟨paths, ⟨_, files "a" "x" rfl⟩, refused, (same (by decide)).2⟩

/-- What cannot be opened is refused. -/
private theorem add_of_unopened {root : FilePath} {d d' : Disk} {fault : Fault} {text : SourceText}
    (plain : Sink.isPlainName name = true) (failed : d.openIn root name = (.error fault, d')) :
    (⟨.directory root [], d⟩ : Outlet).add name text = (.error fault, ⟨.directory root [], d'⟩) := by
  simp [add, Sink.names, plain, write, failed]

/-- A root whose path has 4090 octets. -/
def deepRoot : FilePath :=
  ⟨.here, List.replicate 15 (String.ofList (List.replicate 255 'n')) ++ [String.ofList (List.replicate 250 'n')]⟩

/-- Half of a character. -/
def half : BrokenText := ⟨[0xD800], by decide⟩

/-- Two names below a root are links to one file. -/
def shared : Disk :=
  let out := Disk.fresh.here.child "out"
  ⟨Disk.fresh.here, [(out, .directory)], [(out.child "a", some (out.child "c")), (out.child "b", some (out.child "c"))]⟩

/-- The sinks differ in three cases, each with a root that can be made and names that files can have, where no
directories are. A name that makes a path with the root that is too long is taken in memory and refused on disk, and so
is a text with half a character. And of the sources under two links to one file the last is what the file holds. -/
theorem memory_ne_directory :
    ((∃ l d', Disk.fresh.makeDirectories deepRoot = (.ok l, d') ∧ d'.node? (l.child "aaaaa") = none) ∧
      IsFileName "aaaaa" ∧ ((⟨.memory [], .fresh⟩ : Outlet).add "aaaaa" (.text "x")).1 = .ok [] ∧
      ((⟨.directory deepRoot [], .fresh⟩ : Outlet).add "aaaaa" (.text "x")).1 = .error .system) ∧
    (((⟨.memory [], .fresh⟩ : Outlet).add "a" (.broken half)).1 = .ok [] ∧
      ((⟨.directory outPath [], .fresh⟩ : Outlet).add "a" (.broken half)).1 = .error .unencodable) ∧
    let m := (⟨.memory [], shared⟩ : Outlet).addAll [("a", "x"), ("b", "y")]
    let o := (⟨.directory outPath [], shared⟩ : Outlet).addAll [("a", "x"), ("b", "y")]
    m.sink.names = ["a", "b"] ∧ o.sink.names = ["a", "b"] ∧ m.sink.source? "a" = some (.text "x") ∧
      ∃ place, o.disk.find (outPath.child "a") = .ok (place, .file (Text.Utf8.encode "y")) := by
  have names {p : String → Prop} (long : p (String.ofList (List.replicate 255 'n')))
      (last : p (String.ofList (List.replicate 250 'n'))) : ∀ name ∈ deepRoot.names, p name := by
    intro name mem
    rcases List.mem_append.mp mem with mem | mem
    · rw [List.eq_of_mem_replicate mem]
      exact long
    · rw [List.mem_singleton.mp mem]
      exact last
  have plain : deepRoot.hasNul = false := by
    have letters (k : Nat) : ¬ (String.ofList (List.replicate k 'n')).toList.contains '\x00' = true := by simp
    rw [FilePath.hasNul, List.any_eq_false]
    exact names (letters 255) (letters 250)
  have isFileName : IsFileName "aaaaa" := ⟨by decide +kernel, by decide +kernel, by decide +kernel⟩
  obtain ⟨l, d', made, -, empty⟩ := Disk.makeDirectories_of_empty (d := .fresh) rfl rfl (p := deepRoot) rfl plain
    (by decide +kernel) (names (by decide +kernel) (by decide +kernel))
  have refused : Disk.fresh.openIn deepRoot "aaaaa" = (.error .system, d') :=
    Disk.openIn_long made isFileName.nul (by decide +kernel)
  refine ⟨⟨⟨l, d', made, empty _⟩, isFileName, rfl, ?_⟩, ⟨rfl, by rfl⟩, by rfl, by rfl, by rfl, ?_⟩
  · rw [add_of_unopened isFileName.plain refused]
  · exact ⟨_, by rfl⟩

end Outlet

end TypeForward
