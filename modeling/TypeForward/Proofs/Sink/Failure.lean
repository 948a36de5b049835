import TypeForward.Proofs.Sink.Confinement
import TypeForward.Proofs.Sink.WriteOnce

/-! Registering a source that fails. All that is wrong with a name or a root is found out before a file is touched, but
not that a text has no octets; and a name counts as taken only once its text is written. -/
namespace TypeForward

/-- Making directories leaves all files as they are. -/
theorem Disk.Made.file_iff {start place : Location} {way : List String} {d d' : Disk} (made : Made start way d d')
    (content : List UInt8) : d'.node? place = some (.file content) ↔ d.node? place = some (.file content) := by
  by_cases same : d'.node? place = d.node? place
  · rw [same]
  · obtain ⟨free, there, -⟩ := made.changed place same
    simp [free, there]

namespace Outlet
open Disk

variable {o : Outlet} {root : FilePath} {written : List String} {disk : Disk} {name : String} {text : SourceText}
  {fault : Fault}

/-- A new name under which a file can be opened. -/
def IsOpened (written : List String) (disk : Disk) (root : FilePath) (name : String) (target : Location) : Prop :=
  name ∉ written ∧ Sink.isPlainName name = true ∧ (disk.openIn root name).1 = .ok target

/-- What a text that is not written leaves behind: the directories of the root, as far as they can be made, and an empty
file if one could be opened. -/
private theorem write_error (failed : (write root written disk name text).1 = .error fault) :
    let o' := (write root written disk name text).2
    o'.sink = .directory root written ∧
      (((∀ target, (disk.openIn root name).1 ≠ .ok target) ∧ o'.disk = (disk.makeDirectories root).2) ∨
        ∃ target, (disk.openIn root name).1 = .ok target ∧ text.octets = .error fault ∧
          o'.disk = (disk.makeDirectories root).2.put target (.file [])) := by
  rcases write_cases root written disk name text with ⟨_, unopened, same⟩ | ⟨l, place, d, made, opens, wrote⟩
  · rw [same]
    refine ⟨rfl, .inl ⟨?_, rfl⟩⟩
    intro target opened
    cases unopened.symm.trans opened
  · have opened : (disk.openIn root name).1 = .ok place := by rw [openIn_of_made made, opens.openIn]
    rcases wrote with ⟨content, -, same⟩ | ⟨_, octets, same⟩
    · rw [same] at failed
      cases failed
    · rw [same] at failed ⊢
      cases failed
      exact ⟨rfl, .inr ⟨place, opened, octets, by rw [made]⟩⟩

/-- A failing call leaves the sink as it is. It makes directories at most, or a file is left empty for want of
octets. -/
private theorem add_error (failed : ((⟨.directory root written, disk⟩ : Outlet).add name text).1 = .error fault) :
    let o' := ((⟨.directory root written, disk⟩ : Outlet).add name text).2
    o'.sink = .directory root written ∧
      (((∀ target, ¬ IsOpened written disk root name target) ∧ Made (disk.startOf root) root.names disk o'.disk) ∨
        ∃ target, IsOpened written disk root name target ∧ text.octets = .error fault ∧
          o'.disk = (disk.makeDirectories root).2.put target (.file [])) := by
  rcases add_cases root written disk name text with ⟨taken, same⟩ | ⟨climbs, same⟩ | ⟨fresh, plain, same⟩
  · rw [same]
    exact ⟨rfl, .inl ⟨fun _ opened => opened.1 taken, .refl _ _ disk⟩⟩
  · rw [same]
    refine ⟨rfl, .inl ⟨?_, .refl _ _ disk⟩⟩
    rintro _ ⟨-, plain, -⟩
    cases climbs.symm.trans plain
  · rw [same] at failed ⊢
    obtain ⟨sink, ⟨unopened, after⟩ | ⟨target, opened, octets, after⟩⟩ := write_error failed
    · exact ⟨sink, .inl ⟨fun target opened => unopened target opened.2.2, after ▸ makeDirectories_made disk root⟩⟩
    · exact ⟨sink, .inr ⟨target, ⟨fresh, plain, opened⟩, octets, after⟩⟩

/-- A name that was registered is refused as a duplicate, in a sink of any kind. -/
theorem add_of_taken (taken : name ∈ o.sink.names) (text : SourceText) :
    o.add name text = (.error (.conflict (.alreadyAdded name)), o) := by
  rw [add, if_pos (List.contains_iff_mem.mpr taken)]

/-- A call registers its name and succeeds, or it registers nothing. If the name was not registered before it is not
refused as a duplicate. -/
theorem add_of_untaken (fresh : name ∉ o.sink.names) (text : SourceText) :
    (o.add name text).1 ≠ .error (.conflict (.alreadyAdded name)) ∧
      ((o.add name text).2.sink.names = o.sink.names ∨
        (∃ events, (o.add name text).1 = .ok events) ∧ (o.add name text).2.sink.names = o.sink.names ++ [name]) := by
  have free : ¬ o.sink.names.contains name = true := mt List.contains_iff_mem.mp fresh
  obtain ⟨sink, disk⟩ := o
  cases sink with
  | closed => exact ⟨by simp [add, Sink.names], .inl rfl⟩
  | memory sources =>
    rw [add, if_neg free]
    exact ⟨by simp, .inr ⟨⟨_, rfl⟩, List.map_append⟩⟩
  | directory root written =>
    rcases add_cases root written disk name text with ⟨taken, -⟩ | ⟨-, same⟩ | ⟨-, -, same⟩
    · exact absurd taken fresh
    · rw [same]
      exact ⟨by simp, .inl rfl⟩
    · rw [same]
      refine ⟨write_no_conflict _, ?_⟩
      rcases write_cases root written disk name text with
        ⟨_, -, same⟩ | ⟨_, _, _, -, -, ⟨_, -, same⟩ | ⟨_, -, same⟩⟩
      · rw [same]
        exact .inl rfl
      · rw [same]
        exact .inr ⟨⟨_, rfl⟩, rfl⟩
      · rw [same]
        exact .inl rfl

theorem add_duplicate_iff (o : Outlet) (name : String) (text : SourceText) :
    (o.add name text).1 = .error (.conflict (.alreadyAdded name)) ↔ name ∈ o.sink.names := by
  by_cases taken : name ∈ o.sink.names
  · simp [add_of_taken taken, taken]
  · simp [(add_of_untaken taken text).1, taken]

/-- A name is registered after calls if it was before them or one of them succeeded in registering it. -/
private theorem mem_names_addAll {calls : List (String × String)} (mem : name ∈ (o.addAll calls).sink.names) :
    name ∈ o.sink.names ∨ ∃ front text back events, calls = front ++ (name, text) :: back ∧
      ((o.addAll front).add name (.text text)).1 = .ok events := by
  induction calls generalizing o with
  | nil => exact .inl mem
  | cons call rest ih =>
    obtain ⟨given, text⟩ := call
    rcases ih (o := (o.add given (.text text)).2) mem with known | ⟨front, text', back, events, rfl, taken⟩
    · by_cases taken : given ∈ o.sink.names
      · rw [add_of_taken taken] at known
        exact .inl known
      · rcases (add_of_untaken taken (.text text)).2 with same | ⟨⟨events, added⟩, same⟩
        · exact .inl (same ▸ known)
        · rcases List.mem_append.mp (same ▸ known) with known | own
          · exact .inl known
          · obtain rfl := List.mem_singleton.mp own
            exact .inr ⟨[], text, rest, events, rfl, added⟩
    · exact .inr ⟨(given, text) :: front, text', back, events, rfl, taken⟩

/-- A call that fails, on a sink below a root, on any disk and whatever was registered before. The sink stays as it is.
Unless a file can be opened under the name, nothing changes on the disk but that directories on the way to the root are
made, so that every file is still there with its content and no new one is; and a conflict of names changes nothing at
all. If a file can be opened the text has no octets, and then the file where the name leads is left there and empty,
whatever was in it before. Unless the name was taken before, it is not taken afterwards: on whatever disk, it is refused
as a duplicate only after another call for it has succeeded. -/
theorem add_failing (root : FilePath) (written : List String) (disk : Disk) (name : String) (text : SourceText)
    (fault : Fault) (failed : ((⟨.directory root written, disk⟩ : Outlet).add name text).1 = .error fault) :
    let o' := ((⟨.directory root written, disk⟩ : Outlet).add name text).2
    (o'.sink = .directory root written ∧ o'.sink.names = written ∧ o'.sink.size = written.length ∧
        o'.sink.paths = written.map root.child) ∧
      ((∀ target, ¬ IsOpened written disk root name target) → Made (disk.startOf root) root.names disk o'.disk ∧
        ∀ place content, o'.disk.node? place = some (.file content) ↔ disk.node? place = some (.file content)) ∧
      (∀ target, IsOpened written disk root name target → text.octets = .error fault ∧
        o'.disk = (disk.makeDirectories root).2.put target (.file [])) ∧
      (∀ cause, fault = .conflict cause → o'.disk = disk) ∧
      (fault ≠ .conflict (.alreadyAdded name) → ∀ later calls text',
        (((⟨o'.sink, later⟩ : Outlet).addAll calls).add name text').1 = .error (.conflict (.alreadyAdded name)) →
          ∃ front text'' back events, calls = front ++ (name, text'') :: back ∧
            (((⟨o'.sink, later⟩ : Outlet).addAll front).add name (.text text'')).1 = .ok events) := by
  intro o'
  obtain ⟨sink, left⟩ := add_error failed
  refine ⟨⟨sink, congrArg Sink.names sink, congrArg Sink.size sink, congrArg Sink.paths sink⟩, ?_, ?_, ?_, ?_⟩
  · intro unopened
    rcases left with ⟨-, made⟩ | ⟨target, opened, -⟩
    · exact ⟨made, fun _ => made.file_iff⟩
    · exact absurd opened (unopened target)
  · intro target opened
    rcases left with ⟨unopened, -⟩ | ⟨_, opened', octets, after⟩
    · exact absurd opened (unopened target)
    · obtain rfl := Except.ok.inj (opened.2.2.symm.trans opened'.2.2)
      exact ⟨octets, after⟩
  · rintro cause rfl
    exact congrArg Outlet.disk (add_of_conflict failed)
  · intro other later calls text' refused
    have fresh : name ∉ written := by
      intro taken
      have duplicate := (add_duplicate_iff ⟨.directory root written, disk⟩ name text).mpr taken
      exact other (Except.error.inj (failed.symm.trans duplicate))
    have untaken : name ∉ (⟨o'.sink, later⟩ : Outlet).sink.names := by
      rw [show (⟨o'.sink, later⟩ : Outlet).sink = .directory root written from sink]
      exact fresh
    exact (mem_names_addAll ((add_duplicate_iff _ _ _).mp refused)).resolve_left untaken

/-- A NUL in the name: the root is made and that is all, and the name is not taken afterwards. -/
theorem add_failing_nul :
    let o : Outlet := ⟨.directory ⟨.here, ["out"]⟩ ["b"], .fresh⟩
    let o' := (o.add "a\x00" (.text "x")).2
    o'.sink = o.sink ∧
      o'.disk.nodes.map (fun entry => (entry.1.names, entry.2)) = [([FilePath.homeSign, "out"], .directory)] ∧
      (∀ place content, o'.disk.node? place = some (.file content) ↔ o.disk.node? place = some (.file content)) ∧
      (o'.add "a\x00" (.text "y")).1 ≠ .error (.conflict (.alreadyAdded "a\x00")) := by
  intro o o'
  have failed : (o.add "a\x00" (.text "x")).1 = .error .badValue := by rfl
  obtain ⟨⟨sink, -, -, -⟩, unchanged, -, -, untaken⟩ :=
    add_failing ⟨.here, ["out"]⟩ ["b"] .fresh "a\x00" (.text "x") _ failed
  refine ⟨sink, by decide +kernel, (unchanged ?_).2, ?_⟩
  · rintro target ⟨-, -, opened⟩
    cases (show (Disk.fresh.openIn ⟨.here, ["out"]⟩ "a\x00").1 = .error .badValue by rfl).symm.trans opened
  · intro refused
    obtain ⟨front, _, back, _, split, -⟩ := untaken nofun o'.disk [] (.text "y") refused
    simp at split

/-- Half a character in the text: the call fails, and what the file held before is gone. -/
theorem emptied_by_half :
    let file := (Disk.fresh.here.child "out").child "a.g.cs"
    let disk : Disk := ⟨Disk.fresh.here, [(file.parent, .directory), (file, .file (Text.Utf8.encode "precious"))], []⟩
    let o : Outlet := ⟨.directory ⟨.here, ["out"]⟩ [], disk⟩
    (o.add "a.g.cs" (.broken half)).1 = .error .unencodable ∧
      disk.node? file = some (.file (Text.Utf8.encode "precious")) ∧
      (o.add "a.g.cs" (.broken half)).2.disk.node? file = some (.file []) := by
  intro file disk o
  exact ⟨by rfl, by rfl, by rfl⟩

end Outlet

end TypeForward
