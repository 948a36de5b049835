import TypeForward.Proofs.Disk.Directories

/-! Files written one after the other, be they different ones or not. Each place has what was written there last, and
to write all of them once more changes nothing. -/
namespace TypeForward

namespace Entries

variable {κ α : Type} [DecidableEq κ] {key other : κ} {entries : List (κ × α)}

/-- Of two values for a key the later counts. -/
private theorem put_put_self (key : κ) (value later : α) (entries : List (κ × α)) :
    put key later (put key value entries) = put key later entries := by
  induction entries with
  | nil => simp [put]
  | cons entry rest ih =>
    by_cases own : entry.1 = key
    · rw [put, if_pos own, put, if_pos own, put, if_pos own]
    · rw [put, if_neg own, put, if_neg own, put, if_neg own, ih]

/-- The value of a known key can be put before that of another or after it. -/
private theorem put_comm (known : key ∈ keys entries) (ne : other ≠ key) (value value' : α) :
    put other value' (put key value entries) = put key value (put other value' entries) := by
  induction entries with
  | nil => cases known
  | cons entry rest ih =>
    by_cases own : entry.1 = key
    · have apart : entry.1 ≠ other := own ▸ Ne.symm ne
      rw [put, if_pos own, put, if_neg apart, put, if_neg apart, put, if_pos own]
    · have known : key ∈ keys rest := (List.mem_cons.mp known).resolve_left (Ne.symm own)
      by_cases same : entry.1 = other
      · rw [put, if_neg own, put, if_pos same, put, if_pos same, put, if_neg own]
      · rw [put, if_neg own, put, if_neg same, ih known, put, if_neg same, put, if_neg own]

end Entries

namespace Disk
open Entries

variable {d d' : Disk} {l place : Location} {files front back : List (Location × List UInt8)} {content : List UInt8}

/-- Writes files at places, one after the other. -/
def writeAll (d : Disk) (files : List (Location × List UInt8)) : Disk :=
  files.foldl (fun d file => d.put file.1 (.file file.2)) d

theorem writeAll_cons (d : Disk) (file : Location × List UInt8) (rest : List (Location × List UInt8)) :
    d.writeAll (file :: rest) = (d.put file.1 (.file file.2)).writeAll rest := rfl

theorem writeAll_append (d : Disk) (front back : List (Location × List UInt8)) :
    d.writeAll (front ++ back) = (d.writeAll front).writeAll back :=
  List.foldl_append

/-- A file that is put makes no directory. -/
theorem node?_put_file_ne (free : d.node? l ≠ some .directory) :
    (d.put place (.file content)).node? l ≠ some .directory := by
  by_cases own : l = place
  · subst own
    rw [node?_put_self free]
    simp
  · rw [node?_put_of_ne d own]
    exact free

/-- What is written over later need not be written. -/
private theorem writeAll_put (later : l ∈ files.map (·.1)) (known : l ∈ keys d.nodes) (n : Node) :
    (d.put l n).writeAll files = d.writeAll files := by
  induction files generalizing d with
  | nil => cases later
  | cons file rest ih =>
    rw [writeAll_cons, writeAll_cons]
    by_cases own : file.1 = l
    · subst own
      rw [put, put, put, put_put_self]
    · have later : l ∈ rest.map (·.1) := (List.mem_cons.mp later).resolve_left (Ne.symm own)
      have swapped : (d.put l n).put file.1 (.file file.2) = (d.put file.1 (.file file.2)).put l n := by
        rw [put, put, put, put, put_comm known own]
      rw [swapped, ih later (mem_keys_put.mpr (.inr known))]

private theorem mem_keys_writeAll (known : l ∈ keys d.nodes) : l ∈ keys (d.writeAll files).nodes := by
  induction files generalizing d with
  | nil => exact known
  | cons file rest ih => exact ih (mem_keys_put.mpr (.inr known))

theorem node?_writeAll_ne (free : d.node? l ≠ some .directory) (files : List (Location × List UInt8)) :
    (d.writeAll files).node? l ≠ some .directory := by
  induction files generalizing d with
  | nil => exact free
  | cons file rest ih => exact ih (node?_put_file_ne free)

private theorem get?_writeAll (other : l ∉ files.map (·.1)) : get? l (d.writeAll files).nodes = get? l d.nodes := by
  induction files generalizing d with
  | nil => rfl
  | cons file rest ih =>
    obtain ⟨first, rest'⟩ := not_or.mp (mt List.mem_cons.mpr other)
    rw [writeAll_cons, ih rest', put, get?_put_of_ne first]

/-- What is written last at a place is there. -/
theorem node?_writeAll (free : d.node? l ≠ some .directory) (split : files = front ++ (l, content) :: back)
    (last : l ∉ back.map (·.1)) : (d.writeAll files).node? l = some (.file content) := by
  rw [node?_eq_get? (node?_writeAll_ne free files), split, writeAll_append, writeAll_cons, get?_writeAll last, put,
    get?_put_self]

/-- Some content is written last. -/
private theorem exists_last (mem : l ∈ files.map (·.1)) :
    ∃ front content back, files = front ++ (l, content) :: back ∧ l ∉ back.map (·.1) := by
  induction files with
  | nil => cases mem
  | cons file rest ih =>
    by_cases later : l ∈ rest.map (·.1)
    · obtain ⟨front, content, back, rfl, last⟩ := ih later
      exact ⟨file :: front, content, back, rfl, last⟩
    · obtain rfl : l = file.1 := (List.mem_cons.mp mem).resolve_right later
      exact ⟨[], file.2, rest, rfl, later⟩

/-- A file is wherever one was written. -/
theorem exists_file (free : d.node? l ≠ some .directory) (mem : l ∈ files.map (·.1)) :
    ∃ content, (d.writeAll files).node? l = some (.file content) := by
  obtain ⟨front, content, back, split, last⟩ := exists_last mem
  exact ⟨content, node?_writeAll free split last⟩

/-- Files written once more change nothing. -/
theorem writeAll_again (d : Disk) (files : List (Location × List UInt8)) :
    (d.writeAll files).writeAll files = d.writeAll files := by
  induction files generalizing d with
  | nil => rfl
  | cons file rest ih =>
    have known : file.1 ∈ keys ((d.put file.1 (.file file.2)).writeAll rest).nodes :=
      mem_keys_writeAll (mem_keys_put.mpr (.inl rfl))
    rw [writeAll_cons, writeAll_cons]
    by_cases later : file.1 ∈ rest.map (·.1)
    · rw [writeAll_put later known, ih]
    · have there : get? file.1 ((d.put file.1 (.file file.2)).writeAll rest).nodes = some (.file file.2) := by
        rw [get?_writeAll later]
        exact get?_put_self ..
      rw [put, put_of_get? there]
      exact ih _

end Disk

end TypeForward
