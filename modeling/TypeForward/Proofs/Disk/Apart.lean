import TypeForward.Proofs.Disk.Confinement

/-! Two disks that are the same apart from one place, where neither has a directory. A path that comes to this place
ends there or leads nowhere, so the two stay the same apart from it whatever is written or taken away on both. -/
namespace TypeForward

namespace Entries

variable {κ α : Type} [DecidableEq κ] {key other : κ} {value : α} {entries : List (κ × α)}

/-- The entries that are not for a key. -/
def without (key : κ) (entries : List (κ × α)) : List (κ × α) :=
  entries.filter fun entry => decide (entry.1 ≠ key)

private theorem without_cons_self (value : α) (entries : List (κ × α)) :
    without key ((key, value) :: entries) = without key entries := by
  simp [without]

private theorem without_cons_of_ne (h : other ≠ key) (value : α) (entries : List (κ × α)) :
    without key ((other, value) :: entries) = (other, value) :: without key entries := by
  simp [without, h]

private theorem get?_without (h : other ≠ key) : get? other (without key entries) = get? other entries := by
  induction entries with
  | nil => rfl
  | cons entry rest ih =>
    by_cases own : entry.1 = key
    · obtain rfl := own
      rw [without_cons_self, ih, get?, if_neg (Ne.symm h)]
    · rw [without_cons_of_ne own, get?, get?, ih]

private theorem without_put_self (key : κ) (value : α) (entries : List (κ × α)) :
    without key (put key value entries) = without key entries := by
  induction entries with
  | nil => simp [put, without]
  | cons entry rest ih =>
    by_cases own : entry.1 = key
    · obtain rfl := own
      rw [put, if_pos rfl, without_cons_self, without_cons_self]
    · rw [put, if_neg own, without_cons_of_ne own, without_cons_of_ne own, ih]

private theorem without_put_of_ne (h : other ≠ key) (value : α) (entries : List (κ × α)) :
    without key (put other value entries) = put other value (without key entries) := by
  induction entries with
  | nil => simp [put, without, h]
  | cons entry rest ih =>
    by_cases own : entry.1 = other
    · obtain rfl := own
      rw [put, if_pos rfl, without_cons_of_ne h, without_cons_of_ne h, put, if_pos rfl]
    · by_cases hk : entry.1 = key
      · obtain rfl := hk
        rw [put, if_neg own, without_cons_self, without_cons_self, ih]
      · rw [put, if_neg own, without_cons_of_ne hk, without_cons_of_ne hk, put, if_neg own, ih]

private theorem without_erase_self (key : κ) (entries : List (κ × α)) :
    without key (erase key entries) = without key entries := by
  induction entries with
  | nil => rfl
  | cons entry rest ih =>
    by_cases own : entry.1 = key
    · obtain rfl := own
      rw [erase, if_pos rfl, without_cons_self]
    · rw [erase, if_neg own, without_cons_of_ne own, without_cons_of_ne own, ih]

private theorem without_erase_of_ne (h : other ≠ key) (entries : List (κ × α)) :
    without key (erase other entries) = erase other (without key entries) := by
  induction entries with
  | nil => rfl
  | cons entry rest ih =>
    by_cases own : entry.1 = other
    · obtain rfl := own
      rw [erase, if_pos rfl, without_cons_of_ne h, erase, if_pos rfl]
    · by_cases hk : entry.1 = key
      · obtain rfl := hk
        rw [erase, if_neg own, without_cons_self, without_cons_self, ih]
      · rw [erase, if_neg own, without_cons_of_ne hk, without_cons_of_ne hk, erase, if_neg own, ih]

end Entries

namespace Disk
open Entries

variable {d d' d'' : Disk} {e l l' start : Location} {name : String} {names back : List String} {path : String}

/-- Two disks with the same links, and with the same nodes apart from those at one place. -/
structure SameApart (e : Location) (d d' : Disk) : Prop where
  here : d'.here = d.here
  links : d'.links = d.links
  nodes : without e d'.nodes = without e d.nodes

/-- There is no directory at a place. -/
def IsPlainAt (d : Disk) (e : Location) : Prop :=
  d.node? e ≠ some .directory

instance (d : Disk) (e : Location) : Decidable (d.IsPlainAt e) :=
  inferInstanceAs (Decidable (d.node? e ≠ some .directory))

theorem IsPlainAt.of_keeps (plain : d'.IsPlainAt e) (keeps : d.Keeps d') : d.IsPlainAt e :=
  fun there => plain (keeps.directories e there)

theorem IsPlainAt.cases (plain : d.IsPlainAt e) : d.node? e = none ∨ ∃ content, d.node? e = some (.file content) := by
  cases there : d.node? e with
  | none => exact .inl rfl
  | some n => cases n with
    | directory => exact absurd there plain
    | file content => exact .inr ⟨content, rfl⟩

namespace SameApart

theorem refl (e : Location) (d : Disk) : SameApart e d d := ⟨rfl, rfl, rfl⟩

theorem symm (same : SameApart e d d') : SameApart e d' d := ⟨same.here.symm, same.links.symm, same.nodes.symm⟩

theorem trans (same : SameApart e d d') (same' : SameApart e d' d'') : SameApart e d d'' :=
  ⟨same'.here.trans same.here, same'.links.trans same.links, same'.nodes.trans same.nodes⟩

private theorem node?_eq (same : SameApart e d d') (h : l' ≠ e) : d'.node? l' = d.node? l' := by
  rw [node?, node?, same.here, ← get?_without h, same.nodes, get?_without h]

/-- A name leads to the same place on both disks. -/
private theorem lead_eq (same : SameApart e d d') (plain : d.IsPlainAt e) (plain' : d'.IsPlainAt e) (l : Location) :
    d'.lead l = d.lead l := by
  have directory (place : Location) : d'.node? place = some .directory ↔ d.node? place = some .directory := by
    by_cases own : place = e
    · subst own
      exact ⟨fun there => absurd there plain', fun there => absurd there plain⟩
    · rw [same.node?_eq own]
  simp only [lead, target?, same.links, directory]

/-- A name is found to be the same on both disks, unless it leads to the place where they differ. -/
private theorem look_cases (same : SameApart e d d') (plain : d.IsPlainAt e) (plain' : d'.IsPlainAt e) (l : Location)
    (name : String) : d'.look l name = d.look l name ∨
      (d.look l name = .ok (e, d.node? e) ∧ d'.look l name = .ok (e, d'.node? e)) := by
  unfold look
  rw [same.lead_eq plain plain']
  split
  · exact .inl rfl
  · split
    · exact .inl rfl
    · cases d.lead (l.child name) with
      | error obstacle => exact .inl rfl
      | ok place =>
        by_cases own : place = e
        · subst own
          exact .inr ⟨rfl, rfl⟩
        · exact .inl (by rw [Except.map, Except.map, same.node?_eq own])

/-- The same node put on both. At the place itself it may be another. -/
theorem put (same : SameApart e d d') (l : Location) (n : Node) : SameApart e (d.put l n) (d'.put l n) := by
  refine ⟨same.here, same.links, ?_⟩
  by_cases own : l = e
  · subst own
    rw [Disk.put, Disk.put, without_put_self, without_put_self, same.nodes]
  · rw [Disk.put, Disk.put, without_put_of_ne own, without_put_of_ne own, same.nodes]

private theorem put_self (e : Location) (d : Disk) (n : Node) : SameApart e d (d.put e n) :=
  ⟨rfl, rfl, without_put_self e n d.nodes⟩

theorem erase (same : SameApart e d d') (l : Location) :
    SameApart e { d with nodes := Entries.erase l d.nodes } { d' with nodes := Entries.erase l d'.nodes } := by
  refine ⟨same.here, same.links, ?_⟩
  by_cases own : l = e
  · subst own
    rw [without_erase_self, without_erase_self, same.nodes]
  · rw [without_erase_of_ne own, without_erase_of_ne own, same.nodes]

private theorem erase_self (e : Location) (d : Disk) : SameApart e d { d with nodes := Entries.erase e d.nodes } :=
  ⟨rfl, rfl, without_erase_self e d.nodes⟩

end SameApart

/-- Names followed from a directory come to a place, where these are left. -/
inductive Meets (d : Disk) (e : Location) : Location → List String → List String → Prop
  | here {l : Location} {name : String} {back : List String} : d.look l name = .ok (e, d.node? e) →
      Meets d e l (name :: back) back
  | on {l k : Location} {name : String} {rest back : List String} : d.look l name = .ok (k, some .directory) →
      Meets d e k rest back → Meets d e l (name :: rest) back

namespace Meets

theorem append (meets : Meets d e l names back) (more : List String) : Meets d e l (names ++ more) (back ++ more) := by
  induction meets with
  | here looked => exact .here looked
  | on looked _ ih => exact .on looked ih

/-- What leads to a place on one disk leads to it on the other. -/
private theorem of_same (meets : Meets d e l names back) (same : SameApart e d d') (plain : d.IsPlainAt e)
    (plain' : d'.IsPlainAt e) : Meets d' e l names back := by
  induction meets with
  | @here l name _ looked =>
    rcases same.look_cases plain plain' l name with alike | ⟨-, there⟩
    · rcases look_ok looked with ⟨-, -, there⟩ | ⟨up, fits, leads, -⟩
      · exact absurd there plain
      · exact .here (look_of_lead up fits ((same.lead_eq plain plain' _).trans leads))
    · exact .here there
  | @on l _ name _ _ looked _ ih =>
    rcases same.look_cases plain plain' l name with alike | ⟨there, -⟩
    · exact .on (alike.trans looked) ih
    · have found := Except.ok.inj (looked.symm.trans there)
      exact absurd (congrArg Prod.snd found).symm plain

/-- Beyond the place all depends on what is there. -/
private theorem walk_eq (meets : Meets d e l names back) :
    d.walk l .directory names = match d.node? e with
      | none => .error .missing
      | some n => d.walk e n back := by
  induction meets with
  | here looked =>
    rw [walk, looked]
    cases d.node? e <;> rfl
  | on looked _ ih =>
    rw [walk, looked]
    exact ih

/-- The way comes to the place before its last name or with it. -/
theorem of_append (meets : Meets d e l (names ++ [name]) back) :
    (∃ left, Meets d e l names left) ∨
      ∃ k, d.walk l .directory names = .ok (k, .directory) ∧ d.look k name = .ok (e, d.node? e) := by
  induction names generalizing l with
  | nil =>
    cases meets with
    | here looked => exact .inr ⟨l, rfl, looked⟩
    | on _ nothing => cases nothing
  | cons first rest ih =>
    cases meets with
    | here looked => exact .inl ⟨rest, .here looked⟩
    | on looked meets =>
      rcases ih meets with ⟨left, meets⟩ | ⟨k, leads, last⟩
      · exact .inl ⟨left, .on looked meets⟩
      · exact .inr ⟨k, by rw [walk, looked]; exact leads, last⟩

end Meets

/-- Names lead to the same on both disks, unless they come to the place where these differ. -/
private theorem SameApart.walk_eq_or_meets (same : SameApart e d d') (plain : d.IsPlainAt e) (plain' : d'.IsPlainAt e)
    (l : Location) (names : List String) :
    d'.walk l .directory names = d.walk l .directory names ∨ ∃ back, Meets d e l names back := by
  induction names generalizing l with
  | nil => exact .inl rfl
  | cons name rest ih =>
    rcases same.look_cases plain plain' l name with alike | ⟨there, -⟩
    · rw [walk, walk, alike]
      rcases looked : d.look l name with obstacle | ⟨k, _ | _ | content⟩
      · exact .inl rfl
      · exact .inl rfl
      · rcases ih k with leads | ⟨back, meets⟩
        · exact .inl leads
        · exact .inr ⟨back, .on looked meets⟩
      · cases rest <;> exact .inl rfl
    · exact .inr ⟨rest, .here there⟩

private theorem makeAt_keeps (d : Disk) (l : Location) (n : Node) (name : String) : d.Keeps (d.makeAt l n name).2 := by
  rcases makeAt_cases d l n name with same | ⟨-, made⟩
  · rw [same]
    exact .refl d
  · rw [made]
    exact .put (.inr rfl)

/-- On a way that comes to a place where there is no directory, and where none is made, none can be made at all. -/
theorem Meets.makeReversed {reversed : List String} (meets : Meets d e start reversed.reverse back)
    (plain : (d.makeReversed start reversed).2.IsPlainAt e) :
    ∃ fault, d.makeReversed start reversed = (.error fault, d) := by
  induction reversed generalizing back with
  | nil => cases meets
  | cons name ancestors ih =>
    have before : d.IsPlainAt e := plain.of_keeps (makeReversed_made d start (name :: ancestors)).keeps
    rw [List.reverse_cons] at meets
    rcases meets.of_append with ⟨left, meets⟩ | ⟨k, leads, looked⟩
    · rcases before.cases with free | ⟨content, there⟩
      · have missing : d.walk start .directory ancestors.reverse = .error .missing := by rw [meets.walk_eq, free]
        have ancestorsPlain : (d.makeReversed start ancestors).2.IsPlainAt e := by
          revert plain
          rw [Disk.makeReversed, missing]
          rcases d.makeReversed start ancestors with ⟨_ | l, d₁⟩
          · exact id
          · exact fun plain => plain.of_keeps (makeAt_keeps d₁ l .directory name)
        obtain ⟨fault, failed⟩ := ih meets ancestorsPlain
        exact ⟨fault, by rw [Disk.makeReversed, missing, failed]⟩
      · -- There is a file, beyond which nothing can be made.
        rw [Disk.makeReversed, meets.walk_eq, there]
        cases left <;> exact ⟨_, rfl⟩
    · rw [Disk.makeReversed, leads] at plain ⊢
      simp only [Disk.makeAt, looked] at plain ⊢
      rcases before.cases with free | ⟨content, there⟩
      · rw [free] at plain ⊢
        by_cases own : e = k.child name
        · simp only [if_pos own] at plain
          exact absurd (node?_put_directory d e) plain
        · exact ⟨.fileExists, by simp only [if_neg own]⟩
      · rw [there]
        exact ⟨.fileExists, rfl⟩

/-- Making one directory comes to the same on both disks, if none is made at the place where they differ. -/
theorem SameApart.makeAt (same : SameApart e d d') (l : Location) (n : Node) (name : String)
    (plain : (d.makeAt l n name).2.IsPlainAt e) (plain' : (d'.makeAt l n name).2.IsPlainAt e) :
    (d'.makeAt l n name).1 = (d.makeAt l n name).1 ∧ SameApart e (d.makeAt l n name).2 (d'.makeAt l n name).2 := by
  have before := plain.of_keeps (makeAt_keeps d l n name)
  have before' := plain'.of_keeps (makeAt_keeps d' l n name)
  cases n with
  | file content => exact ⟨rfl, same⟩
  | directory =>
    rcases same.look_cases before before' l name with alike | ⟨looked, looked'⟩
    · rw [Disk.makeAt, Disk.makeAt, alike]
      rcases d.look l name with (_ | _ | _ | _) | ⟨place, _ | _ | content⟩
      · exact ⟨rfl, same⟩
      · exact ⟨rfl, same⟩
      · exact ⟨rfl, same⟩
      · exact ⟨rfl, same⟩
      · dsimp only
        split
        · exact ⟨rfl, same.put place .directory⟩
        · exact ⟨rfl, same⟩
      · exact ⟨rfl, same⟩
      · exact ⟨rfl, same⟩
    · -- The way ends at the place, so that neither is made.
      have failed {d : Disk} (before : d.IsPlainAt e) (looked : d.look l name = .ok (e, d.node? e))
          (plain : (d.makeAt l .directory name).2.IsPlainAt e) :
          d.makeAt l .directory name = (.error .fileExists, d) := by
        rw [Disk.makeAt, looked] at plain ⊢
        rcases before.cases with free | ⟨content, there⟩
        · rw [free] at plain ⊢
          by_cases own : e = l.child name
          · simp only [if_pos own] at plain
            exact absurd (node?_put_directory d e) plain
          · simp only [if_neg own]
        · rw [there]
      rw [failed before looked plain, failed before' looked' plain']
      exact ⟨rfl, same⟩

/-- Directories can be made on both disks or on neither, if none is made at the place where they differ. -/
theorem SameApart.makeReversed (same : SameApart e d d') (start : Location) (reversed : List String)
    (plain : (d.makeReversed start reversed).2.IsPlainAt e) (plain' : (d'.makeReversed start reversed).2.IsPlainAt e) :
    (d'.makeReversed start reversed).1.toOption = (d.makeReversed start reversed).1.toOption ∧
      SameApart e (d.makeReversed start reversed).2 (d'.makeReversed start reversed).2 := by
  induction reversed with
  | nil => exact ⟨rfl, same⟩
  | cons name ancestors ih =>
    have before := plain.of_keeps (makeReversed_made d start (name :: ancestors)).keeps
    have before' := plain'.of_keeps (makeReversed_made d' start (name :: ancestors)).keeps
    rcases same.walk_eq_or_meets before before' start ancestors.reverse with leads | ⟨back, meets⟩
    · revert plain plain'
      rw [Disk.makeReversed, Disk.makeReversed, leads]
      rcases d.walk start .directory ancestors.reverse with (_ | _ | _ | _) | ⟨l, n⟩
      · dsimp only
        rcases made : d.makeReversed start ancestors with ⟨result, d₁⟩
        rcases made' : d'.makeReversed start ancestors with ⟨result', d₁'⟩
        rw [made, made'] at ih
        intro plain plain'
        have between : d₁.IsPlainAt e := by
          cases result with
          | error fault => exact plain
          | ok l => exact plain.of_keeps (makeAt_keeps d₁ l .directory name)
        have between' : d₁'.IsPlainAt e := by
          cases result' with
          | error fault => exact plain'
          | ok l => exact plain'.of_keeps (makeAt_keeps d₁' l .directory name)
        obtain ⟨results, same⟩ := ih between between'
        cases result with
        | error fault =>
          cases result' with
          | error fault' => exact ⟨rfl, same⟩
          | ok l => cases results
        | ok l =>
          cases result' with
          | error fault' => cases results
          | ok l' =>
            cases results
            obtain ⟨results, same⟩ := same.makeAt l .directory name plain plain'
            exact ⟨congrArg Except.toOption results, same⟩
      · exact fun _ _ => ⟨rfl, same⟩
      · exact fun _ _ => ⟨rfl, same⟩
      · exact fun _ _ => ⟨rfl, same⟩
      · intro plain plain'
        obtain ⟨results, same⟩ := same.makeAt l n name plain plain'
        exact ⟨congrArg Except.toOption results, same⟩
    · have whole : Meets d e start (name :: ancestors).reverse (back ++ [name]) := by
        rw [List.reverse_cons]
        exact meets.append [name]
      obtain ⟨fault, failed⟩ := whole.makeReversed plain
      obtain ⟨fault', failed'⟩ := (whole.of_same same before before').makeReversed plain'
      rw [failed, failed']
      exact ⟨rfl, same⟩

theorem SameApart.makeDirectories (same : SameApart e d d') (p : FilePath)
    (plain : (d.makeDirectories p).2.IsPlainAt e) (plain' : (d'.makeDirectories p).2.IsPlainAt e) :
    (d'.makeDirectories p).1.toOption = (d.makeDirectories p).1.toOption ∧
      SameApart e (d.makeDirectories p).2 (d'.makeDirectories p).2 := by
  revert plain plain'
  rw [Disk.makeDirectories, Disk.makeDirectories, startOf_eq same.here]
  split
  · exact fun _ _ => ⟨rfl, same⟩
  · split
    · exact fun _ _ => ⟨rfl, same⟩
    · exact same.makeReversed _ _

private theorem entryIn_disk (d : Disk) (directory : FilePath) (name : String) :
    (d.entryIn directory name).2 = (d.makeDirectories directory).2 := by
  rw [Disk.entryIn]
  rcases d.makeDirectories directory with ⟨_ | _, _⟩ <;> rfl

/-- The place for a node where a name leads: one where nothing is, and for a file also one where a file is. -/
def spot? : Node → Except Fault (Location × Option Node) → Option Location
  | _, .ok (l, none) => some l
  | .file _, .ok (l, some (.file _)) => some l
  | _, _ => none

/-- The disk with a node at a place, if there is a place for it. -/
def putAt (d : Disk) (spot : Option Location) (n : Node) : Disk :=
  match spot with
  | some l => d.put l n
  | none => d

private theorem place_of_nameless {p : FilePath} (last : p.names.getLast? = none) (n : Node) : (d.place p n).2 = d := by
  cases n with
  | directory => simp only [Disk.place, Disk.makeDirectory, last]
  | file content => simp only [Disk.place, Disk.writeFile, last]

/-- A node is put where its name leads, in a directory that is made unless it is there. -/
private theorem place_eq {p : FilePath} (last : p.names.getLast? = some name) (n : Node) :
    (d.place p n).2 = (d.entryIn p.parent name).2.putAt (spot? n (d.entryIn p.parent name).1) n := by
  cases n with
  | directory =>
    simp only [Disk.place, Disk.makeDirectory, last]
    rcases d.entryIn p.parent name with ⟨_ | ⟨target, _ | _ | _⟩, d₁⟩ <;> rfl
  | file content =>
    simp only [Disk.place, Disk.writeFile, last, Disk.openIn]
    rcases d.entryIn p.parent name with ⟨_ | ⟨target, _ | _ | _⟩, d₁⟩ <;> rfl

private theorem spot?_eq_some {n : Node} {entry : Except Fault (Location × Option Node)} (h : spot? n entry = some l) :
    ∃ found, entry = .ok (l, found) ∧ found ≠ some .directory := by
  rcases entry with fault | ⟨target, _ | _ | content⟩
  · cases n <;> cases h
  · cases n <;> cases h <;> exact ⟨none, rfl, by simp⟩
  · cases n <;> cases h
  · cases n <;> cases h
    exact ⟨some (.file content), rfl, by simp⟩

/-- What a name leads to is what was found there. -/
private theorem entry_ok {directory : FilePath} {found : Option Node} (h : d.entry directory l name = .ok (l', found)) :
    d.look l name = .ok (l', found) := by
  unfold Disk.entry at h
  split at h
  · cases h
  · split at h
    · cases h
    · rcases looked : d.look l name with obstacle | result
      · rw [looked] at h
        cases h
      · rw [looked] at h
        exact congrArg Except.ok (Except.ok.inj h)

/-- What a name leads to is a directory, or what lies there. -/
private theorem entryIn_ok {directory : FilePath} {found : Option Node}
    (h : (d.entryIn directory name).1 = .ok (l, found)) :
    found = some .directory ∨ found = (d.entryIn directory name).2.node? l := by
  revert h
  rw [Disk.entryIn]
  rcases d.makeDirectories directory with ⟨fault | l₁, d₁⟩
  · intro h
    cases h
  · intro (h : d₁.entry directory l₁ name = .ok (l, found))
    rcases look_ok (entry_ok h) with ⟨-, -, there⟩ | ⟨-, -, -, there⟩
    · exact .inl there
    · exact .inr there

/-- No directory is lost where a node is put. -/
private theorem place_keeps {p : FilePath} (last : p.names.getLast? = some name) (n : Node) :
    (d.entryIn p.parent name).2.Keeps (d.place p n).2 := by
  rw [place_eq last]
  cases spot : spot? n (d.entryIn p.parent name).1 with
  | none => exact .refl _
  | some target =>
    obtain ⟨found, leads, free⟩ := spot?_eq_some spot
    refine .put (.inl ?_)
    rw [← (entryIn_ok leads).resolve_left free]
    exact free

/-- Where there is a place for a node on both disks it is the same, or it is the one where they differ. -/
theorem SameApart.entryIn (same : SameApart e d d') (directory : FilePath) (name : String) (n : Node)
    (plain : (d.entryIn directory name).2.IsPlainAt e) (plain' : (d'.entryIn directory name).2.IsPlainAt e) :
    SameApart e (d.entryIn directory name).2 (d'.entryIn directory name).2 ∧
      (spot? n (d'.entryIn directory name).1 = spot? n (d.entryIn directory name).1 ∨
        ((∀ spot, spot? n (d.entryIn directory name).1 = some spot → spot = e) ∧
          ∀ spot, spot? n (d'.entryIn directory name).1 = some spot → spot = e)) := by
  rw [entryIn_disk] at plain plain'
  obtain ⟨results, same⟩ := same.makeDirectories directory plain plain'
  revert plain plain' results same
  rw [Disk.entryIn, Disk.entryIn]
  rcases d.makeDirectories directory with ⟨fault | l, d₁⟩ <;>
    rcases d'.makeDirectories directory with ⟨fault' | l', d₁'⟩
  · intro _ _ _ same
    exact ⟨same, .inl rfl⟩
  · intro _ _ results
    cases results
  · intro _ _ results
    cases results
  · intro plain plain' results same
    cases results
    refine ⟨same, ?_⟩
    rcases same.look_cases plain plain' l name with alike | ⟨looked, looked'⟩
    · left
      simp only [Disk.entry, alike]
    · right
      have own {d : Disk} (looked : d.look l name = .ok (e, d.node? e)) (spot : Location)
          (h : spot? n (d.entry directory l name) = some spot) : spot = e := by
        obtain ⟨found, leads, -⟩ := spot?_eq_some h
        cases looked.symm.trans (entry_ok leads)
        rfl
      exact ⟨own looked, own looked'⟩

/-- The place that a name stands for where the program runs, be it a link or not. -/
def namedPlace (d : Disk) (name : String) : Location :=
  (d.target? (d.here.child name)).getD (d.here.child name)

theorem namedPlace_congr (here : d'.here = d.here) (links : d'.links = d.links) (name : String) :
    d'.namedPlace name = d.namedPlace name := by
  rw [namedPlace, target?, here, links, namedPlace, target?]

/-- No node put under a path moves where a name leads. -/
theorem namedPlace_place (d : Disk) (name : String) (p : FilePath) (n : Node) :
    (d.place p n).2.namedPlace name = d.namedPlace name := by
  cases last : p.names.getLast? with
  | none => rw [place_of_nameless last]
  | some own =>
    have keeps : d.Keeps (d.place p n).2 := by
      have made := (makeDirectories_made d p.parent).keeps
      rw [← entryIn_disk d p.parent own] at made
      exact made.trans (place_keeps last n)
    exact namedPlace_congr keeps.here keeps.links name

private theorem SameApart.putAt (same : SameApart e d d') (spot : Option Location) (n : Node) :
    SameApart e (d.putAt spot n) (d'.putAt spot n) := by
  cases spot with
  | none => exact same
  | some target => exact same.put target n

private theorem putAt_sameApart {spot : Option Location} (own : ∀ l, spot = some l → l = e) (n : Node) :
    SameApart e d (d.putAt spot n) := by
  cases spot with
  | none => exact .refl e d
  | some target =>
    obtain rfl := own target rfl
    exact .put_self target d n

/-- A node put under a path on both disks leaves them the same apart from the place where they differ, if there is no
directory there afterwards. -/
theorem SameApart.place (same : SameApart e d d') (p : FilePath) (n : Node) (plain : (d.place p n).2.IsPlainAt e)
    (plain' : (d'.place p n).2.IsPlainAt e) : SameApart e (d.place p n).2 (d'.place p n).2 := by
  cases last : p.names.getLast? with
  | none =>
    rw [place_of_nameless last, place_of_nameless last]
    exact same
  | some name =>
    have before := plain.of_keeps (place_keeps last n)
    have before' := plain'.of_keeps (place_keeps last n)
    obtain ⟨same, spots⟩ := same.entryIn p.parent name n before before'
    rw [place_eq last, place_eq last]
    rcases spots with alike | ⟨own, own'⟩
    · rw [alike]
      exact same.putAt _ n
    · exact ((putAt_sameApart own n).symm.trans same).trans (putAt_sameApart own' n)

/-- A path leads to a file at a place, or nowhere. -/
inductive StopsAt (d : Disk) (e : Location) (p : FilePath) : Prop
  | file {content : List UInt8} : d.find p = .ok (e, .file content) → StopsAt d e p
  | missing : d.find p = .error .missing → StopsAt d e p
  | beyond : d.find p = .error .notADirectory → StopsAt d e p

private theorem StopsAt.place_eq {p : FilePath} (stops : d.StopsAt e p) {r : Location × Node}
    (leads : d.find p = .ok r) : r.1 = e := by
  rcases stops with found | found | found <;> cases found.symm.trans leads
  rfl

private theorem Meets.stopsAt {p : FilePath} (meets : Meets d e (d.startOf p) p.names back) (plain : d.IsPlainAt e)
    (fits : p.isTooLong = false) : d.StopsAt e p := by
  have found : d.find p = match d.node? e with
      | none => .error .missing
      | some n => d.walk e n back := by
    rw [find, fits, ← meets.walk_eq]
    rfl
  rcases plain.cases with there | ⟨content, there⟩
  · exact .missing (by rw [found, there])
  · cases back with
    | nil => exact .file (by rw [found, there]; rfl)
    | cons name rest => exact .beyond (by rw [found, there]; rfl)

/-- A path leads to the same on both disks, or it comes to the place where they differ and no further. -/
theorem SameApart.find_cases (same : SameApart e d d') (plain : d.IsPlainAt e) (plain' : d'.IsPlainAt e)
    (p : FilePath) : d'.find p = d.find p ∨ (d.StopsAt e p ∧ d'.StopsAt e p) := by
  cases fits : p.isTooLong with
  | true => exact .inl (by rw [find, find, fits]; rfl)
  | false =>
    rcases same.walk_eq_or_meets plain plain' (d.startOf p) p.names with leads | ⟨back, meets⟩
    · rw [← startOf_eq same.here] at leads
      exact .inl (by rw [find, find, fits, leads, startOf_eq same.here])
    · have meets' := meets.of_same same plain plain'
      rw [← startOf_eq same.here] at meets'
      exact .inr ⟨meets.stopsAt plain fits, meets'.stopsAt plain' fits⟩

/-- The disk after a file was taken away, or as it was if that failed. -/
def removed (d : Disk) (path : String) : Disk :=
  (d.removeFile path).toOption.getD d

/-- Taking away changes one place, if the path leads anywhere. -/
theorem removed_cases (d : Disk) (path : String) : d.removed path = d ∨
    ∃ l n, d.find (.ofText path) = .ok (l, n) ∧ d.removed path = { d with nodes := Entries.erase l d.nodes } := by
  unfold removed removeFile
  split
  · exact .inl rfl
  · split
    · exact .inl rfl
    · split
      · exact .inl rfl
      · split
        · exact .inl rfl
        · exact .inl rfl
        · next leads =>
          split
          · exact .inl rfl
          · exact .inr ⟨_, _, leads, rfl⟩

theorem removed_sameApart (own : ∀ r, d.find (.ofText path) = .ok r → r.1 = e) : SameApart e d (d.removed path) := by
  rcases removed_cases d path with same | ⟨l, n, leads, same⟩
  · rw [same]
    exact .refl e d
  · obtain rfl : l = e := own _ leads
    rw [same]
    exact .erase_self l d

/-- What is taken away on both disks leaves them the same apart from the place where they differ. -/
theorem SameApart.removed (same : SameApart e d d') (plain : d.IsPlainAt e) (plain' : d'.IsPlainAt e) (path : String) :
    SameApart e (d.removed path) (d'.removed path) := by
  rcases same.find_cases plain plain' (.ofText path) with leads | ⟨stops, stops'⟩
  · unfold Disk.removed removeFile
    rw [leads]
    split
    · exact same
    · split
      · exact same
      · split
        · exact same
        · split
          · exact same
          · exact same
          · split
            · exact same
            · exact same.erase _
  · have taken : SameApart e d (d.removed path) := removed_sameApart fun _ => stops.place_eq
    have taken' : SameApart e d' (d'.removed path) := removed_sameApart fun _ => stops'.place_eq
    exact (taken.symm.trans same).trans taken'

end Disk

end TypeForward
