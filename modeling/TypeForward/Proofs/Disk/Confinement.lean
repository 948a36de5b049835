import TypeForward.Proofs.Disk.Directories

/-! What can change on a disk when a file is opened below a root. Missing directories are made on the way to the root,
whether the file can then be opened or not; nothing that was there is lost, and what is written is a file where a name
right below the root leads. -/
namespace TypeForward.Disk

variable {d d' d'' : Disk} {l place start : Location} {n : Node} {name : String} {way names names' : List String}
  {root : FilePath}

/-- A directory that some of the first names on a way lead to: where the way starts, an ancestor of its end, or its
end. -/
def IsOnWay (d : Disk) (start : Location) (way : List String) (place : Location) : Prop :=
  ∃ front, front <+: way ∧ d.walk start .directory front = .ok (place, .directory)

theorem IsOnWay.of_keeps (on : d.IsOnWay start way place) (keeps : d.Keeps d') : d'.IsOnWay start way place := by
  obtain ⟨front, begins, leads⟩ := on
  exact ⟨front, begins, keeps.walk leads⟩

/-- One disk comes from another by making directories on a way where nothing was. -/
structure Made (start : Location) (way : List String) (d d' : Disk) : Prop where
  here : d'.here = d.here
  links : d'.links = d.links
  changed : ∀ place, d'.node? place ≠ d.node? place →
    d.node? place = none ∧ d'.node? place = some .directory ∧ d'.IsOnWay start way place

theorem Made.refl (start : Location) (way : List String) (d : Disk) : Made start way d d :=
  ⟨rfl, rfl, fun _ differs => absurd rfl differs⟩

theorem Made.keeps (made : Made start way d d') : d.Keeps d' := by
  refine ⟨made.here, made.links, ?_⟩
  intro place was
  by_cases same : d'.node? place = d.node? place
  · rw [same, was]
  · exact (made.changed place same).2.1

theorem Made.trans (made : Made start way d d') (made' : Made start way d' d'') : Made start way d d'' := by
  refine ⟨made'.here.trans made.here, made'.links.trans made.links, ?_⟩
  intro place differs
  by_cases later : d''.node? place = d'.node? place
  · rw [later] at differs ⊢
    obtain ⟨free, there, on⟩ := made.changed place differs
    exact ⟨free, there, on.of_keeps made'.keeps⟩
  · obtain ⟨free, there, on⟩ := made'.changed place later
    refine ⟨?_, there, on⟩
    by_cases earlier : d'.node? place = d.node? place
    · rw [← earlier, free]
    · exact (made.changed place earlier).1

theorem Made.mono {longer : List String} (made : Made start way d d') (begins : way <+: longer) :
    Made start longer d d' := by
  refine ⟨made.here, made.links, ?_⟩
  intro place differs
  obtain ⟨free, there, front, first, leads⟩ := made.changed place differs
  exact ⟨free, there, front, first.trans begins, leads⟩

/-- Making one directory changes nothing, or puts a directory where nothing was. -/
theorem makeAt_cases (d : Disk) (l : Location) (n : Node) (name : String) :
    (d.makeAt l n name).2 = d ∨
      (d.node? (l.child name) = none ∧ d.makeAt l n name = (.ok (l.child name), d.put (l.child name) .directory)) := by
  cases n with
  | file content => exact .inl rfl
  | directory =>
    rw [makeAt]
    split
    · exact .inl rfl
    · next place looked =>
      split
      · next own =>
        subst own
        rcases look_ok looked with ⟨-, -, there⟩ | ⟨-, -, -, free⟩
        · cases there
        · exact .inr ⟨free.symm, rfl⟩
      · exact .inl rfl
    · exact .inl rfl
    · exact .inl rfl

/-- A directory that is made where a way leads lies on the way with its name. -/
private theorem makeAt_made (leads : d.walk start .directory way = .ok (l, n)) (name : String) :
    Made start (way ++ [name]) d (d.makeAt l n name).2 := by
  rcases makeAt_cases d l n name with same | ⟨free, made⟩
  · rw [same]
    exact .refl start _ d
  · obtain ⟨rfl, keeps, below⟩ := makeAt_ok made
    rw [made]
    refine ⟨rfl, rfl, ?_⟩
    intro place differs
    by_cases own : place = l.child name
    · subst own
      have whole : (d.put (l.child name) .directory).walk start .directory (way ++ [name]) =
          .ok (l.child name, .directory) := walk_append_ok.mpr ⟨l, .directory, keeps.walk leads, below⟩
      exact ⟨free, node?_put_directory d _, way ++ [name], List.prefix_refl _, whole⟩
    · exact absurd (node?_put_of_ne d own _) differs

/-- Also where it fails, making directories makes some on the way and does nothing else. -/
theorem makeReversed_made (d : Disk) (start : Location) (reversed : List String) :
    Made start reversed.reverse d (d.makeReversed start reversed).2 := by
  induction reversed with
  | nil => exact .refl start _ d
  | cons name ancestors ih =>
    rw [makeReversed, List.reverse_cons]
    cases leads : d.walk start .directory ancestors.reverse with
    | ok found => exact makeAt_made leads name
    | error obstacle =>
      cases obstacle with
      | notADirectory | tooLong | circle => exact .refl start _ d
      | missing =>
        rcases made : d.makeReversed start ancestors with ⟨fault | l, d₁⟩
        · rw [made] at ih
          exact ih.mono (List.prefix_append _ _)
        · rw [made] at ih
          exact (ih.mono (List.prefix_append _ _)).trans (makeAt_made (makeReversed_ok made).2 name)

theorem makeDirectories_made (d : Disk) (p : FilePath) :
    Made (d.startOf p) p.names d (d.makeDirectories p).2 := by
  rw [makeDirectories]
  split
  · exact .refl _ _ d
  · split
    · exact .refl _ _ d
    · have made := makeReversed_made d (d.startOf p) p.names.reverse
      rwa [List.reverse_reverse] at made

/-- There is one place where a path leads. -/
theorem LeadsTo.unique {p : FilePath} {l' : Location} (leads : d.LeadsTo p l) (leads' : d.LeadsTo p l') : l = l' := by
  have same := leads.walk.symm.trans leads'.walk
  cases same
  rfl

/-- How a place may have changed: a directory was made where nothing was, on the way to the root, or a file was written
where one of some names right below the root leads, where no directory was. -/
inductive Change (root : FilePath) (names : List String) (d d' : Disk) (place : Location) : Prop where
  | made (free : d.node? place = none) (there : d'.node? place = some .directory)
      (on : d'.IsOnWay (d'.startOf root) root.names place)
  | written {l : Location} {name : String} {content : List UInt8} (leads : d'.LeadsTo root l) (named : name ∈ names)
      (lead : d'.lead (l.child name) = .ok place) (free : d.node? place ≠ some .directory)
      (there : d'.node? place = some (.file content))

/-- From one disk to the other nothing has changed but directories that were missing on the way to a root, and files
where some names right below it lead. -/
structure Confined (root : FilePath) (names : List String) (d d' : Disk) : Prop where
  here : d'.here = d.here
  links : d'.links = d.links
  changed : ∀ place, d'.node? place ≠ d.node? place → Change root names d d' place

theorem Confined.refl (root : FilePath) (names : List String) (d : Disk) : Confined root names d d :=
  ⟨rfl, rfl, fun _ differs => absurd rfl differs⟩

/-- No directory is lost. -/
theorem Confined.keeps (confined : Confined root names d d') : d.Keeps d' := by
  refine ⟨confined.here, confined.links, ?_⟩
  intro place was
  by_cases same : d'.node? place = d.node? place
  · rw [same, was]
  · cases confined.changed place same with
    | made _ there _ => exact there
    | written _ _ _ free _ => exact absurd was free

theorem Confined.mono (confined : Confined root names d d') (sub : names ⊆ names') : Confined root names' d d' := by
  refine ⟨confined.here, confined.links, ?_⟩
  intro place differs
  cases confined.changed place differs with
  | made free there on => exact .made free there on
  | written leads named lead free there => exact .written leads (sub named) lead free there

theorem Change.of_keeps (change : Change root names d d' place) (keeps : d'.Keeps d'')
    (same : d''.node? place = d'.node? place) : Change root names d d'' place := by
  cases change with
  | made free there on => exact .made free (same.trans there) (startOf_eq keeps.here root ▸ on.of_keeps keeps)
  | written leads named lead free there =>
    exact .written (leads.of_keeps keeps) named (keeps.lead lead) free (same.trans there)

theorem Confined.trans (confined : Confined root names d d') (confined' : Confined root names d' d'') :
    Confined root names d d'' := by
  refine ⟨confined'.here.trans confined.here, confined'.links.trans confined.links, ?_⟩
  intro place differs
  by_cases later : d''.node? place = d'.node? place
  · exact (confined.changed place (later ▸ differs)).of_keeps confined'.keeps later
  · cases confined'.changed place later with
    | made free there on =>
      refine .made ?_ there on
      -- Where nothing is in between nothing was before, since nothing is taken away.
      by_cases earlier : d'.node? place = d.node? place
      · rw [← earlier, free]
      · cases confined.changed place earlier with
        | made _ there' _ | written _ _ _ _ there' => rw [free] at there'; cases there'
    | written leads named lead free there =>
      exact .written leads named lead (fun was => free (confined.keeps.directories place was)) there

theorem Confined.of_made (made : Made (d.startOf root) root.names d d') (names : List String) :
    Confined root names d d' := by
  refine ⟨made.here, made.links, ?_⟩
  intro place differs
  obtain ⟨free, there, on⟩ := made.changed place differs
  exact .made free there (startOf_eq made.here root ▸ on)

/-- Writing a file where a name right below the root leads. -/
theorem Confined.put (leads : d.LeadsTo root l) (lead : d.lead (l.child name) = .ok place)
    (free : d.node? place ≠ some .directory) (content : List UInt8) :
    Confined root [name] d (d.put place (.file content)) := by
  have keeps : d.Keeps (d.put place (.file content)) := .put (.inl free)
  refine ⟨rfl, rfl, ?_⟩
  intro other differs
  by_cases own : other = place
  · subst own
    exact .written (leads.of_keeps keeps) List.mem_cons_self (keeps.lead lead) free (node?_put_self free _)
  · exact absurd (node?_put_of_ne d own _) differs

/-- Where none of the names leads there are the same files with the same content. -/
theorem Confined.file_iff (confined : Confined root names d d')
    (away : ∀ l name, d'.LeadsTo root l → name ∈ names → d'.lead (l.child name) ≠ .ok place) (content : List UInt8) :
    d'.node? place = some (.file content) ↔ d.node? place = some (.file content) := by
  by_cases same : d'.node? place = d.node? place
  · rw [same]
  · cases confined.changed place same with
    | made free there _ => simp [free, there]
    | written leads named lead _ _ => exact absurd lead (away _ _ leads named)

/-- A name in a directory gives a fault or leads to a directory, or a file can be opened under it. -/
private theorem LeadsTo.entry_cases (leads : d.LeadsTo root l) (name : String) :
    (∃ fault, d.entry root l name = .error fault) ∨ (∃ place, d.entry root l name = .ok (place, some .directory)) ∨
      ∃ place, d.Opens root l name place := by
  unfold entry
  split
  · exact .inl ⟨_, rfl⟩
  · next plain =>
    split
    · exact .inl ⟨_, rfl⟩
    · next short =>
      rcases looked : d.look l name with obstacle | ⟨place, found⟩
      · exact .inl ⟨_, rfl⟩
      · by_cases free : found = some .directory
        · exact .inr (.inl ⟨place, by rw [free]; rfl⟩)
        · rcases look_ok looked with ⟨-, -, there⟩ | ⟨up, fits, lead, there⟩
          · exact absurd there free
          · exact .inr (.inr ⟨place, leads, by simpa using plain, by simpa using short, fits, up, lead, there ▸ free⟩)

/-- Opening a file makes the directories of the root, and it fails or could be done then without making any. -/
theorem openIn_cases (d : Disk) (root : FilePath) (name : String) :
    ((∃ fault, (d.openIn root name).1 = .error fault) ∧ (d.openIn root name).2 = (d.makeDirectories root).2) ∨
      ∃ l place d', d.makeDirectories root = (.ok l, d') ∧ d'.Opens root l name place ∧
        d.openIn root name = (.ok place, d') := by
  rcases made : d.makeDirectories root with ⟨fault | l, d'⟩
  · rw [openIn, entryIn, made]
    exact .inl ⟨⟨fault, rfl⟩, rfl⟩
  · rcases (makeDirectories_ok made).entry_cases name with ⟨fault, refused⟩ | ⟨place, taken⟩ | ⟨place, opens⟩
    · rw [openIn, entryIn, made]
      simp only [refused]
      exact .inl ⟨⟨fault, rfl⟩, trivial⟩
    · rw [openIn, entryIn, made]
      simp only [taken]
      exact .inl ⟨⟨_, rfl⟩, trivial⟩
    · exact .inr ⟨l, place, d', rfl, opens, (openIn_of_made made name).trans opens.openIn⟩

end TypeForward.Disk
