import TypeForward.Disk.Basic

/-! Making directories, and opening files in them. Where directories could be made their path leads, and it goes on to
lead there as long as all of them stay: to make them again changes nothing. -/
namespace TypeForward.Disk

variable {d d' d'' : Disk} {l l' place : Location} {n : Node} {name : String} {found : Option Node} {root : FilePath}

/-- What a look-up of a name came to: a double point leads up, and any other name where it leads. -/
theorem look_ok (looked : d.look l name = .ok (place, found)) :
    (name = ".." ∧ place = l.parent ∧ found = some .directory) ∨
      (name ≠ ".." ∧ isTooLong name = false ∧ d.lead (l.child name) = .ok place ∧ found = d.node? place) := by
  unfold look at looked
  split at looked
  · next up =>
    cases looked
    exact .inl ⟨up, rfl, rfl⟩
  · next up =>
    split at looked
    · cases looked
    · next fits =>
      cases leads : d.lead (l.child name) with
      | error o =>
        rw [leads] at looked
        cases looked
      | ok target =>
        rw [leads] at looked
        cases looked
        exact .inr ⟨up, by simpa using fits, rfl, rfl⟩

theorem look_of_lead (up : name ≠ "..") (fits : isTooLong name = false) (leads : d.lead (l.child name) = .ok place) :
    d.look l name = .ok (place, d.node? place) := by
  rw [look, if_neg up, fits, leads]
  rfl

/-- A name that is no link leads to the place with that name. -/
theorem lead_of_unlinked (unlinked : Entries.get? l d.links = none) : d.lead l = .ok l := by
  rw [lead, target?, unlinked]
  exact if_pos (.inl rfl)

theorem node?_put_directory (d : Disk) (l : Location) : (d.put l .directory).node? l = some .directory := by
  unfold node?
  split
  · rfl
  · exact Entries.get?_put_self l .directory d.nodes

/-- One disk has the links and the directories of the other. -/
structure Keeps (d d' : Disk) : Prop where
  here : d'.here = d.here
  links : d'.links = d.links
  directories : ∀ place, d.node? place = some .directory → d'.node? place = some .directory

theorem Keeps.refl (d : Disk) : d.Keeps d := ⟨rfl, rfl, fun _ => id⟩

theorem Keeps.trans (keeps : d.Keeps d') (keeps' : d'.Keeps d'') : d.Keeps d'' :=
  ⟨keeps'.here.trans keeps.here, keeps'.links.trans keeps.links,
    fun place was => keeps'.directories place (keeps.directories place was)⟩

/-- No directory is lost where there was none, or where one is put. -/
theorem Keeps.put (fine : d.node? place ≠ some .directory ∨ n = .directory) : d.Keeps (d.put place n) := by
  refine ⟨rfl, rfl, ?_⟩
  intro other was
  by_cases own : other = place
  · subst own
    rcases fine with free | rfl
    · exact absurd was free
    · exact node?_put_directory d other
  · rw [node?_put_of_ne d own, was]

/-- A name leads to the same place as long as all directories stay. -/
theorem Keeps.lead (keeps : d.Keeps d') (leads : d.lead l = .ok place) : d'.lead l = .ok place := by
  have same : d'.target? l = d.target? l := by rw [target?, target?, keeps.links]
  unfold Disk.lead at leads ⊢
  rw [same]
  split at leads
  · cases leads
  · next target stands =>
    split at leads
    · next reached =>
      rw [if_pos (reached.imp_right (keeps.directories _)), leads]
    · cases leads

theorem Keeps.look (keeps : d.Keeps d') (looked : d.look l name = .ok (place, some .directory)) :
    d'.look l name = .ok (place, some .directory) := by
  rcases look_ok looked with ⟨rfl, rfl, -⟩ | ⟨up, fits, leads, there⟩
  · rfl
  · rw [look_of_lead up fits (keeps.lead leads), keeps.directories place there.symm]

/-- Following names in two parts. -/
theorem walk_append_ok {front back : List String} {r : Location × Node} :
    d.walk l n (front ++ back) = .ok r ↔ ∃ l' n', d.walk l n front = .ok (l', n') ∧ d.walk l' n' back = .ok r := by
  induction front generalizing l n with
  | nil =>
    constructor
    · intro leads
      exact ⟨l, n, rfl, leads⟩
    · rintro ⟨_, _, here, leads⟩
      cases here
      exact leads
  | cons next rest ih =>
    cases n with
    | file content =>
      constructor
      · nofun
      · rintro ⟨_, _, here, -⟩
        cases here
    | directory =>
      simp only [List.cons_append, walk]
      rcases d.look l next with obstacle | ⟨place, _ | m⟩
      · simp
      · simp
      · exact ih

/-- One name is followed to what is there. -/
theorem walk_single : d.walk l .directory [name] = .ok (place, n) ↔ d.look l name = .ok (place, some n) := by
  rw [walk]
  rcases d.look l name with obstacle | ⟨target, _ | m⟩ <;> simp [walk]

/-- What a path to a directory meets on its way are directories, so it leads there while they stay. -/
theorem Keeps.walk {names : List String} (keeps : d.Keeps d') (leads : d.walk l n names = .ok (l', .directory)) :
    d'.walk l n names = .ok (l', .directory) := by
  induction names generalizing l n with
  | nil => exact leads
  | cons next rest ih =>
    cases n with
    | file content => cases leads
    | directory =>
      rw [Disk.walk] at leads ⊢
      rcases looked : d.look l next with obstacle | ⟨target, _ | _ | content⟩
      · rw [looked] at leads
        cases leads
      · rw [looked] at leads
        cases leads
      · rw [looked] at leads
        rw [keeps.look looked]
        exact ih leads
      · rw [looked] at leads
        cases rest <;> cases leads

/-- A directory is made in a directory, and is then where its name leads. -/
theorem makeAt_ok (made : d.makeAt l n name = (.ok l', d')) :
    n = .directory ∧ d.Keeps d' ∧ d'.walk l n [name] = .ok (l', .directory) := by
  cases n with
  | file content => cases made
  | directory =>
    rw [makeAt] at made
    rw [walk_single]
    split at made
    · next looked =>
      cases made
      exact ⟨rfl, .refl d, looked⟩
    · next place looked =>
      split at made
      · next own =>
        cases made
        rcases look_ok looked with ⟨-, -, there⟩ | ⟨up, fits, leads, -⟩
        · cases there
        · refine ⟨rfl, .put (.inr rfl), ?_⟩
          rw [look_of_lead up fits ((Keeps.put (.inr rfl)).lead leads), node?_put_directory]
      · cases made
    · cases made
    · cases made

/-- Making a directory that is there changes nothing. -/
private theorem makeAt_of_walk (leads : d.walk l n [name] = .ok (l', .directory)) :
    d.makeAt l n name = (.ok l', d) := by
  cases n with
  | file content => cases leads
  | directory => rw [makeAt, walk_single.mp leads]

theorem makeReversed_ok {start : Location} {reversed : List String}
    (made : d.makeReversed start reversed = (.ok l, d')) :
    d.Keeps d' ∧ d'.walk start .directory reversed.reverse = .ok (l, .directory) := by
  induction reversed generalizing l d' with
  | nil =>
    cases made
    exact ⟨.refl d, rfl⟩
  | cons name ancestors ih =>
    -- Whether the ancestors were there or had to be made, the last directory is made where they lead.
    have last {e : Disk} {l' : Location} {n : Node} (kept : d.Keeps e)
        (leads : e.walk start .directory ancestors.reverse = .ok (l', n)) (made : e.makeAt l' n name = (.ok l, d')) :
        d.Keeps d' ∧ d'.walk start .directory (name :: ancestors).reverse = .ok (l, .directory) := by
      obtain ⟨rfl, keeps, below⟩ := makeAt_ok made
      refine ⟨kept.trans keeps, ?_⟩
      rw [List.reverse_cons, walk_append_ok]
      exact ⟨l', .directory, keeps.walk leads, below⟩
    rw [makeReversed] at made
    split at made
    · next leads => exact last (.refl d) leads made
    · split at made
      · cases made
      · next ancestorsMade =>
        obtain ⟨kept, leads⟩ := ih ancestorsMade
        exact last kept leads made
    · cases made

private theorem makeReversed_of_walk {start : Location} {reversed : List String}
    (leads : d.walk start .directory reversed.reverse = .ok (l, .directory)) :
    d.makeReversed start reversed = (.ok l, d) := by
  cases reversed with
  | nil =>
    cases leads
    rfl
  | cons name ancestors =>
    rw [List.reverse_cons, walk_append_ok] at leads
    obtain ⟨l', n, leads, below⟩ := leads
    rw [makeReversed, leads]
    exact makeAt_of_walk below

/-- A path leads to a directory at a place. -/
structure LeadsTo (d : Disk) (p : FilePath) (l : Location) : Prop where
  plain : p.hasNul = false
  fits : p.isTooLong = false
  walk : d.walk (d.startOf p) .directory p.names = .ok (l, .directory)

theorem startOf_eq (same : d'.here = d.here) (p : FilePath) : d'.startOf p = d.startOf p := by
  unfold startOf
  split
  · rfl
  · exact same

theorem LeadsTo.of_keeps {p : FilePath} (leads : d.LeadsTo p l) (keeps : d.Keeps d') : d'.LeadsTo p l :=
  ⟨leads.plain, leads.fits, startOf_eq keeps.here p ▸ keeps.walk leads.walk⟩

/-- The path of a directory that was made leads to it. -/
theorem makeDirectories_ok {p : FilePath} (made : d.makeDirectories p = (.ok l, d')) : d'.LeadsTo p l := by
  rw [makeDirectories] at made
  split at made
  · cases made
  · next plain =>
    split at made
    · cases made
    · next fits =>
      obtain ⟨keeps, leads⟩ := makeReversed_ok made
      rw [List.reverse_reverse] at leads
      exact ⟨by simpa using plain, by simpa using fits, startOf_eq keeps.here p ▸ leads⟩

/-- Making a directory that the path leads to changes nothing. -/
theorem LeadsTo.makeDirectories {p : FilePath} (leads : d.LeadsTo p l) : d.makeDirectories p = (.ok l, d) := by
  rw [Disk.makeDirectories, leads.plain, leads.fits]
  exact makeReversed_of_walk (by rw [List.reverse_reverse]; exact leads.walk)

theorem hasNul_child {p : FilePath} (plain : p.hasNul = false) (nul : name.toList.contains '\x00' = false) :
    (p.child name).hasNul = false := by
  rw [FilePath.hasNul] at plain ⊢
  rw [FilePath.child, List.any_append, plain, List.any_cons, nul]
  rfl

/-- What lies in a directory is found under its path. -/
theorem LeadsTo.find {p : FilePath} (leads : d.LeadsTo p l) (short : (p.child name).isTooLong = false)
    (looked : d.look l name = .ok (place, some n)) : d.find (p.child name) = .ok (place, n) := by
  rw [Disk.find, short]
  exact walk_append_ok.mpr ⟨l, .directory, leads.walk, walk_single.mpr looked⟩

/-- A name in the directory that a path leads to is one of a place where a file can be written. -/
structure Opens (d : Disk) (root : FilePath) (l : Location) (name : String) (place : Location) : Prop where
  leads : d.LeadsTo root l
  plain : (root.child name).hasNul = false
  short : (root.child name).isTooLong = false
  fits : isTooLong name = false
  up : name ≠ ".."
  lead : d.lead (l.child name) = .ok place
  free : d.node? place ≠ some .directory

theorem Opens.look (opens : d.Opens root l name place) : d.look l name = .ok (place, d.node? place) :=
  look_of_lead opens.up opens.fits opens.lead

theorem Opens.openIn (opens : d.Opens root l name place) : d.openIn root name = (.ok place, d) := by
  rw [Disk.openIn, entryIn, opens.leads.makeDirectories]
  simp only [entry, opens.plain, opens.short, opens.look]
  cases there : d.node? place with
  | none => rfl
  | some n => cases n with
    | directory => exact absurd there opens.free
    | file content => rfl

/-- What lies there is found under its path. -/
theorem Opens.find (opens : d.Opens root l name place) (there : d.node? place = some n) :
    d.find (root.child name) = .ok (place, n) :=
  opens.leads.find opens.short (there ▸ opens.look)

/-- It can be opened as long as all directories stay and none is put there. -/
theorem Opens.of_keeps (opens : d.Opens root l name place) (keeps : d.Keeps d')
    (free : d'.node? place ≠ some .directory) : d'.Opens root l name place :=
  ⟨opens.leads.of_keeps keeps, opens.plain, opens.short, opens.fits, opens.up, keeps.lead opens.lead, free⟩

/-- In a directory that was made before a file is opened as in one that is made now. -/
theorem openIn_of_made {p : FilePath} (made : d.makeDirectories p = (.ok l, d')) (name : String) :
    d.openIn p name = d'.openIn p name := by
  rw [openIn, entryIn, made, openIn, entryIn, (makeDirectories_ok made).makeDirectories]

/-- A path that is too long cannot be opened, although its directory is made. -/
theorem openIn_long {p : FilePath} (made : d.makeDirectories p = (.ok l, d'))
    (nul : name.toList.contains '\x00' = false) (long : (p.child name).isTooLong = true) :
    d.openIn p name = (.error .system, d') := by
  have plain := hasNul_child (makeDirectories_ok made).plain nul
  rw [openIn, entryIn, made]
  simp only [entry, plain, long]
  rfl

/-- On an empty disk directories can be made below each other, and then nothing lies below the last. -/
private theorem makeReversed_of_empty (empty : d.nodes = []) (unlinked : d.links = []) {start : Location}
    (below : d.here.depth ≤ start.depth) (reversed : List String)
    (fine : ∀ name ∈ reversed, name ≠ ".." ∧ isTooLong name = false) :
    ∃ l d', d.makeReversed start reversed = (.ok l, d') ∧ d'.links = [] ∧
      ∀ place n, d'.node? place = some n → place.depth ≤ l.depth := by
  have nothing (place : Location) (n : Node) (there : d.node? place = some n) : place.depth ≤ start.depth := by
    unfold node? at there
    rw [empty] at there
    split at there
    · next above =>
      have above : place.depth ≤ d.here.depth := by
        simp only [Location.isAbove, Bool.and_eq_true, decide_eq_true_eq] at above
        exact above.1
      exact Nat.le_trans above below
    · cases there
  induction reversed with
  | nil => exact ⟨start, d, rfl, unlinked, nothing⟩
  | cons name ancestors ih =>
    obtain ⟨up, fits⟩ := fine name List.mem_cons_self
    -- Below directories that reach no deeper than their last, another can be made.
    have last {e : Disk} {l : Location} (unlinked : e.links = [])
        (deepest : ∀ place n, e.node? place = some n → place.depth ≤ l.depth) :
        ∃ l' e', e.makeAt l .directory name = (.ok l', e') ∧ e'.links = [] ∧
          ∀ place n, e'.node? place = some n → place.depth ≤ l'.depth := by
      have free : e.node? (l.child name) = none := by
        rw [Option.eq_none_iff_forall_not_mem]
        intro n there
        exact Nat.not_succ_le_self l.depth (deepest _ n there)
      have leads : e.lead (l.child name) = .ok (l.child name) := lead_of_unlinked (by rw [unlinked]; rfl)
      refine ⟨l.child name, e.put (l.child name) .directory, ?_, unlinked, ?_⟩
      · rw [makeAt, look_of_lead up fits leads, free]
        simp
      · intro place n there
        by_cases own : place = l.child name
        · subst own
          exact Nat.le_refl _
        · rw [node?_put_of_ne e own] at there
          exact Nat.le_succ_of_le (deepest place n there)
    rw [makeReversed]
    cases way : ancestors.reverse with
    | nil => exact last unlinked nothing
    | cons first rest =>
      have mem : first ∈ ancestors := List.mem_reverse.mp (way ▸ List.mem_cons_self)
      obtain ⟨up', fits'⟩ := fine first (List.mem_cons_of_mem _ mem)
      have leads : d.lead (start.child first) = .ok (start.child first) := lead_of_unlinked (by rw [unlinked]; rfl)
      have free : d.node? (start.child first) = none := by
        rw [Option.eq_none_iff_forall_not_mem]
        intro n there
        exact Nat.not_succ_le_self start.depth (nothing _ n there)
      have missing : d.walk start .directory (first :: rest) = .error .missing := by
        rw [Disk.walk, look_of_lead up' fits' leads, free]
      obtain ⟨l, e, made, unlinked, deepest⟩ := ih fun name mem => fine name (List.mem_cons_of_mem _ mem)
      rw [missing, made]
      exact last unlinked deepest

/-- Where the program runs on an empty disk, the directories of any path can be made that is not too long, and the last
one is empty. -/
theorem makeDirectories_of_empty (empty : d.nodes = []) (unlinked : d.links = []) {p : FilePath} (own : p.start = .here)
    (plain : p.hasNul = false) (short : p.isTooLong = false)
    (fine : ∀ name ∈ p.names, name ≠ ".." ∧ isTooLong name = false) :
    ∃ l d', d.makeDirectories p = (.ok l, d') ∧ d'.links = [] ∧ ∀ name, d'.node? (l.child name) = none := by
  have start : d.startOf p = d.here := by rw [startOf, own]
  obtain ⟨l, d', made, unlinked', deepest⟩ := makeReversed_of_empty empty unlinked
    (Nat.le_of_eq (congrArg Location.depth start.symm)) p.names.reverse
    fun name mem => fine name (List.mem_reverse.mp mem)
  refine ⟨l, d', by rw [makeDirectories, plain, short]; exact made, unlinked', ?_⟩
  intro name
  rw [Option.eq_none_iff_forall_not_mem]
  intro n there
  exact Nat.not_succ_le_self l.depth (deepest _ n there)

end TypeForward.Disk
