import TypeForward.Proofs.Pass.Resolution

/-! What the emission of selected names leaves behind. In memory the sources come in the order of the names, and the
polls decide where the emission ends; a sink elsewhere gets the same whenever no poll stops the emission. -/
namespace TypeForward

/-- A source as a sink in memory keeps it. -/
def Artifact.entry (a : Artifact) : String × SourceText :=
  (a.hintName, .text a.sourceText)

/-- Different types have different hint names. -/
theorem Artifact.nodup_hintNames {names : List String} (distinct : names.Nodup) :
    ((names.map .text).map hintNameOf).Nodup := by
  rw [List.map_map]
  exact List.Pairwise.map _ (fun _ _ ne same => ne (hintNameOf_text_inj.mp same)) distinct

theorem Artifact.render_of_isPrintable {name : Value} (printable : name.isPrintable = true) :
    render name = .ok (forName name) :=
  if_pos printable

namespace Outlet

variable {sources : List (String × SourceText)} {disk : Disk} {name : Value}

/-- A name that cannot be written has no forward, and nothing is registered. -/
theorem emit_of_not_isPrintable (unprintable : name.isPrintable = false) (o : Outlet) :
    o.emit name = (.error .badValue, o) := by
  rw [emit, Artifact.render, unprintable]
  rfl

/-- What is emitted is the forward of a name that can be written, registered under its hint name. -/
theorem emit_ok {artifact : Artifact} {events : List Event} {o o' : Outlet}
    (h : o.emit name = (.ok (artifact, events), o')) :
    name.isPrintable = true ∧ artifact = Artifact.forName name ∧ ∃ before,
      o.add artifact.hintName (.text artifact.sourceText) = (.ok before, o') ∧
        events = before ++ [.emitted artifact.hintName] := by
  cases printable : name.isPrintable with
  | false =>
    rw [emit_of_not_isPrintable printable] at h
    cases h
  | true =>
    rw [emit, Artifact.render_of_isPrintable printable] at h
    rcases added : o.add (Artifact.hintNameOf name) (.text (Artifact.sourceTextOf name)) with ⟨fault | before, o₁⟩
    · simp [added] at h
    · simp only [Artifact.forName_hintName, Artifact.forName_sourceText, added] at h
      cases h
      exact ⟨rfl, rfl, before, added, rfl⟩

/-- In memory only a name that is there already is refused, or one that cannot be written. -/
theorem emit_memory (printable : name.isPrintable = true) (fresh : Artifact.hintNameOf name ∉ sources.map (·.1)) :
    (⟨.memory sources, disk⟩ : Outlet).emit name =
      (.ok (Artifact.forName name, [.emitted (Artifact.hintNameOf name)]),
        ⟨.memory (sources ++ [(Artifact.forName name).entry]), disk⟩) := by
  simp [emit, Artifact.render_of_isPrintable printable, add, Sink.names, Artifact.entry, fresh]

theorem emit_memory_ok {artifact : Artifact} {events : List Event} {o : Outlet}
    (h : (⟨.memory sources, disk⟩ : Outlet).emit name = (.ok (artifact, events), o)) :
    name.isPrintable = true ∧ artifact = Artifact.forName name ∧
      o = ⟨.memory (sources ++ [artifact.entry]), disk⟩ := by
  cases printable : name.isPrintable with
  | false =>
    rw [emit_of_not_isPrintable printable] at h
    cases h
  | true =>
    by_cases fresh : Artifact.hintNameOf name ∈ sources.map (·.1)
    · simp [emit, Artifact.render_of_isPrintable printable, add, Sink.names, fresh] at h
    · rw [emit_memory printable fresh] at h
      cases h
      exact ⟨rfl, rfl, rfl⟩

end Outlet

namespace Pass
open Record

variable {chosen : List Value} {o outlet : Outlet} {seen : Record} {result : Except Fault Emission}

/-- In memory an emission that succeeds registers what it made and nothing else, and it made a front part of what
was selected. -/
theorem Emitted.memory (emitted : Emitted chosen o seen result outlet) {sources : List (String × SourceText)}
    {disk : Disk} (start : o = ⟨.memory sources, disk⟩) {e : Emission} (h : result = .ok e) :
    e.made <+: chosen.map Artifact.forName ∧ outlet = ⟨.memory (sources ++ e.made.map Artifact.entry), disk⟩ := by
  induction emitted generalizing sources e with
  | unpolled | refused => cases h
  | done =>
    cases h
    exact ⟨List.prefix_refl _, by simpa using start⟩
  | stopped =>
    cases h
    exact ⟨List.nil_prefix, by simpa using start⟩
  | added he _ ih =>
    subst start
    obtain ⟨-, rfl, rfl⟩ := Outlet.emit_memory_ok he
    obtain ⟨e', rfl, rfl⟩ := ok_of_map h
    obtain ⟨front, after⟩ := ih rfl rfl
    exact ⟨(List.prefix_cons_inj _).mpr front, by simpa using after⟩

/-- An emission that nobody stops makes everything, if all names can be written and no hint name is taken before its
turn. -/
theorem Emitted.whole (emitted : Emitted chosen o seen result outlet) {sources : List (String × SourceText)}
    {disk : Disk} (start : o = ⟨.memory sources, disk⟩) (quiet : Quiet seen)
    (printable : ∀ name ∈ chosen, name.isPrintable = true) (distinct : (chosen.map Artifact.hintNameOf).Nodup)
    (fresh : ∀ name ∈ chosen, Artifact.hintNameOf name ∉ sources.map (·.1)) :
    result = .ok ⟨chosen.map Artifact.forName, false⟩ := by
  induction emitted generalizing sources with
  | done => rfl
  | unpolled | stopped => cases quiet.head
  | refused rest he =>
    subst start
    rw [Outlet.emit_memory (printable _ List.mem_cons_self) (fresh _ List.mem_cons_self)] at he
    cases he
  | @added name rest _ _ _ _ _ _ _ he _ ih =>
    subst start
    obtain ⟨-, rfl, rfl⟩ := Outlet.emit_memory_ok he
    obtain ⟨new, distinct⟩ := List.nodup_cons.mp distinct
    have later : ∀ other ∈ rest, Artifact.hintNameOf other ∉
        (sources ++ [(Artifact.forName name).entry]).map (·.1) := by
      intro other mem known
      rcases List.mem_append.mp (List.map_append ▸ known) with known | known
      · exact fresh other (List.mem_cons_of_mem _ mem) known
      · have same : Artifact.hintNameOf other = Artifact.hintNameOf name := by simpa [Artifact.entry] using known
        exact new (List.mem_map.mpr ⟨other, mem, same⟩)
    rw [ih rfl quiet.tail (fun other mem => printable other (List.mem_cons_of_mem _ mem)) distinct later]
    rfl

/-- Two emissions of the same names to the same outlet that nobody stops come to the same. -/
theorem Emitted.unique (emitted : Emitted chosen o seen result outlet) {other : Record}
    {result' : Except Fault Emission} {outlet' : Outlet} (emitted' : Emitted chosen o other result' outlet')
    (quiet : Quiet seen) (quiet' : Quiet other) : result = result' ∧ outlet = outlet' := by
  induction emitted generalizing other result' outlet' with
  | done => cases emitted'; exact ⟨rfl, rfl⟩
  | unpolled | stopped => cases quiet.head
  | refused _ he =>
    cases emitted' with
    | unpolled | stopped => cases quiet'.head
    | refused _ he' => cases he.symm.trans he'; exact ⟨rfl, rfl⟩
    | added he' => cases he.symm.trans he'
  | added he _ ih =>
    cases emitted' with
    | unpolled | stopped => cases quiet'.head
    | refused _ he' => cases he.symm.trans he'
    | added he' emitted' =>
      cases he.symm.trans he'
      obtain ⟨rfl, rfl⟩ := ih emitted' quiet.tail quiet'.tail
      exact ⟨rfl, rfl⟩

/-- One poll before each name: what is made is counted by the polls that said to go on. -/
theorem Emitted.counted (emitted : Emitted chosen o seen result outlet) {e : Emission} (h : result = .ok e) {n : Nat}
    (allows : Allows n seen) : e.made.length = min chosen.length n := by
  induction emitted generalizing n e with
  | unpolled | refused => cases h
  | done => cases h; simp
  | stopped =>
    cases h
    have spent : n = 0 := by simpa using (allows_poll.mp allows).1
    simp [spent]
  | added _ _ ih =>
    obtain ⟨e', rfl, rfl⟩ := ok_of_map h
    obtain ⟨left, allows⟩ := allows_poll.mp allows
    have left : n ≠ 0 := by simpa using left
    have count := ih rfl allows
    simp only [List.length_cons, count]
    omega

/-- An emission that is stopped at its first poll does nothing. -/
theorem Emitted.nothing (emitted : Emitted chosen o seen result outlet)
    (stopped : ∀ stop, .poll stop ∈ seen → stop = .ok true) :
    outlet = o ∧ ∀ e, result = .ok e → e.made = [] := by
  cases emitted with
  | done | stopped => exact ⟨rfl, fun e h => by cases h; rfl⟩
  | unpolled | refused | added => cases stopped _ List.mem_cons_self

/-- Two passes that nobody stops come to the same if they have the same available, select alike and start from the
same outlet. -/
theorem Ran.unique {σ : Type} {p q : Pass σ} {s s' : State σ} {seen other : Record}
    {result result' : Except Fault (List Artifact)} {cache cache' : Option Cache} {outlet outlet' : Outlet}
    {asked asked' : List Value} (ran : p.Ran s seen result cache outlet asked)
    (ran' : q.Ran s' other result' cache' outlet' asked') (paired : p.isPaired s = true)
    (paired' : q.isPaired s' = true) (available : (p.available s).1 = (q.available s').1)
    (select : Selection.select p.selector p.options = Selection.select q.selector q.options)
    (start : s.outlet = s'.outlet) (before : s.asked = s'.asked) (quiet : Quiet seen) (quiet' : Quiet other) :
    result = result' ∧ outlet = outlet' ∧ asked = asked' := by
  cases ran with
  | unpaired h => rw [paired] at h; cases h
  | unavailable _ ha _ =>
    cases ran' with
    | unpaired h => rw [paired'] at h; cases h
    | unavailable _ ha' _ =>
      cases (ha.symm.trans available).trans ha'
      exact ⟨rfl, start, before⟩
    | unselected _ ha' _ _ | emitted _ ha' _ _ _ => cases (ha.symm.trans available).trans ha'
  | unselected _ ha _ hs =>
    cases ran' with
    | unpaired h => rw [paired'] at h; cases h
    | unavailable _ ha' _ => cases (ha.symm.trans available).trans ha'
    | unselected _ ha' _ hs' =>
      cases (ha.symm.trans available).trans ha'
      cases (hs.symm.trans (congrFun select _)).trans hs'
      exact ⟨rfl, start, by rw [before]⟩
    | emitted _ ha' _ hs' _ =>
      cases (ha.symm.trans available).trans ha'
      cases (hs.symm.trans (congrFun select _)).trans hs'
  | emitted _ ha _ hs emitted =>
    cases ran' with
    | unpaired h => rw [paired'] at h; cases h
    | unavailable _ ha' _ => cases (ha.symm.trans available).trans ha'
    | unselected _ ha' _ hs' =>
      cases (ha.symm.trans available).trans ha'
      cases (hs.symm.trans (congrFun select _)).trans hs'
    | emitted _ ha' _ hs' emitted' =>
      cases (ha.symm.trans available).trans ha'
      cases (hs.symm.trans (congrFun select _)).trans hs'
      obtain ⟨rfl, rfl⟩ := emitted.unique (start ▸ emitted') (quiet_append.mp quiet).2 (quiet_append.mp quiet').2
      exact ⟨rfl, rfl, by rw [before]⟩

end Pass

end TypeForward
