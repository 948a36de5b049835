import TypeForward.Proofs.Pass.Cancellation

/-! What a pass logs. All of it is for debugging but for the event that closes the pass, which is a warning if the
signal stopped the emission. A stop that is heard before leaves nothing to emit most of the time, and then nobody is
warned. -/
namespace TypeForward
variable {σ : Type}
open Record

/-- Events that are for debugging only. -/
def Event.AllDebug (events : List Event) : Prop :=
  ∀ e ∈ events, e.level = .debug

theorem Event.AllDebug.append {events more : List Event} (first : AllDebug events) (second : AllDebug more) :
    AllDebug (events ++ more) := by
  intro e mem
  rcases List.mem_append.mp mem with mem | mem
  · exact first e mem
  · exact second e mem

/-- No event is above a warning. -/
private theorem Event.level_of_ne_warning {e : Event} (h : e.level ≠ .warning) : e.level = .debug := by
  cases hl : e.level with
  | debug => rfl
  | warning => exact absurd hl h

namespace Progress

/-- From one state to the other only debug events were logged. -/
def Debugged (s s' : Progress σ) : Prop :=
  ∃ events, s'.log = s.log ++ events ∧ Event.AllDebug events

variable {s s' s'' : Progress σ} {m : Metadata σ} {t : Token σ}

theorem Debugged.refl (s : Progress σ) : Debugged s s :=
  ⟨[], by simp, by simp [Event.AllDebug]⟩

theorem Debugged.trans (first : Debugged s s') (second : Debugged s' s'') : Debugged s s'' := by
  obtain ⟨events, same, debug⟩ := first
  obtain ⟨more, same', debug'⟩ := second
  exact ⟨events ++ more, by rw [same', same, List.append_assoc], debug.append debug'⟩

theorem Debugged.note {e : Event} (past : Debugged s s') (debug : e.level = .debug) : Debugged s (s'.note e) := by
  obtain ⟨events, same, all⟩ := past
  refine ⟨events ++ [e], ?_, all.append (by simpa [Event.AllDebug] using debug)⟩
  rw [Progress.note, same, List.append_assoc]

theorem Debugged.poll {stop : Except Fault Bool} (past : Debugged s s') (h : s'.poll t = (stop, s'')) :
    Debugged s s'' := by
  cases h
  exact past

theorem Debugged.atLeast {threshold : Value} {answer : Except Fault Bool} (past : Debugged s s')
    (h : s'.atLeast m threshold = (answer, s'')) : Debugged s s'' := by
  cases h
  exact past

theorem Debugged.defines {name : Value} {answer : Except Fault Bool} (past : Debugged s s')
    (h : s'.defines m name = (answer, s'')) : Debugged s s'' := by
  cases h
  exact past

end Progress

namespace Availability
open Progress

private theorem lookUp_debugged (m : Metadata σ) (t : Token σ) (names : List Value) (s : Progress σ) :
    Debugged s (lookUp m t names s).2 := by
  induction names generalizing s with
  | nil => exact .refl s
  | cons name rest ih =>
    rcases hp : s.poll t with ⟨stop, s₁⟩
    have polled := (Debugged.refl s).poll hp
    simp only [lookUp, hp]
    rcases stop with fault | _ | _
    · exact polled
    · rcases hd : s₁.defines m name with ⟨answer, s₂⟩
      have asked := polled.defines hd
      simp only [hd]
      rcases answer with fault | _ | _
      · exact asked
      · exact (asked.note rfl).trans (ih _)
      · exact asked.trans (ih s₂)
    · exact polled.note rfl

private theorem resolve_debugged (m : Metadata σ) (t : Token σ) (threshold candidates : Value) (s : Progress σ) :
    Debugged s (resolve m t threshold candidates s).2 := by
  rcases hv : s.atLeast m threshold with ⟨answer, s₁⟩
  have asked := (Debugged.refl s).atLeast hv
  simp only [resolve, hv]
  rcases answer with fault | _ | _
  · exact asked
  · exact asked.note rfl
  · cases candidates.elements? with
    | none => exact asked
    | some names => exact asked.trans (lookUp_debugged m t names s₁)

/-- Where all polls say to stop, nothing is resolved. -/
theorem Resolved.nothing {threshold : Value} {names found : List Value} {seen : Record}
    (resolved : Resolved threshold names seen (.ok found)) (stopped : ∀ stop, .poll stop ∈ seen → stop = .ok true) :
    found = [] := by
  generalize h : Except.ok found = result at resolved
  cases resolved with
  | unanswered => cases h
  | below => cases h; rfl
  | walked looked =>
    cases looked with
    | unpolled | unanswered => cases h
    | done | stopped => cases h; rfl
    | present | absent => cases stopped _ (List.mem_cons_of_mem _ List.mem_cons_self)

end Availability

open Progress in
private theorem Cache.getOrResolve_debugged (c : Cache) (key threshold : Value) (m : Metadata σ) (t : Token σ)
    (s : Progress σ) : Debugged s (c.getOrResolve key threshold m t s).2.2 := by
  unfold getOrResolve
  rcases c.lookUp key threshold with fault | _ | names
  · exact .refl s
  · have resolved := ((Debugged.refl s).note (e := .cacheMiss key threshold) rfl).trans
      (Availability.resolve_debugged m t threshold Availability.registry _)
    rcases hr : Availability.resolve m t threshold Availability.registry (s.note (.cacheMiss key threshold))
      with ⟨fault | names, s₁⟩
    · rw [hr] at resolved
      exact resolved
    · rw [hr] at resolved
      rcases hp : s₁.poll t with ⟨fault | _ | _, s₂⟩
      · simp only [hp]
        exact resolved.poll hp
      · simp only [hp]
        cases c.insert key threshold names <;> exact resolved.poll hp
      · simp only [hp]
        exact resolved.poll hp
  · exact (Debugged.refl s).note rfl

namespace Outlet

/-- A sink has nothing to warn of. -/
private theorem add_debug {o o' : Outlet} {name : String} {text : SourceText} {events : List Event}
    (h : o.add name text = (.ok events, o')) : Event.AllDebug events := by
  unfold add at h
  split at h
  · cases h
  · split at h
    · cases h
    · cases h
      simp [Event.AllDebug]
    · split at h
      · unfold write at h
        split at h
        · cases h
        · split at h <;> cases h
          simp [Event.AllDebug, Event.level]
      · cases h

private theorem emit_debug {o o' : Outlet} {name : Value} {artifact : Artifact} {events : List Event}
    (h : o.emit name = (.ok (artifact, events), o')) : Event.AllDebug events := by
  obtain ⟨-, -, before, added, rfl⟩ := emit_ok h
  exact (add_debug added).append (by simp [Event.AllDebug, Event.level])

end Outlet

namespace Pass
open Progress

variable {p : Pass σ} {s s' : State σ}

private theorem available_debugged (p : Pass σ) (s : State σ) : Debugged s.progress (p.available s).2.progress := by
  rcases s with ⟨progress, cache, outlet, asked⟩
  rcases cache with _ | c
  · exact Availability.resolve_debugged p.metadata p.token p.threshold Availability.registry progress
  · exact c.getOrResolve_debugged p.key p.threshold p.metadata p.token progress

private theorem emitAll_debugged (t : Token σ) (names : List Value) (s : State σ) :
    Debugged s.progress (emitAll t names s).2.progress := by
  induction names generalizing s with
  | nil => exact .refl s.progress
  | cons name rest ih =>
    rcases hp : s.progress.poll t with ⟨stop, progress⟩
    have polled := (Debugged.refl s.progress).poll hp
    simp only [emitAll, hp]
    rcases stop with fault | _ | _
    · exact polled
    · rcases he : s.outlet.emit name with ⟨fault | ⟨artifact, events⟩, outlet⟩
      · exact polled
      · have logged : Debugged progress { progress with log := progress.log ++ events } :=
          ⟨events, rfl, Outlet.emit_debug he⟩
        exact (polled.trans logged).trans (ih _)
    · exact polled

/-- An emission with a result was cancelled if a poll said to stop, and then it did not make everything. -/
private theorem Emitted.cancelled_iff {chosen : List Value} {o outlet : Outlet} {seen : Record}
    {result : Except Fault Emission}
    (emitted : Emitted chosen o seen result outlet) {e : Emission} (h : result = .ok e) :
    (e.cancelled = true ↔ .poll (.ok true) ∈ seen) ∧ (e.cancelled = true ↔ e.made.length < chosen.length) := by
  induction emitted generalizing e with
  | unpolled | refused => cases h
  | done => cases h; simp
  | stopped => cases h; simp
  | added _ _ ih =>
    obtain ⟨e', rfl, rfl⟩ := ok_of_map h
    simpa using ih rfl

/-- The log of a pass that succeeds: debug events, and a last one that is a warning if not all that was selected was
made. -/
private theorem log_of_run {made : List Artifact} (h : p.run s = (.ok made, s')) :
    ∃ events e available, s'.progress.log = s.progress.log ++ events ++ [closing e available (p.chosen s).length] ∧
      Event.AllDebug events ∧ e.made = made ∧ (e.cancelled = true ↔ made.length < (p.chosen s).length) := by
  unfold run at h
  split at h
  · cases h
  rcases ha : p.available s with ⟨fault | names, s₁⟩
  · rw [ha] at h
    cases h
  rcases hs : Selection.select p.selector p.options names with ⟨fault | chosen, asked⟩
  · simp only [ha, select, hs] at h
    cases h
  simp only [ha, select, hs] at h
  let s₂ : State σ := ⟨s₁.progress.note (.selected chosen.length names.length), s₁.cache, s₁.outlet, s₁.asked ++ asked⟩
  rcases he : emitAll p.token chosen s₂ with ⟨fault | e, s₃⟩
  · rw [he] at h
    cases h
  rw [he] at h
  cases h
  obtain ⟨_, -, -, emitted, -, -⟩ := emitAll_observed p.metadata p.token chosen s₂ []
  have found := p.available_debugged s
  have emission := emitAll_debugged p.token chosen s₂
  rw [ha] at found
  rw [he] at emission emitted
  obtain ⟨events, logged, debug⟩ := (found.note rfl).trans emission
  rw [chosen_of_select (congrArg Prod.fst ha) hs]
  refine ⟨events, e, names.length, ?_, debug, rfl, (emitted.cancelled_iff rfl).2⟩
  exact congrArg (· ++ [closing e names.length chosen.length]) logged

/-- The parts of a pass that succeeds, with its own selection. -/
private theorem Ran.emission_of_ok {seen : Record} {result : Except Fault (List Artifact)} {cache : Option Cache}
    {outlet : Outlet} {asked : List Value} (ran : p.Ran s seen result cache outlet asked) {made : List Artifact}
    (h : result = .ok made) :
    ∃ before more names e, seen = before ++ more ∧ p.Found s.cache before (.ok names) cache ∧
      Selection.select p.selector p.options names = (.ok (p.chosen s), asked.drop s.asked.length) ∧
      Emitted (p.chosen s) s.outlet more (.ok e) outlet ∧ e.made = made := by
  cases ran with
  | unpaired | unavailable | unselected => cases h
  | @emitted before more names chosen _ result _ _ _ ha found hs emitted =>
    obtain ⟨e, rfl, same⟩ := ok_of_map h
    rw [chosen_of_select ha hs]
    exact ⟨before, more, names, e, rfl, found, by simpa using hs, emitted, same⟩

/-- With a one-way signal something that was selected is left out exactly if a poll said to stop and there was
anything to make. -/
private theorem Emitted.short_iff {chosen : List Value} {o outlet : Outlet} {before more : Record} {e : Emission}
    (emitted : Emitted chosen o more (.ok e) outlet) (oneWay : OneWay (before ++ more)) :
    e.made.length < chosen.length ↔ .poll (.ok true) ∈ before ++ more ∧ chosen ≠ [] := by
  obtain ⟨heard, short⟩ := emitted.cancelled_iff rfl
  rw [← short, heard]
  constructor
  · intro stopped
    refine ⟨List.mem_append_right _ stopped, ?_⟩
    rintro rfl
    exact absurd (short.mp (heard.mpr stopped)) (Nat.not_lt_zero _)
  · rintro ⟨stopped, some⟩
    rcases List.mem_append.mp stopped with before | later
    · have later : ∀ stop, .poll stop ∈ more → stop = .ok true := fun stop said =>
        (List.pairwise_append.mp oneWay).2.2 _ before _ said rfl stop rfl
      generalize he : Except.ok e = result at emitted
      cases emitted with
      | done => exact absurd rfl some
      | unpolled | refused => cases he
      | stopped => exact List.mem_cons_self
      | added => cases later _ List.mem_cons_self
    · exact later

/-- Where nothing is stored and all polls say to stop, nothing is available. -/
theorem Found.nothing {cache : Option Cache} {seen : Record} {names : List Value}
    (found : p.Found s.cache seen (.ok names) cache)
    (missed : ∀ c, s.cache = some c → c.lookUp p.key p.threshold = .ok none)
    (stopped : ∀ stop, .poll stop ∈ seen → stop = .ok true) : names = [] := by
  generalize before : s.cache = start at found
  cases found with
  | resolved resolved => exact resolved.nothing stopped
  | cached obtained =>
    cases obtained with
    | hit hit => rw [missed _ before] at hit; cases hit
    | dropped _ resolved | stored _ resolved =>
      exact resolved.nothing fun stop said => stopped stop (List.mem_append_left _ said)

/-- What a pass that succeeds with a one-way signal logs, if the questions may set it. A warning is logged exactly if a
poll said to stop and something was selected; it then says how much of that was made. So a pass that is told to stop
is reported exactly if something was selected, and one that is stopped from the start never is unless its
availability is stored. Without a warning all is for debugging. -/
theorem run_warned_iff (p : Pass σ) (s : State σ) (oneWay : p.token.IsOneWay p.metadata s.progress.host)
    {made : List Artifact} {s' : State σ} (h : p.run s = (.ok made, s')) :
    ∃ logged, s'.progress.log = s.progress.log ++ logged ∧
      let stopped := Observation.poll (.ok true) ∈ p.observations s
      let warned := ∃ e ∈ logged, e.level = .warning
      (warned ↔ stopped ∧ p.chosen s ≠ []) ∧ ((warned ↔ stopped) ↔ (stopped → p.chosen s ≠ [])) ∧
      (warned → .passCancelled made.length (p.chosen s).length ∈ logged) ∧
      (¬ warned → ∀ e ∈ logged, e.level = .debug) ∧
      (p.token.Stops s.progress.host → (∀ c, s.cache = some c → c.lookUp p.key p.threshold = .ok none) →
        ¬ warned) := by
  obtain ⟨events, e, available, logged, debug, rfl, cancelled⟩ := log_of_run h
  obtain ⟨-, talk, ran⟩ := p.run_observed s
  obtain ⟨before, more, names, e', record, found, select, emitted, same⟩ := ran.emission_of_ok (congrArg Prod.fst h)
  have closes : (closing e available (p.chosen s).length).level = .warning ↔ e.cancelled = true := by
    unfold closing
    cases e.cancelled <;> simp [Event.level]
  have warned : (∃ x ∈ events ++ [closing e available (p.chosen s).length], x.level = .warning) ↔
      .poll (.ok true) ∈ p.observations s ∧ p.chosen s ≠ [] := by
    have short := emitted.short_iff (record ▸ oneWay.record talk)
    rw [record, ← short, same, ← cancelled, ← closes]
    constructor
    · rintro ⟨x, mem, level⟩
      rcases List.mem_append.mp mem with mem | mem
      · rw [debug x mem] at level
        cases level
      · rwa [List.mem_singleton.mp mem] at level
    · intro level
      exact ⟨_, List.mem_append_right _ List.mem_cons_self, level⟩
  have whole := logged.trans (List.append_assoc ..)
  refine ⟨events ++ [closing e available (p.chosen s).length], whole, warned, ?_, ?_, ?_, ?_⟩
  · rw [warned]
    constructor
    · intro both stopped
      exact (both.mpr stopped).2
    · intro some
      exact ⟨And.left, fun stopped => ⟨stopped, some stopped⟩⟩
  · intro some
    obtain ⟨stopped, chosen⟩ := warned.mp some
    have short : e.cancelled = true := by
      rw [cancelled, ← same]
      exact (emitted.short_iff (record ▸ oneWay.record talk)).mpr ⟨record ▸ stopped, chosen⟩
    refine List.mem_append_right _ ?_
    rw [closing, if_pos short]
    exact List.mem_cons_self
  · intro none x mem
    refine Event.level_of_ne_warning fun level => none ⟨x, mem, level⟩
  · intro stops missed some
    have stopped := oneWay (.done _) stops talk
    obtain rfl := found.nothing missed fun stop said => stopped stop (record ▸ List.mem_append_left _ said)
    have chosen : p.chosen s = [] := (Except.ok.inj (congrArg Prod.fst select)).symm
    exact (warned.mp some).2 chosen

/-- A pass that four polls tell to go on has made one of three forwards, and says so. -/
theorem run_warned_countdown :
    let c : CoreLibrary := ⟨.csharp8, Candidates.all.map .text⟩
    let p : Pass Nat := ⟨c.metadata, .countdown, ⟨false, true, [], []⟩, Selection.byLists,
      Availability.defaultThreshold, .none⟩
    let s : State Nat := ⟨⟨4, []⟩, none, ⟨.memory [], .fresh⟩, []⟩
    (p.run s).1 = .ok [Artifact.forName (.text Candidates.index)] ∧
      Event.passCancelled 1 3 ∈ (p.run s).2.progress.log := by
  intro c p s
  have h : p.run s = (.ok [Artifact.forName (.text Candidates.index)], (p.run s).2) := rfl
  obtain ⟨logged, same, warned, -, counts, -, -⟩ := p.run_warned_iff s (Token.isOneWay_countdown c 4) h
  have stopped : .poll (.ok true) ∈ p.observations s :=
    List.mem_of_getElem? (show (p.observations s)[8]? = some (.poll (.ok true)) from rfl)
  have chosen : p.chosen s = Candidates.all.map .text := rfl
  refine ⟨rfl, ?_⟩
  rw [same]
  exact List.mem_append_right _ (counts (warned.mpr ⟨stopped, by simp [chosen, Candidates.all]⟩))

/-- A pass that is stopped from the start: it hears so, makes nothing and warns nobody. -/
theorem unwarned_of_stopped :
    let c : CoreLibrary := ⟨.csharp8, Candidates.all.map .text⟩
    let p : Pass Nat := ⟨c.metadata, .countdown, ⟨false, true, [], []⟩, Selection.byLists,
      Availability.defaultThreshold, .none⟩
    let s : State Nat := ⟨⟨0, []⟩, none, ⟨.memory [], .fresh⟩, []⟩
    p.token.IsOneWay p.metadata s.progress.host ∧ (p.run s).1 = .ok [] ∧ .poll (.ok true) ∈ p.observations s ∧
      ¬ ∃ e ∈ (p.run s).2.progress.log, e.level = .warning := by
  intro c p s
  refine ⟨Token.isOneWay_countdown c 0, rfl, ?_, ?_⟩
  · rw [show p.observations s = [.version p.threshold (.ok true), .poll (.ok true)] from rfl]
    simp
  · rw [show (p.run s).2.progress.log = [.resolutionCancelled (.text Candidates.index), .selected 0 0,
      .passFinished 0 0] from rfl]
    simp [Event.level]

end Pass

end TypeForward
