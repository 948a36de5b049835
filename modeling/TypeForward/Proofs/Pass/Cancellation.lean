import TypeForward.Proofs.Pass.BrokenOff
import TypeForward.Proofs.Pass.Emission

/-! What a pass comes to that is told to stop on the way, compared with the pass that nobody can stop: a front part
of it, whose length is counted by the polls that said to go on. -/
namespace TypeForward
variable {σ : Type}
open Record

/-- A request with a result was told to go on at every poll, or a poll said to stop. -/
theorem Cache.Obtained.whole_or_stopped {c c' : Cache} {key threshold : Value} {seen : Record}
    {result : Except Fault (List Value)} (obtained : c.Obtained key threshold seen result c') {names : List Value}
    (h : result = .ok names) : Quiet seen ∨ .poll (.ok true) ∈ seen := by
  cases obtained with
  | refused | failed | unpolled => cases h
  | hit => exact .inl quiet_nil
  | dropped => exact .inr (List.mem_append_right _ List.mem_cons_self)
  | stored _ resolved _ =>
    rcases resolved.whole_or_stopped rfl with quiet | ⟨stopped, -⟩
    · exact .inl (quiet_append.mpr ⟨quiet, by simp⟩)
    · exact .inr (List.mem_append_left _ stopped)

/-- On a miss there are the polls of the resolution and one more, and what is resolved is stored if all of them said
to go on. -/
theorem Cache.Obtained.counted {c c' : Cache} {key threshold : Value} {seen : Record}
    {result : Except Fault (List Value)} (obtained : c.Obtained key threshold seen result c') {names : List Value}
    (h : result = .ok names) (missed : c.lookUp key threshold = .ok none) (passes : Passes threshold seen) {n : Nat}
    (allows : Allows n seen) :
    n - (polls seen).length = n - 4 ∧
      if 4 ≤ n then Quiet seen ∧ c.insert key threshold names = .ok c' else c' = c := by
  have registry : (Candidates.all.map Value.text).length = 3 := rfl
  cases obtained with
  | refused | failed | unpolled => cases h
  | hit found => rw [missed] at found; cases found
  | @dropped seen _ _ resolved =>
    obtain ⟨before, last⟩ := allows_append.mp allows
    obtain ⟨-, count⟩ := resolved.counted passes.of_append rfl before
    have spent : n - (polls seen).length = 0 := by simpa using (allows_poll.mp last).1
    rw [registry] at count
    rw [if_neg (by omega)]
    refine ⟨?_, rfl⟩
    simp only [polls_append, List.length_append, polls_poll, polls_nil, List.length_cons, List.length_nil]
    omega
  | @stored seen _ _ _ resolved hc =>
    obtain ⟨before, last⟩ := allows_append.mp allows
    obtain ⟨whole, count⟩ := resolved.counted passes.of_append rfl before
    have left : n - (polls seen).length ≠ 0 := by simpa using (allows_poll.mp last).1
    rw [registry] at whole count
    have quiet := whole (by omega)
    cases h
    rw [if_pos (by omega)]
    refine ⟨?_, quiet_append.mpr ⟨quiet, by simp⟩, hc⟩
    simp only [polls_append, List.length_append, polls_poll, polls_nil, List.length_cons, List.length_nil]
    omega

/-- Nothing is stored when all polls say to stop. -/
theorem Cache.Obtained.unchanged {c c' : Cache} {key threshold : Value} {seen : Record}
    {result : Except Fault (List Value)} (obtained : c.Obtained key threshold seen result c')
    (stopped : ∀ stop, .poll stop ∈ seen → stop = .ok true) : c' = c := by
  cases obtained with
  | stored => cases stopped _ (List.mem_append_right _ List.mem_cons_self)
  | refused | hit | failed | unpolled | dropped => rfl

namespace Pass

/-- The same pass, which nobody can stop. -/
def unstoppable (p : Pass σ) : Pass σ :=
  { p with token := .never }

/-- The names that a pass selects; none if it does not come to that. -/
def chosen (p : Pass σ) (s : State σ) : List Value :=
  ((p.available s).1.bind fun names => (Selection.select p.selector p.options names).1).toOption.getD []

variable {p : Pass σ} {s s' : State σ}

theorem chosen_of_select {names chosen asked : List Value} (available : (p.available s).1 = .ok names)
    (select : Selection.select p.selector p.options names = (.ok chosen, asked)) : p.chosen s = chosen := by
  rw [Pass.chosen, available, Except.bind, select]
  rfl

/-- What is available was stored, or nothing is stored. -/
private theorem Found.hit_or_miss {cache cache' : Option Cache} {seen : Record} {result : Except Fault (List Value)}
    (found : p.Found cache seen result cache') {names : List Value} (h : result = .ok names) :
    (∃ c, cache = some c ∧ c.lookUp p.key p.threshold = .ok (some names)) ∨
      ∀ c, cache = some c → c.lookUp p.key p.threshold = .ok none := by
  cases found with
  | resolved =>
    right
    intro c hc
    cases hc
  | cached obtained =>
    cases obtained with
    | hit stored => cases h; exact .inl ⟨_, rfl, stored⟩
    | refused | failed | unpolled => cases h
    | dropped missed | stored missed =>
      right
      intro c hc
      cases hc
      exact missed

theorem Found.whole_or_stopped {cache cache' : Option Cache} {seen : Record} {result : Except Fault (List Value)}
    (found : p.Found cache seen result cache') {names : List Value} (h : result = .ok names) :
    Quiet seen ∨ .poll (.ok true) ∈ seen := by
  cases found with
  | resolved resolved => exact (resolved.whole_or_stopped h).imp_right And.left
  | cached obtained => exact obtained.whole_or_stopped h

/-- What is available to a pass that was not stopped by then is available to the one that nobody can stop. -/
private theorem Found.unstoppable {cache' : Option Cache} {seen : Record} {names : List Value}
    (found : p.Found s.cache seen (.ok names) cache') (quiet : Quiet seen) (paired : p.isPaired s = true)
    (same : Concordant seen (p.unstoppable.observations s)) : (p.unstoppable.available s).1 = .ok names := by
  have quiet' : Quiet (p.unstoppable.observations s) := (p.unstoppable.run_observed s).2.1.quiet_of_never
  rcases found.hit_or_miss rfl with ⟨c, hc, hit⟩ | missed
  · exact p.unstoppable.available_of_hit hc hit
  · obtain ⟨before, sub, resolved⟩ := found.of_miss missed quiet
    obtain ⟨before', sub', resolved'⟩ := p.unstoppable.resolved_of_miss paired missed quiet'
    exact (resolved.unique resolved' (quiet.mono sub) (quiet'.mono sub') (same.mono sub sub')).symm

theorem Found.unchanged {cache cache' : Option Cache} {seen : Record} {result : Except Fault (List Value)}
    (found : p.Found cache seen result cache') (stopped : ∀ stop, .poll stop ∈ seen → stop = .ok true) :
    cache' = cache := by
  cases found with
  | resolved => rfl
  | cached obtained => rw [obtained.unchanged stopped]

/-- A pass whose polls all say to stop registers and stores nothing. -/
theorem Ran.unchanged {seen : Record} {result : Except Fault (List Artifact)} {cache : Option Cache} {outlet : Outlet}
    {asked : List Value} (ran : p.Ran s seen result cache outlet asked)
    (stopped : ∀ stop, .poll stop ∈ seen → stop = .ok true) : outlet = s.outlet ∧ cache = s.cache := by
  cases ran with
  | unpaired => exact ⟨rfl, rfl⟩
  | unavailable _ _ found | unselected _ _ found _ => exact ⟨rfl, found.unchanged stopped⟩
  | emitted _ _ found _ emitted =>
    exact ⟨(emitted.nothing fun stop h => stopped stop (List.mem_append_right _ h)).1,
      found.unchanged fun stop h => stopped stop (List.mem_append_left _ h)⟩

/-- The parts of a pass that succeeds: the record of its request for available names and that of its emission, and
what it selects. -/
structure Succeeded (p : Pass σ) (s s' : State σ) (seen more : Record) (names chosen : List Value) (e : Emission) :
    Prop where
  record : p.observations s = seen ++ more
  paired : p.isPaired s = true
  found : p.Found s.cache seen (.ok names) s'.cache
  select : (Selection.select p.selector p.options names).1 = .ok chosen
  emitted : Emitted chosen s.outlet more (.ok e) s'.outlet

theorem succeeded_of_run {made : List Artifact} (h : p.run s = (.ok made, s')) :
    ∃ seen more names chosen e, Succeeded p s s' seen more names chosen e ∧ e.made = made := by
  have ran := (p.run_observed s).2.2
  rw [h] at ran
  generalize he : p.observations s = observed, hr : Except.ok made = result, hc : s'.cache = cache,
    ho : s'.outlet = outlet, s'.asked = asked at ran
  cases ran with
  | unpaired | unavailable | unselected => cases hr
  | @emitted seen more names chosen _ result _ _ paired _ found select emitted =>
    cases result with
    | error fault => cases hr
    | ok e =>
      cases hr
      exact ⟨seen, more, names, chosen, e, ⟨he, paired, hc ▸ found, by rw [select], ho ▸ emitted⟩, rfl⟩

namespace Succeeded

variable {seen more : Record} {names chosen : List Value} {e : Emission}

/-- What is selected from available names that are whole is what the pass selects that nobody can stop. -/
private theorem chosen_eq (parts : Succeeded p s s' seen more names chosen e) (quiet : Quiet seen)
    (same : Concordant (p.observations s) (p.unstoppable.observations s)) : p.unstoppable.chosen s = chosen := by
  have same : Concordant seen (p.unstoppable.observations s) :=
    same.mono (parts.record ▸ List.subset_append_left _ _) (List.Subset.refl _)
  have select : (Selection.select p.unstoppable.selector p.unstoppable.options names).1 = .ok chosen := parts.select
  rw [Pass.chosen, parts.found.unstoppable quiet parts.paired same, Except.bind, select]
  rfl

/-- After a poll that said to stop nothing is made. -/
private theorem made_of_stopped (parts : Succeeded p s s' seen more names chosen e) (oneWay : OneWay (p.observations s))
    (stopped : .poll (.ok true) ∈ seen) : e.made = [] := by
  have oneWay : OneWay (seen ++ more) := parts.record ▸ oneWay
  have later : ∀ stop, .poll stop ∈ more → stop = .ok true := fun stop hs =>
    (List.pairwise_append.mp oneWay).2.2 _ stopped _ hs rfl stop rfl
  exact (parts.emitted.nothing later).2 e rfl

/-- What is made is a front part of what the pass would make that nobody can stop. -/
theorem front (parts : Succeeded p s s' seen more names chosen e) {sources : List (String × SourceText)} {disk : Disk}
    (memory : s.outlet = ⟨.memory sources, disk⟩) (oneWay : OneWay (p.observations s))
    (same : Concordant (p.observations s) (p.unstoppable.observations s)) :
    e.made <+: (p.unstoppable.chosen s).map Artifact.forName := by
  rcases parts.found.whole_or_stopped rfl with quiet | stopped
  · rw [parts.chosen_eq quiet same]
    exact (parts.emitted.memory memory rfl).1
  · rw [parts.made_of_stopped oneWay stopped]
    exact List.nil_prefix

/-- What is made is counted by the polls that said to go on after the available names were found. -/
private theorem made_length (parts : Succeeded p s s' seen more names chosen e)
    (same : Concordant (p.observations s) (p.unstoppable.observations s)) {n : Nat} (allows : Allows n (seen ++ more))
    (whole : 0 < n - (polls seen).length → Quiet seen) :
    e.made.length = min (p.unstoppable.chosen s).length (n - (polls seen).length) := by
  have count := parts.emitted.counted rfl (allows_append.mp allows).2
  by_cases left : 0 < n - (polls seen).length
  · rw [parts.chosen_eq (whole left) same, count]
  · omega

variable (same : Concordant (p.observations s) (p.unstoppable.observations s)) {n : Nat}
  (allows : Allows n (p.observations s))

include same allows

private theorem length_of_hit (parts : Succeeded p s s' seen more names chosen e) {c : Cache} {stored : List Value}
    (hc : s.cache = some c) (hit : c.lookUp p.key p.threshold = .ok (some stored)) :
    e.made.length = min (p.unstoppable.chosen s).length n := by
  have unasked : seen = [] := by
    have found := parts.found
    generalize s'.cache = after at found
    rw [hc] at found
    cases found with
    | cached obtained =>
      cases obtained with
      | hit => rfl
      | dropped missed | stored missed => rw [hit] at missed; cases missed
  subst unasked
  exact parts.made_length same (parts.record ▸ allows) fun _ stop h => absurd h List.not_mem_nil

private theorem length_of_uncached (parts : Succeeded p s s' seen more names chosen e) (hc : s.cache = none)
    (passes : Passes p.threshold (p.observations s)) :
    e.made.length = min (p.unstoppable.chosen s).length (n - 3) := by
  have allows : Allows n (seen ++ more) := parts.record ▸ allows
  have passes : Passes p.threshold (seen ++ more) := parts.record ▸ passes
  have resolved : Availability.Resolved p.threshold (Candidates.all.map .text) seen (.ok names) := by
    have found := parts.found
    generalize s'.cache = after at found
    rw [hc] at found
    cases found with
    | resolved resolved => exact resolved
  obtain ⟨whole, count⟩ := resolved.counted passes.of_append rfl (allows_append.mp allows).1
  rw [show (Candidates.all.map Value.text).length = 3 from rfl] at whole count
  have left : n - (polls seen).length = n - 3 := by omega
  rw [parts.made_length same allows fun some => whole (by omega), left]

private theorem length_of_miss (parts : Succeeded p s s' seen more names chosen e) {c : Cache} (hc : s.cache = some c)
    (missed : c.lookUp p.key p.threshold = .ok none) (passes : Passes p.threshold (p.observations s)) :
    e.made.length = min (p.unstoppable.chosen s).length (n - 4) ∧
      if 4 ≤ n then ∃ names c', (p.unstoppable.available s).1 = .ok names ∧
        c.insert p.key p.threshold names = .ok c' ∧ s'.cache = some c'
      else s'.cache = some c := by
  have same' : Concordant seen (p.unstoppable.observations s) :=
    same.mono (parts.record ▸ List.subset_append_left _ _) (List.Subset.refl _)
  have allows : Allows n (seen ++ more) := parts.record ▸ allows
  have passes : Passes p.threshold (seen ++ more) := parts.record ▸ passes
  obtain ⟨c', after, obtained⟩ : ∃ c', s'.cache = some c' ∧ c.Obtained p.key p.threshold seen (.ok names) c' := by
    have found := parts.found
    generalize s'.cache = after at found
    rw [hc] at found
    cases found with
    | cached obtained => exact ⟨_, rfl, obtained⟩
  obtain ⟨left, stored⟩ := obtained.counted rfl missed passes.of_append (allows_append.mp allows).1
  by_cases enough : 4 ≤ n
  · rw [if_pos enough] at stored
    obtain ⟨quiet, inserted⟩ := stored
    rw [if_pos enough, parts.made_length same allows fun _ => quiet, left]
    exact ⟨rfl, names, c', parts.found.unstoppable quiet parts.paired same', inserted, after⟩
  · rw [if_neg enough] at stored
    rw [if_neg enough, parts.made_length same allows fun some => absurd some (by omega), left, after, stored]
    exact ⟨rfl, rfl⟩

end Succeeded

/-- A pass on a sink in memory with a one-way signal, which may be set by what the pass asks the compilation, makes a
front part of what the same pass makes that nobody can stop, if it succeeds; it registers what it made and nothing
else, and nothing after a poll that says to stop. A pass that is stopped from the start registers and stores nothing.
When the first `n` polls say to go on and the later ones to stop, the length of the front part is what `n` leaves after
one poll for each candidate and one more if there is a cache, or all of `n` on a hit; what a miss resolved is stored if
that poll was reached. The compilation has to answer a question alike in both passes. -/
theorem run_of_isOneWay (p : Pass σ) (s : State σ) {sources : List (String × SourceText)} {disk : Disk}
    (memory : s.outlet = ⟨.memory sources, disk⟩) (oneWay : p.token.IsOneWay p.metadata s.progress.host)
    (same : Concordant (p.observations s) (p.unstoppable.observations s)) :
    (∀ made s', p.run s = (.ok made, s') →
      made <+: (p.unstoppable.chosen s).map Artifact.forName ∧
        s'.outlet = ⟨.memory (sources ++ made.map Artifact.entry), disk⟩) ∧
    (p.brokenOff.run s).2.outlet = (p.run s).2.outlet ∧
    (p.token.Stops s.progress.host → (p.run s).2.outlet = s.outlet ∧ (p.run s).2.cache = s.cache) ∧
    ∀ n made s', Allows n (p.observations s) → p.run s = (.ok made, s') →
      (∀ c names, s.cache = some c → c.lookUp p.key p.threshold = .ok (some names) →
        made.length = min (p.unstoppable.chosen s).length n) ∧
      ((p.metadata.atLeast p.threshold s.progress.host).1 = .ok true →
        (s.cache = none → made.length = min (p.unstoppable.chosen s).length (n - 3)) ∧
        ∀ c, s.cache = some c → c.lookUp p.key p.threshold = .ok none →
          made.length = min (p.unstoppable.chosen s).length (n - 4) ∧
          if 4 ≤ n then ∃ names c', (p.unstoppable.available s).1 = .ok names ∧
            c.insert p.key p.threshold names = .ok c' ∧ s'.cache = some c'
          else s'.cache = some c) := by
  obtain ⟨-, talk, ran⟩ := p.run_observed s
  have oneWayRecord := oneWay.record talk
  refine ⟨?_, p.outlet_brokenOff s oneWay, ?_, ?_⟩
  · intro made s' h
    obtain ⟨seen, more, names, chosen, e, parts, rfl⟩ := succeeded_of_run h
    exact ⟨parts.front memory oneWayRecord same, (parts.emitted.memory memory rfl).2⟩
  · intro stops
    exact ran.unchanged (oneWay (.done _) stops talk)
  · intro n made s' allows h
    obtain ⟨seen, more, names, chosen, e, parts, rfl⟩ := succeeded_of_run h
    constructor
    · intro c names hc hit
      exact parts.length_of_hit same allows hc hit
    · intro gate
      have passes := talk.passes gate
      constructor
      · intro hc
        exact parts.length_of_uncached same allows hc passes
      · intro c hc missed
        exact parts.length_of_miss same allows hc missed passes

end Pass

/-- A signal that says to go on as many times as its host counts. -/
def Token.countdown : Token Nat :=
  ⟨fun n => (.ok (decide (n = 0)), n - 1)⟩

theorem Token.isOneWay_countdown (c : CoreLibrary) (n : Nat) : Token.countdown.IsOneWay c.metadata n := by
  apply Token.isOneWay_of_step ?_ (fun _ _ stops => stops) (fun _ _ stops => stops)
  intro n stops
  obtain rfl : n = 0 := by simpa [Stops, countdown] using stops
  rfl

private theorem Dialogue.allows_countdown {c : CoreLibrary} {n n' : Nat} {seen : Record}
    (talk : Dialogue c.metadata .countdown n seen n') : Allows n seen := by
  induction talk with
  | done => exact allows_nil
  | poll _ ih => exact allows_poll.mpr ⟨rfl, ih⟩
  | version _ _ ih => exact allows_version.mpr ih
  | type _ _ ih => exact allows_type.mpr ih

namespace Pass

/-- A pass on an empty cache that five polls tell to go on: it makes one of three forwards, and what it resolved is
stored. -/
theorem run_of_isOneWay_countdown :
    let c : CoreLibrary := ⟨.csharp8, Candidates.all.map .text⟩
    let p : Pass Nat := ⟨c.metadata, .countdown, ⟨false, true, [], []⟩, Selection.byLists,
      Availability.defaultThreshold, .text "corlib"⟩
    let s : State Nat := ⟨⟨5, []⟩, some .empty, ⟨.memory [], .fresh⟩, []⟩
    let made := Artifact.forName (.text Candidates.index)
    (p.run s).1 = .ok [made] ∧ (p.run s).2.outlet = ⟨.memory [made.entry], .fresh⟩ ∧
      [made] <+: (p.unstoppable.chosen s).map Artifact.forName ∧
      [made].length = min (p.unstoppable.chosen s).length (5 - 4) ∧
      ∃ names c', (p.unstoppable.available s).1 = .ok names ∧ Cache.empty.insert p.key p.threshold names = .ok c' ∧
        (p.run s).2.cache = some c' := by
  intro c p s made
  have talk := (p.run_observed s).2.1
  have talk' := (p.unstoppable.run_observed s).2.1
  have same : Concordant (p.observations s) (p.unstoppable.observations s) :=
    Agrees.concordant (c.gives _ _ _ _ talk) (c.gives _ _ _ _ talk')
  have h : p.run s = (.ok [made], (p.run s).2) := rfl
  obtain ⟨front, -, -, counted⟩ := p.run_of_isOneWay s rfl (Token.isOneWay_countdown c 5) same
  obtain ⟨count, stored⟩ := ((counted 5 _ _ talk.allows_countdown h).2 rfl).2 _ rfl rfl
  exact ⟨rfl, (front _ _ h).2, (front _ _ h).1, count, stored⟩

end Pass

end TypeForward
