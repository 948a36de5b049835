import TypeForward.Proofs.Pass.Watched

/-! A pass that is broken off at the first poll that says to stop. It has left the same outlet as the pass that goes
on to its end, so that nothing is registered after such a poll. -/
namespace TypeForward
variable {σ : Type}

/-- A signal that fails where another one says to stop. -/
def Token.abrupt (t : Token σ) : Token σ where
  poll h :=
    match t.poll h with
    | (.ok true, h) => (.error .missing, h)
    | said => said

private theorem Progress.poll_abrupt (s : Progress σ) (t : Token σ) :
    s.poll t.abrupt =
      match s.poll t with
      | (.ok true, s) => (.error .missing, s)
      | said => said := by
  rcases h : t.poll s.host with ⟨fault | _ | _, h'⟩ <;> simp [poll, Token.abrupt, h]

/-- On the way from one state of the host to another the signal said to stop. -/
def Token.Stopped (t : Token σ) (m : Metadata σ) (h h' : σ) : Prop :=
  ∃ h₁ seen more, Dialogue m t h seen h₁ ∧ t.Stops h₁ ∧ Dialogue m t h₁ more h'

namespace Token.Stopped

variable {t : Token σ} {m : Metadata σ} {h h' h'' : σ} {seen : Record}

theorem after (stopped : t.Stopped m h h') (talk : Dialogue m t h' seen h'') : t.Stopped m h h'' := by
  obtain ⟨h₁, _, _, past, stops, talk'⟩ := stopped
  exact ⟨h₁, _, _, past, stops, talk'.append talk⟩

theorem before (stopped : t.Stopped m h' h'') (talk : Dialogue m t h seen h') : t.Stopped m h h'' := by
  obtain ⟨h₁, _, _, past, stops, talk'⟩ := stopped
  exact ⟨h₁, _, _, talk.append past, stops, talk'⟩

private theorem of_poll {s s' : Progress σ} (hp : s.poll t = (.ok true, s')) : t.Stopped m s.host s'.host :=
  ⟨s.host, [], _, .done _, congrArg Prod.fst hp, Progress.dialogue_of_poll hp⟩

/-- A one-way signal still says to stop. -/
theorem stops (stopped : t.Stopped m h h') (oneWay : t.IsOneWay m h) : t.Stops h' := by
  obtain ⟨h₁, _, _, past, stops, talk⟩ := stopped
  exact oneWay past stops (talk.append (.poll (.done _))) _ (List.mem_append_right _ List.mem_cons_self)

end Token.Stopped

namespace Availability

private theorem lookUp_abrupt (m : Metadata σ) (t : Token σ) (names : List Value) (s : Progress σ) :
    lookUp m t.abrupt names s = lookUp m t names s ∨
      (∃ fault, (lookUp m t.abrupt names s).1 = .error fault) ∧ t.Stopped m s.host (lookUp m t names s).2.host := by
  induction names generalizing s with
  | nil => exact .inl rfl
  | cons name rest ih =>
    rcases hp : s.poll t with ⟨stop, s₁⟩
    simp only [lookUp, Progress.poll_abrupt, hp]
    rcases stop with fault | _ | _
    · exact .inl rfl
    · rcases hd : s₁.defines m name with ⟨answer, s₂⟩
      have talk : Dialogue m t s.host _ s₂.host :=
        (Progress.dialogue_of_poll hp).append (Progress.dialogue_of_defines hd)
      simp only [hd]
      rcases answer with fault | _ | _
      · exact .inl rfl
      · rcases ih (s₂.note (.notDefined name)) with same | ⟨failed, stopped⟩
        · exact .inl same
        · exact .inr ⟨failed, stopped.before talk⟩
      · rcases ih s₂ with same | ⟨⟨fault, failed⟩, stopped⟩
        · exact .inl (by simp only [same])
        · exact .inr ⟨⟨fault, by simp only [failed, Except.map]⟩, stopped.before talk⟩
    · have stopped : t.Stopped m s.host s₁.host := .of_poll hp
      exact .inr ⟨⟨.missing, rfl⟩, stopped⟩

private theorem resolve_abrupt (m : Metadata σ) (t : Token σ) (threshold candidates : Value) (s : Progress σ) :
    resolve m t.abrupt threshold candidates s = resolve m t threshold candidates s ∨
      (∃ fault, (resolve m t.abrupt threshold candidates s).1 = .error fault) ∧
        t.Stopped m s.host (resolve m t threshold candidates s).2.host := by
  rcases hv : s.atLeast m threshold with ⟨answer, s₁⟩
  simp only [resolve, hv]
  rcases answer with fault | _ | _
  · exact .inl rfl
  · exact .inl rfl
  · cases candidates.elements? with
    | none => exact .inl rfl
    | some names =>
      rcases lookUp_abrupt m t names s₁ with same | ⟨⟨fault, failed⟩, stopped⟩
      · exact .inl (by simp only [same])
      · exact .inr ⟨⟨fault, by simp only [failed, Except.map]⟩, stopped.before (Progress.dialogue_of_atLeast hv)⟩

end Availability

namespace Cache

variable (c : Cache) (key threshold : Value) (m : Metadata σ) (t : Token σ) (s : Progress σ)

/-- A request for which the cache holds nothing polls on after the resolution. -/
private theorem getOrResolve_past (missed : c.lookUp key threshold = .ok none) :
    ∃ more, Dialogue m t
      (Availability.resolve m t threshold Availability.registry (s.note (.cacheMiss key threshold))).2.host more
      (c.getOrResolve key threshold m t s).2.2.host := by
  simp only [getOrResolve, missed]
  rcases Availability.resolve m t threshold Availability.registry (s.note (.cacheMiss key threshold))
    with ⟨fault | names, s₁⟩
  · exact ⟨[], .done _⟩
  · rcases hp : s₁.poll t with ⟨stop, s₂⟩
    have polled : Dialogue m t s₁.host [.poll stop] s₂.host := Progress.dialogue_of_poll hp
    simp only [hp]
    rcases stop with fault | _ | _
    · exact ⟨_, polled⟩
    · cases c.insert key threshold names <;> exact ⟨_, polled⟩
    · exact ⟨_, polled⟩

private theorem getOrResolve_abrupt :
    c.getOrResolve key threshold m t.abrupt s = c.getOrResolve key threshold m t s ∨
      (∃ fault, (c.getOrResolve key threshold m t.abrupt s).1 = .error fault) ∧
        t.Stopped m s.host (c.getOrResolve key threshold m t s).2.2.host := by
  rcases found : c.lookUp key threshold with fault | _ | names
  · exact .inl (by simp only [getOrResolve, found])
  · rcases Availability.resolve_abrupt m t threshold Availability.registry (s.note (.cacheMiss key threshold))
      with same | ⟨⟨fault, failed⟩, stopped⟩
    · obtain ⟨_, -, talk, -⟩ := Availability.resolve_observed m t threshold Availability.registry rfl
        (s.note (.cacheMiss key threshold)) []
      simp only [getOrResolve, found, same]
      rcases hr : Availability.resolve m t threshold Availability.registry (s.note (.cacheMiss key threshold))
        with ⟨fault | names, s₁⟩
      · exact .inl rfl
      · rw [hr] at talk
        rcases hp : s₁.poll t with ⟨stop, s₂⟩
        simp only [Progress.poll_abrupt, hp]
        rcases stop with fault | _ | _
        · exact .inl rfl
        · exact .inl rfl
        · have stopped : t.Stopped m s₁.host s₂.host := .of_poll hp
          exact .inr ⟨⟨.missing, rfl⟩, stopped.before talk⟩
    · obtain ⟨_, past⟩ := c.getOrResolve_past key threshold m t s found
      refine .inr ⟨⟨fault, ?_⟩, stopped.after past⟩
      simp only [getOrResolve, found]
      rcases hr : Availability.resolve m t.abrupt threshold Availability.registry (s.note (.cacheMiss key threshold))
        with ⟨result, s₁⟩
      rw [hr] at failed
      obtain rfl : result = .error fault := failed
      rfl
  · exact .inl (by simp only [getOrResolve, found])

end Cache

namespace Pass

/-- The pass with a signal that fails where its own says to stop. -/
def brokenOff (p : Pass σ) : Pass σ :=
  { p with token := p.token.abrupt }

private theorem available_brokenOff (p : Pass σ) (s : State σ) :
    p.brokenOff.available s = p.available s ∨
      (∃ fault, (p.brokenOff.available s).1 = .error fault) ∧
        p.token.Stopped p.metadata s.progress.host (p.available s).2.progress.host := by
  rcases s with ⟨progress, cache, outlet, asked⟩
  rcases cache with _ | c
  · rcases Availability.resolve_abrupt p.metadata p.token p.threshold Availability.registry progress
      with same | ⟨failed, stopped⟩
    · exact .inl (by simp only [available, brokenOff, same])
    · exact .inr ⟨failed, stopped⟩
  · rcases c.getOrResolve_abrupt p.key p.threshold p.metadata p.token progress with same | ⟨failed, stopped⟩
    · exact .inl (by simp only [available, brokenOff, same])
    · exact .inr ⟨failed, stopped⟩

private theorem emitAll_abrupt (t : Token σ) (names : List Value) (s : State σ) :
    (emitAll t.abrupt names s).2.outlet = (emitAll t names s).2.outlet := by
  induction names generalizing s with
  | nil => rfl
  | cons name rest ih =>
    rcases hp : s.progress.poll t with ⟨fault | _ | _, progress⟩
    · simp only [emitAll, Progress.poll_abrupt, hp]
    · simp only [emitAll, Progress.poll_abrupt, hp]
      rcases s.outlet.emit name with ⟨fault | ⟨artifact, events⟩, outlet⟩
      · rfl
      · exact ih _
    · simp only [emitAll, Progress.poll_abrupt, hp]

private theorem emitAll_of_stops {t : Token σ} {s : State σ} (stops : t.Stops s.progress.host) (names : List Value) :
    (emitAll t names s).2.outlet = s.outlet := by
  cases names with
  | nil => rfl
  | cons name rest =>
    rcases hp : s.progress.poll t with ⟨stop, progress⟩
    obtain rfl : stop = .ok true := by rw [← stops, ← show (s.progress.poll t).1 = stop by rw [hp]]; rfl
    simp only [emitAll, hp]

/-- The outlet after a pass. -/
private theorem run_outlet (p : Pass σ) {s : State σ} (paired : p.isPaired s = true) :
    (p.run s).2.outlet =
      match p.available s with
      | (.error _, s) => s.outlet
      | (.ok names, s) =>
        match p.select names s with
        | (.error _, s) => s.outlet
        | (.ok chosen, s) => (emitAll p.token chosen s).2.outlet := by
  unfold run
  rw [paired]
  simp only [Bool.not_true, Bool.false_eq_true, if_false]
  rcases p.available s with ⟨fault | names, s₁⟩
  · rfl
  · rcases hs : p.select names s₁ with ⟨fault | chosen, s₂⟩
    · simp only [hs]
    · simp only [hs]
      rcases emitAll p.token chosen s₂ with ⟨fault | e, s₃⟩ <;> rfl

private theorem select_keeps (p : Pass σ) (names : List Value) (s : State σ) :
    (p.select names s).2.outlet = s.outlet ∧ (p.select names s).2.progress.host = s.progress.host := by
  unfold select
  rcases Selection.select p.selector p.options names with ⟨fault | chosen, asked⟩ <;> exact ⟨rfl, rfl⟩

/-- A pass with a one-way signal registers nothing after a poll that says to stop: what it leaves is what was there
when it was broken off at that poll. -/
theorem outlet_brokenOff (p : Pass σ) (s : State σ) (oneWay : p.token.IsOneWay p.metadata s.progress.host) :
    (p.brokenOff.run s).2.outlet = (p.run s).2.outlet := by
  have pairs : p.brokenOff.isPaired s = p.isPaired s := rfl
  cases paired : p.isPaired s with
  | false =>
    unfold run
    rw [pairs, paired]
    rfl
  | true =>
    rw [p.run_outlet paired, p.brokenOff.run_outlet (pairs.trans paired)]
    rcases p.available_brokenOff s with same | ⟨⟨fault, failed⟩, stopped⟩
    · rw [same]
      rcases p.available s with ⟨fault | names, s₁⟩
      · rfl
      · have selects : p.brokenOff.select names s₁ = p.select names s₁ := rfl
        simp only [selects]
        rcases p.select names s₁ with ⟨fault | chosen, s₂⟩
        · rfl
        · exact emitAll_abrupt p.token chosen s₂
    · obtain ⟨_, -, -, -, kept, -⟩ := p.available_observed s []
      obtain ⟨_, -, -, -, kept', -⟩ := p.brokenOff.available_observed s []
      have stops := stopped.stops oneWay
      have left : (p.brokenOff.available s).2.outlet = (p.available s).2.outlet := kept'.trans kept.symm
      rcases hb : p.brokenOff.available s with ⟨result, s₁⟩
      rcases ha : p.available s with ⟨result', s₂⟩
      rw [hb] at failed
      rw [hb, ha] at left
      rw [ha] at stops
      obtain rfl : result = .error fault := failed
      obtain left : s₁.outlet = s₂.outlet := left
      rcases result' with fault' | names
      · exact left
      · obtain ⟨outlet, host⟩ := p.select_keeps names s₂
        rcases hs : p.select names s₂ with ⟨fault' | chosen, s₃⟩
        · rw [hs] at outlet
          simp only [hs]
          exact left.trans outlet.symm
        · rw [hs] at outlet host
          have stops : p.token.Stops s₃.progress.host := by
            rw [show s₃.progress.host = s₂.progress.host from host]
            exact stops
          simp only [hs, emitAll_of_stops stops chosen]
          exact left.trans outlet.symm

end Pass

end TypeForward
