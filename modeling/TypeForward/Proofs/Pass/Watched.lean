import TypeForward.Proofs.Pass.Dialogue

/-! Passes on a host that keeps a record of its answers. Keeping it changes nothing, and what a pass comes to is
determined by its record: the relations here say which records each part of a pass has and what it makes of them,
without the state of the host. -/
namespace TypeForward
variable {σ : Type}

/-- A host with a record of the answers it gave. -/
structure Observed (σ : Type) where
  host : σ
  seen : Record

def Token.observed (t : Token σ) : Token (Observed σ) where
  poll s := ((t.poll s.host).1, ⟨(t.poll s.host).2, s.seen ++ [.poll (t.poll s.host).1]⟩)

def Metadata.observed (m : Metadata σ) : Metadata (Observed σ) where
  atLeast threshold s :=
    ((m.atLeast threshold s.host).1,
      ⟨(m.atLeast threshold s.host).2, s.seen ++ [.version threshold (m.atLeast threshold s.host).1]⟩)
  defines name s :=
    ((m.defines name s.host).1, ⟨(m.defines name s.host).2, s.seen ++ [.type name (m.defines name s.host).1]⟩)

namespace Progress

def observed (s : Progress σ) (seen : Record) : Progress (Observed σ) :=
  ⟨⟨s.host, seen⟩, s.log⟩

@[simp] theorem note_observed (s : Progress σ) (seen : Record) (e : Event) :
    (s.observed seen).note e = (s.note e).observed seen := rfl

@[simp] theorem poll_observed (s : Progress σ) (seen : Record) (t : Token σ) :
    (s.observed seen).poll t.observed = ((s.poll t).1, (s.poll t).2.observed (seen ++ [.poll (s.poll t).1])) := rfl

@[simp] theorem atLeast_observed (s : Progress σ) (seen : Record) (m : Metadata σ) (threshold : Value) :
    (s.observed seen).atLeast m.observed threshold = ((s.atLeast m threshold).1,
      (s.atLeast m threshold).2.observed (seen ++ [.version threshold (s.atLeast m threshold).1])) := rfl

@[simp] theorem defines_observed (s : Progress σ) (seen : Record) (m : Metadata σ) (name : Value) :
    (s.observed seen).defines m.observed name = ((s.defines m name).1,
      (s.defines m name).2.observed (seen ++ [.type name (s.defines m name).1])) := rfl

variable {s s' : Progress σ} {m : Metadata σ} {t : Token σ}

theorem dialogue_of_poll {stop : Except Fault Bool} (h : s.poll t = (stop, s')) :
    Dialogue m t s.host [.poll stop] s'.host := by
  obtain rfl : (s.poll t).1 = stop := by rw [h]
  obtain rfl : (s.poll t).2 = s' := by rw [h]
  exact .poll (.done _)

theorem dialogue_of_atLeast {threshold : Value} {answer : Except Fault Bool}
    (h : s.atLeast m threshold = (answer, s')) : Dialogue m t s.host [.version threshold answer] s'.host := by
  obtain rfl : (s.atLeast m threshold).1 = answer := by rw [h]
  obtain rfl : (s.atLeast m threshold).2 = s' := by rw [h]
  exact .version threshold (.done _)

theorem dialogue_of_defines {name : Value} {answer : Except Fault Bool} (h : s.defines m name = (answer, s')) :
    Dialogue m t s.host [.type name answer] s'.host := by
  obtain rfl : (s.defines m name).1 = answer := by rw [h]
  obtain rfl : (s.defines m name).2 = s' := by rw [h]
  exact .type name (.done _)

end Progress

namespace Availability

/-- The records of a look-up, with its result. -/
inductive LookedUp : List Value → Record → Except Fault (Option (List Value)) → Prop where
  | done : LookedUp [] [] (.ok (some []))
  | unpolled (name : Value) (rest : List Value) (fault : Fault) :
      LookedUp (name :: rest) [.poll (.error fault)] (.error fault)
  | stopped (name : Value) (rest : List Value) : LookedUp (name :: rest) [.poll (.ok true)] (.ok none)
  | unanswered (name : Value) (rest : List Value) (fault : Fault) :
      LookedUp (name :: rest) [.poll (.ok false), .type name (.error fault)] (.error fault)
  | present (name : Value) {rest : List Value} {seen : Record} {result : Except Fault (Option (List Value))} :
      LookedUp rest seen result →
        LookedUp (name :: rest) (.poll (.ok false) :: .type name (.ok true) :: seen)
          (result.map (·.map (name :: ·)))
  | absent (name : Value) {rest : List Value} {seen : Record} {result : Except Fault (Option (List Value))} :
      LookedUp rest seen result →
        LookedUp (name :: rest) (.poll (.ok false) :: .type name (.ok false) :: seen) result

private theorem lookUp_observed (m : Metadata σ) (t : Token σ) (names : List Value) (s : Progress σ) (seen : Record) :
    ∃ new, lookUp m.observed t.observed names (s.observed seen) =
        ((lookUp m t names s).1, (lookUp m t names s).2.observed (seen ++ new)) ∧
      Dialogue m t s.host new (lookUp m t names s).2.host ∧ LookedUp names new (lookUp m t names s).1 := by
  induction names generalizing s seen with
  | nil => exact ⟨[], by simp [lookUp], .done _, .done⟩
  | cons name rest ih =>
    rcases hp : s.poll t with ⟨stop, s₁⟩
    have polled : Dialogue m t s.host [.poll stop] s₁.host := Progress.dialogue_of_poll hp
    simp only [lookUp, Progress.poll_observed, hp]
    rcases stop with fault | _ | _
    · exact ⟨_, rfl, polled, .unpolled name rest fault⟩
    · rcases hd : s₁.defines m name with ⟨answer, s₂⟩
      have asked := polled.append (Progress.dialogue_of_defines hd)
      simp only [Progress.defines_observed, hd, List.append_assoc]
      rcases answer with fault | _ | _
      · exact ⟨_, rfl, asked, .unanswered name rest fault⟩
      · obtain ⟨new, same, talk, looked⟩ := ih (s₂.note (.notDefined name))
          (seen ++ ([.poll (.ok false)] ++ [.type name (.ok false)]))
        exact ⟨_, by simp only [Progress.note_observed, same, List.append_assoc], asked.append talk,
          looked.absent name⟩
      · obtain ⟨new, same, talk, looked⟩ := ih s₂ (seen ++ ([.poll (.ok false)] ++ [.type name (.ok true)]))
        exact ⟨_, by simp only [same, List.append_assoc], asked.append talk, looked.present name⟩
    · exact ⟨_, rfl, polled, .stopped name rest⟩

/-- The records of a resolution among some names, with its result. -/
inductive Resolved (threshold : Value) (names : List Value) : Record → Except Fault (List Value) → Prop where
  | unanswered (fault : Fault) : Resolved threshold names [.version threshold (.error fault)] (.error fault)
  | below : Resolved threshold names [.version threshold (.ok false)] (.ok [])
  | walked {seen : Record} {result : Except Fault (Option (List Value))} :
      LookedUp names seen result →
        Resolved threshold names (.version threshold (.ok true) :: seen) (result.map (·.getD []))

theorem resolve_observed (m : Metadata σ) (t : Token σ) (threshold candidates : Value) {names : List Value}
    (walk : candidates.elements? = some names) (s : Progress σ) (seen : Record) :
    ∃ new, resolve m.observed t.observed threshold candidates (s.observed seen) =
        ((resolve m t threshold candidates s).1, (resolve m t threshold candidates s).2.observed (seen ++ new)) ∧
      Dialogue m t s.host new (resolve m t threshold candidates s).2.host ∧
      Resolved threshold names new (resolve m t threshold candidates s).1 := by
  rcases hv : s.atLeast m threshold with ⟨answer, s₁⟩
  have asked : Dialogue m t s.host [.version threshold answer] s₁.host := Progress.dialogue_of_atLeast hv
  simp only [resolve, Progress.atLeast_observed, hv]
  rcases answer with fault | _ | _
  · exact ⟨_, rfl, asked, .unanswered fault⟩
  · exact ⟨_, rfl, asked, .below⟩
  · obtain ⟨new, same, talk, looked⟩ := lookUp_observed m t names s₁ (seen ++ [.version threshold (.ok true)])
    simp only [walk]
    exact ⟨_, by simp only [same, List.append_assoc], asked.append talk, .walked looked⟩

end Availability

namespace Cache

/-- The records of a request to a cache, with its result and the cache after it. -/
inductive Obtained (c : Cache) (key threshold : Value) : Record → Except Fault (List Value) → Cache → Prop where
  | refused {fault : Fault} : c.lookUp key threshold = .error fault → Obtained c key threshold [] (.error fault) c
  | hit {names : List Value} : c.lookUp key threshold = .ok (some names) → Obtained c key threshold [] (.ok names) c
  | failed {seen : Record} {fault : Fault} : c.lookUp key threshold = .ok none →
      Availability.Resolved threshold (Candidates.all.map .text) seen (.error fault) →
        Obtained c key threshold seen (.error fault) c
  | unpolled {seen : Record} {names : List Value} (fault : Fault) : c.lookUp key threshold = .ok none →
      Availability.Resolved threshold (Candidates.all.map .text) seen (.ok names) →
        Obtained c key threshold (seen ++ [.poll (.error fault)]) (.error fault) c
  | dropped {seen : Record} {names : List Value} : c.lookUp key threshold = .ok none →
      Availability.Resolved threshold (Candidates.all.map .text) seen (.ok names) →
        Obtained c key threshold (seen ++ [.poll (.ok true)]) (.ok names) c
  | stored {seen : Record} {names : List Value} {c' : Cache} : c.lookUp key threshold = .ok none →
      Availability.Resolved threshold (Candidates.all.map .text) seen (.ok names) →
      c.insert key threshold names = .ok c' →
        Obtained c key threshold (seen ++ [.poll (.ok false)]) (.ok names) c'

/-- What can be looked up can be stored. -/
private theorem insert_of_lookUp {c : Cache} {key threshold : Value} {found : Option (List Value)}
    (h : c.lookUp key threshold = .ok found) (names : List Value) : ∃ c', c.insert key threshold names = .ok c' := by
  unfold lookUp at h
  unfold insert
  split at h
  · cases h
  · exact ⟨_, rfl⟩
  · exact ⟨_, rfl⟩

theorem getOrResolve_observed (c : Cache) (key threshold : Value) (m : Metadata σ) (t : Token σ)
    (s : Progress σ) (seen : Record) :
    ∃ new, c.getOrResolve key threshold m.observed t.observed (s.observed seen) =
        ((c.getOrResolve key threshold m t s).1, (c.getOrResolve key threshold m t s).2.1,
          (c.getOrResolve key threshold m t s).2.2.observed (seen ++ new)) ∧
      Dialogue m t s.host new (c.getOrResolve key threshold m t s).2.2.host ∧
      Obtained c key threshold new (c.getOrResolve key threshold m t s).1 (c.getOrResolve key threshold m t s).2.1 := by
  unfold getOrResolve
  rcases found : c.lookUp key threshold with fault | _ | names
  · exact ⟨[], by simp, .done _, .refused found⟩
  · obtain ⟨new, same, talk, resolved⟩ := Availability.resolve_observed m t threshold
      Availability.registry rfl (s.note (.cacheMiss key threshold)) seen
    rcases hr : Availability.resolve m t threshold Availability.registry (s.note (.cacheMiss key threshold))
      with ⟨result, s₁⟩
    simp only [hr] at same talk resolved
    simp only [Progress.note_observed, same]
    rcases result with fault | names
    · exact ⟨_, rfl, talk, .failed found resolved⟩
    · rcases hp : s₁.poll t with ⟨stop, s₂⟩
      have polled := talk.append (Progress.dialogue_of_poll hp)
      simp only [Progress.poll_observed, hp, List.append_assoc]
      rcases stop with fault | _ | _
      · exact ⟨_, rfl, polled, .unpolled fault found resolved⟩
      · obtain ⟨c', hc⟩ := insert_of_lookUp found names
        simp only [hc]
        exact ⟨_, rfl, polled, .stored found resolved hc⟩
      · exact ⟨_, rfl, polled, .dropped found resolved⟩
  · exact ⟨[], by simp, .done _, .hit found⟩

end Cache

namespace Pass

def observed (p : Pass σ) : Pass (Observed σ) :=
  ⟨p.metadata.observed, p.token.observed, p.options, p.selector, p.threshold, p.key⟩

def State.observed (s : State σ) (seen : Record) : State (Observed σ) :=
  ⟨s.progress.observed seen, s.cache, s.outlet, s.asked⟩

/-- The answers that a pass gets. -/
def observations (p : Pass σ) (s : State σ) : Record :=
  (p.observed.run (s.observed [])).2.progress.host.seen

/-- The records of a request for available names, with its result and the cache after it. -/
inductive Found (p : Pass σ) : Option Cache → Record → Except Fault (List Value) → Option Cache → Prop where
  | resolved {seen : Record} {result : Except Fault (List Value)} :
      Availability.Resolved p.threshold (Candidates.all.map .text) seen result → Found p none seen result none
  | cached {c c' : Cache} {seen : Record} {result : Except Fault (List Value)} :
      c.Obtained p.key p.threshold seen result c' → Found p (some c) seen result (some c')

theorem available_observed (p : Pass σ) (s : State σ) (seen : Record) :
    ∃ new, p.observed.available (s.observed seen) = ((p.available s).1, (p.available s).2.observed (seen ++ new)) ∧
      Dialogue p.metadata p.token s.progress.host new (p.available s).2.progress.host ∧
      p.Found s.cache new (p.available s).1 (p.available s).2.cache ∧
      (p.available s).2.outlet = s.outlet ∧ (p.available s).2.asked = s.asked := by
  rcases s with ⟨progress, cache, outlet, asked⟩
  rcases cache with _ | c
  · obtain ⟨new, same, talk, resolved⟩ := Availability.resolve_observed p.metadata p.token p.threshold
      Availability.registry rfl progress seen
    exact ⟨new, by simp [available, State.observed, observed, same], talk, .resolved resolved, rfl, rfl⟩
  · obtain ⟨new, same, talk, obtained⟩ := c.getOrResolve_observed p.key p.threshold p.metadata p.token progress seen
    exact ⟨new, by simp [available, State.observed, observed, same], talk, .cached obtained, rfl, rfl⟩

/-- The records of the emission of names, with its result and the outlet after it. -/
inductive Emitted : List Value → Outlet → Record → Except Fault Emission → Outlet → Prop where
  | done (o : Outlet) : Emitted [] o [] (.ok ⟨[], false⟩) o
  | unpolled (name : Value) (rest : List Value) (o : Outlet) (fault : Fault) :
      Emitted (name :: rest) o [.poll (.error fault)] (.error fault) o
  | stopped (name : Value) (rest : List Value) (o : Outlet) :
      Emitted (name :: rest) o [.poll (.ok true)] (.ok ⟨[], true⟩) o
  | refused {name : Value} (rest : List Value) {o o' : Outlet} {fault : Fault} : o.emit name = (.error fault, o') →
      Emitted (name :: rest) o [.poll (.ok false)] (.error fault) o'
  | added {name : Value} {rest : List Value} {o o' o'' : Outlet} {artifact : Artifact} {events : List Event}
      {seen : Record} {result : Except Fault Emission} : o.emit name = (.ok (artifact, events), o') →
      Emitted rest o' seen result o'' →
        Emitted (name :: rest) o (.poll (.ok false) :: seen)
          (result.map fun e => { e with made := artifact :: e.made }) o''

theorem emitAll_observed (m : Metadata σ) (t : Token σ) (names : List Value) (s : State σ) (seen : Record) :
    ∃ new, emitAll t.observed names (s.observed seen) =
        ((emitAll t names s).1, (emitAll t names s).2.observed (seen ++ new)) ∧
      Dialogue m t s.progress.host new (emitAll t names s).2.progress.host ∧
      Emitted names s.outlet new (emitAll t names s).1 (emitAll t names s).2.outlet ∧
      (emitAll t names s).2.cache = s.cache ∧ (emitAll t names s).2.asked = s.asked := by
  induction names generalizing s seen with
  | nil => exact ⟨[], by simp [emitAll], .done _, .done _, rfl, rfl⟩
  | cons name rest ih =>
    rcases s with ⟨progress, cache, outlet, asked⟩
    rcases hp : progress.poll t with ⟨stop, progress₁⟩
    have polled : Dialogue m t progress.host [.poll stop] progress₁.host := Progress.dialogue_of_poll hp
    simp only [emitAll, State.observed, Progress.poll_observed, hp]
    rcases stop with fault | _ | _
    · exact ⟨_, rfl, polled, .unpolled name rest outlet fault, rfl, rfl⟩
    · rcases he : outlet.emit name with ⟨fault | ⟨artifact, events⟩, outlet₁⟩
      · exact ⟨_, rfl, polled, .refused rest he, rfl, rfl⟩
      · obtain ⟨new, same, talk, emitted, hc, ha⟩ := ih
          ⟨{ progress₁ with log := progress₁.log ++ events }, cache, outlet₁, asked⟩ (seen ++ [.poll (.ok false)])
        refine ⟨[.poll (.ok false)] ++ new, ?_, polled.append talk, emitted.added he, hc, ha⟩
        simp only [State.observed, Progress.observed, List.append_assoc] at same ⊢
        simp only [same]
    · exact ⟨_, rfl, polled, .stopped name rest outlet, rfl, rfl⟩

/-- The records of a pass, with its result and the cache, the outlet and the questions to the selector after it. -/
inductive Ran (p : Pass σ) (s : State σ) :
    Record → Except Fault (List Artifact) → Option Cache → Outlet → List Value → Prop where
  | unpaired : p.isPaired s = false →
      Ran p s [] (.error (.configuration .cacheWithoutKey)) s.cache s.outlet s.asked
  | unavailable {seen : Record} {fault : Fault} {cache : Option Cache} : p.isPaired s = true →
      (p.available s).1 = .error fault → p.Found s.cache seen (.error fault) cache →
        Ran p s seen (.error fault) cache s.outlet s.asked
  | unselected {seen : Record} {names asked : List Value} {fault : Fault} {cache : Option Cache} :
      p.isPaired s = true → (p.available s).1 = .ok names → p.Found s.cache seen (.ok names) cache →
      Selection.select p.selector p.options names = (.error fault, asked) →
        Ran p s seen (.error fault) cache s.outlet (s.asked ++ asked)
  | emitted {seen more : Record} {names chosen asked : List Value} {result : Except Fault Emission}
      {cache : Option Cache} {outlet : Outlet} : p.isPaired s = true →
      (p.available s).1 = .ok names → p.Found s.cache seen (.ok names) cache →
      Selection.select p.selector p.options names = (.ok chosen, asked) →
      Emitted chosen s.outlet more result outlet →
        Ran p s (seen ++ more) (result.map (·.made)) cache outlet (s.asked ++ asked)

/-- A pass on an observed host is the same pass, and its record is the dialogue that it has. -/
theorem run_observed (p : Pass σ) (s : State σ) :
    p.observed.run (s.observed []) = ((p.run s).1, (p.run s).2.observed (p.observations s)) ∧
      Dialogue p.metadata p.token s.progress.host (p.observations s) (p.run s).2.progress.host ∧
      p.Ran s (p.observations s) (p.run s).1 (p.run s).2.cache (p.run s).2.outlet (p.run s).2.asked := by
  suffices go : ∃ new, p.observed.run (s.observed []) = ((p.run s).1, (p.run s).2.observed new) ∧
      Dialogue p.metadata p.token s.progress.host new (p.run s).2.progress.host ∧
      p.Ran s new (p.run s).1 (p.run s).2.cache (p.run s).2.outlet (p.run s).2.asked by
    obtain ⟨new, same, talk, ran⟩ := go
    have seen : p.observations s = new := by rw [observations, same]; rfl
    rw [seen]
    exact ⟨same, talk, ran⟩
  have pairs : p.observed.isPaired (s.observed []) = p.isPaired s := rfl
  unfold run
  rw [pairs]
  rcases paired : p.isPaired s with _ | _
  · exact ⟨[], rfl, .done _, .unpaired paired⟩
  · obtain ⟨new, same, talk, found, ho, ha⟩ := available_observed p s []
    rcases hf : p.available s with ⟨result, s₁⟩
    simp only [hf, List.nil_append] at same talk found ho ha
    simp only [Bool.not_true, Bool.false_eq_true, if_false, same]
    rcases result with fault | names
    · exact ⟨_, rfl, talk, ho ▸ ha ▸ .unavailable paired (by rw [hf]) found⟩
    · simp only [select, observed]
      rcases hs : Selection.select p.selector p.options names with ⟨fault | chosen, asked⟩
      · exact ⟨_, rfl, talk, ho ▸ ha ▸ .unselected paired (by rw [hf]) found hs⟩
      · obtain ⟨more, same', talk', emitted, hc, ha'⟩ := emitAll_observed p.metadata p.token chosen
          ⟨s₁.progress.note (.selected chosen.length names.length), s₁.cache, s₁.outlet, s₁.asked ++ asked⟩ new
        simp only [State.observed] at same'
        rcases he : emitAll p.token chosen
          ⟨s₁.progress.note (.selected chosen.length names.length), s₁.cache, s₁.outlet, s₁.asked ++ asked⟩
          with ⟨result, s₂⟩
        simp only [he] at same' talk' emitted hc ha'
        have ran : p.Ran s (new ++ more) (result.map (·.made)) s₂.cache s₂.outlet s₂.asked := by
          rw [ha', ha, hc]
          exact .emitted paired (by rw [hf]) found hs (ho ▸ emitted)
        simp only [State.observed, Progress.note_observed, same', he]
        rcases result with fault | e
        · exact ⟨new ++ more, rfl, talk.append talk', ran⟩
        · exact ⟨new ++ more, rfl, talk.append talk', ran⟩

/-- The first part of the record of a pass is that of its request for available names. -/
theorem Ran.found {p : Pass σ} {s : State σ} {seen : Record} {result : Except Fault (List Artifact)}
    {cache : Option Cache} {outlet : Outlet} {asked : List Value} (ran : p.Ran s seen result cache outlet asked)
    (paired : p.isPaired s = true) : ∃ before, before <+: seen ∧ p.Found s.cache before (p.available s).1 cache := by
  cases ran with
  | unpaired h => rw [paired] at h; cases h
  | unavailable _ ha found => exact ⟨_, List.prefix_refl _, ha ▸ found⟩
  | unselected _ ha found _ => exact ⟨_, List.prefix_refl _, ha ▸ found⟩
  | emitted _ ha found _ _ => exact ⟨_, List.prefix_append _ _, ha ▸ found⟩

/-- The parts of a pass for which names are available among which something can be selected. -/
theorem Ran.emission {p : Pass σ} {s : State σ} {seen : Record} {result : Except Fault (List Artifact)}
    {cache : Option Cache} {outlet : Outlet} {asked : List Value} (ran : p.Ran s seen result cache outlet asked)
    (paired : p.isPaired s = true) {names chosen : List Value} (available : (p.available s).1 = .ok names)
    (select : (Selection.select p.selector p.options names).1 = .ok chosen) :
    ∃ before more emission, seen = before ++ more ∧ p.Found s.cache before (.ok names) cache ∧
      Emitted chosen s.outlet more emission outlet ∧ result = emission.map (·.made) := by
  cases ran with
  | unpaired unpaired => cases paired.symm.trans unpaired
  | unavailable _ ha _ => cases available.symm.trans ha
  | unselected _ ha _ hs =>
    cases available.symm.trans ha
    cases select.symm.trans (congrArg Prod.fst hs)
  | emitted _ ha found hs emitted =>
    cases available.symm.trans ha
    cases select.symm.trans (congrArg Prod.fst hs)
    exact ⟨_, _, _, rfl, found, emitted, rfl⟩

end Pass

end TypeForward
