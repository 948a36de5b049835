import TypeForward.Proofs.Pass.Record

/-! Dialogues with a host. A record of one is kept by the host itself, so that it says nothing about how the pass
works. What signals and compilations are assumed to do is said of all dialogues there can be. -/
namespace TypeForward
variable {σ : Type}
open Record

/-- Polls and questions, one after the other, that lead from one state of the host to another. Which of them come
is left open. -/
inductive Dialogue (m : Metadata σ) (t : Token σ) : σ → Record → σ → Prop where
  | done (h : σ) : Dialogue m t h [] h
  | poll {h h' : σ} {seen : Record} :
      Dialogue m t (t.poll h).2 seen h' → Dialogue m t h (.poll (t.poll h).1 :: seen) h'
  | version {h h' : σ} {seen : Record} (threshold : Value) :
      Dialogue m t (m.atLeast threshold h).2 seen h' →
        Dialogue m t h (.version threshold (m.atLeast threshold h).1 :: seen) h'
  | type {h h' : σ} {seen : Record} (name : Value) :
      Dialogue m t (m.defines name h).2 seen h' →
        Dialogue m t h (.type name (m.defines name h).1 :: seen) h'

/-- However the host is polled and asked from here on, the compilation gives these answers. -/
def Metadata.Gives (m : Metadata σ) (t : Token σ) (h : σ) (a : Answers) : Prop :=
  ∀ seen h', Dialogue m t h seen h' → Record.Agrees a seen

/-- The signal says to stop in this state of the host. -/
def Token.Stops (t : Token σ) (h : σ) : Prop :=
  (t.poll h).1 = .ok true

/-- However the host is polled and asked from here on, once the signal says to stop it does not take that back.
The questions may be what sets it. -/
def Token.IsOneWay (t : Token σ) (m : Metadata σ) (h : σ) : Prop :=
  ∀ {seen h'}, Dialogue m t h seen h' → t.Stops h' →
    ∀ {more h''}, Dialogue m t h' more h'' → ∀ stop, .poll stop ∈ more → stop = .ok true

variable {m : Metadata σ} {t : Token σ} {a : Answers} {h h' h'' : σ} {seen more : Record}

namespace Dialogue

theorem append (first : Dialogue m t h seen h') (second : Dialogue m t h' more h'') :
    Dialogue m t h (seen ++ more) h'' := by
  induction first with
  | done => exact second
  | poll _ ih => exact .poll (ih second)
  | version threshold _ ih => exact .version threshold (ih second)
  | type name _ ih => exact .type name (ih second)

/-- The answer to the first question is the one that the compilation gives at the start. -/
theorem passes (talk : Dialogue m t h seen h') {threshold : Value} (gate : (m.atLeast threshold h).1 = .ok true) :
    Passes threshold seen := by
  rintro answer rest rfl
  cases talk
  exact gate

/-- Nobody stops a pass that polls the signal that nobody sets. -/
theorem quiet_of_never (talk : Dialogue m .never h seen h') : Quiet seen := by
  induction talk with
  | done => exact quiet_nil
  | poll _ ih => exact quiet_poll.mpr ⟨rfl, ih⟩
  | version threshold _ ih => exact quiet_version.mpr ih
  | type name _ ih => exact quiet_type.mpr ih

/-- The questions asked without a signal could be asked without polling any other. -/
theorem unpolled (t : Token σ) (talk : Dialogue m .never h seen h') :
    ∃ asked, Dialogue m t h asked h' ∧ ∀ {a : Answers}, Agrees a asked → Agrees a seen := by
  induction talk with
  | done h => exact ⟨[], .done h, id⟩
  | poll _ ih =>
    obtain ⟨asked, talk, kept⟩ := ih
    exact ⟨asked, talk, fun agrees => agrees_poll.mpr (kept agrees)⟩
  | version threshold _ ih =>
    obtain ⟨asked, talk, kept⟩ := ih
    refine ⟨_, .version threshold talk, ?_⟩
    intro a agrees
    obtain ⟨first, agrees⟩ := agrees_version.mp agrees
    exact agrees_version.mpr ⟨first, kept agrees⟩
  | type name _ ih =>
    obtain ⟨asked, talk, kept⟩ := ih
    refine ⟨_, .type name talk, ?_⟩
    intro a agrees
    obtain ⟨first, agrees⟩ := agrees_type.mp agrees
    exact agrees_type.mpr ⟨first, kept agrees⟩

end Dialogue

namespace Metadata

/-- Without a signal the compilation gives the answers that it gives however it is polled. -/
theorem Gives.agrees_of_never (gives : m.Gives t h a) (talk : Dialogue m .never h seen h') : Agrees a seen := by
  obtain ⟨asked, talk', kept⟩ := talk.unpolled t
  exact kept (gives asked h' talk')

/-- It is enough that every single question gets the answer, whatever the state of the host. -/
theorem gives_of_step (version : ∀ threshold h, (m.atLeast threshold h).1 = a.atLeast threshold)
    (type : ∀ name h, (m.defines name h).1 = a.defines name) (t : Token σ) (h : σ) : m.Gives t h a := by
  intro seen h' talk
  induction talk with
  | done => exact agrees_nil
  | poll _ ih => exact agrees_poll.mpr ih
  | version threshold _ ih => exact agrees_version.mpr ⟨version threshold _, ih⟩
  | type name _ ih => exact agrees_type.mpr ⟨type name _, ih⟩

end Metadata

namespace Token

/-- It is enough that no single poll or question takes a stop back. -/
theorem isOneWay_of_step (poll : ∀ h, t.Stops h → t.Stops (t.poll h).2)
    (version : ∀ threshold h, t.Stops h → t.Stops (m.atLeast threshold h).2)
    (type : ∀ name h, t.Stops h → t.Stops (m.defines name h).2) (h : σ) : t.IsOneWay m h := by
  intro seen h' past stops more h'' talk
  clear past
  induction talk with
  | done => simp
  | poll _ ih =>
    intro stop hs
    rcases List.mem_cons.mp hs with hs | hs
    · rw [Observation.poll.inj hs]
      exact stops
    · exact ih (poll _ stops) stop hs
  | version threshold _ ih =>
    intro stop hs
    exact ih (version threshold _ stops) stop (by simpa using hs)
  | type name _ ih =>
    intro stop hs
    exact ih (type name _ stops) stop (by simpa using hs)

/-- What a one-way signal says in a dialogue. -/
theorem IsOneWay.record (oneWay : t.IsOneWay m h) (talk : Dialogue m t h seen h') : OneWay seen := by
  -- The induction is on the rest of the dialogue; what came before is carried along.
  suffices go : ∀ {before h₁}, Dialogue m t h before h₁ → Dialogue m t h₁ seen h' → OneWay seen from go (.done h) talk
  clear talk
  intro before h₁ past talk
  induction talk generalizing before with
  | done => exact .nil
  | @poll h₁ h' seen talk ih =>
    refine List.pairwise_cons.mpr ⟨?_, ih (past.append (.poll (.done _)))⟩
    intro later hl said stop he
    have stops : t.Stops h₁ := Observation.poll.inj said
    exact oneWay past stops (.poll talk) stop (List.mem_cons_of_mem _ (he ▸ hl))
  | version threshold _ ih =>
    exact List.pairwise_cons.mpr ⟨by simp, ih (past.append (.version threshold (.done _)))⟩
  | type name _ ih => exact List.pairwise_cons.mpr ⟨by simp, ih (past.append (.type name (.done _)))⟩

end Token

namespace CoreLibrary

/-- The answers of a compilation known by its version and its types. -/
def answers (c : CoreLibrary) : Answers where
  atLeast := c.atLeast
  defines := c.defines
  atLeast_congr := by
    intro threshold other n h h'
    have number {v : Value} (hv : v.toInt? = some n) : c.atLeast v = .ok (decide (n ≤ c.version.code)) := by
      simp [CoreLibrary.atLeast, Value.atLeast?, Value.numberAtLeast?, hv, show
        (Value.version c.version).toInt? = some (c.version.code : Int) from rfl]
    rw [number h, number h']

theorem gives (c : CoreLibrary) (t : Token σ) (h : σ) : c.metadata.Gives t h c.answers :=
  Metadata.gives_of_step (fun _ _ => rfl) (fun _ _ => rfl) t h

end CoreLibrary

end TypeForward
