import TypeForward.Proofs.Pass.Watched

/-! What a resolution comes to. Without a stop its result is fixed by the answers to its questions; with one it is
nothing rather than a part, and the number of polls that said to go on tells which. -/
namespace TypeForward
variable {σ : Type}

/-- A mapped result is the image of a result. -/
theorem ok_of_map {α β : Type} {f : α → β} {x : Except Fault α} {b : β} (h : x.map f = .ok b) :
    ∃ a, x = .ok a ∧ f a = b := by
  cases x with
  | error fault => cases h
  | ok a => exact ⟨a, rfl, Except.ok.inj h⟩

/-- A mapped fault is that fault. -/
theorem error_of_map {α β : Type} {f : α → β} {x : Except Fault α} {fault : Fault} (h : x.map f = .error fault) :
    x = .error fault := by
  cases x with
  | error fault' => rw [Except.error.inj h]
  | ok a => cases h

namespace Availability
open Record

variable {names : List Value} {seen other : Record}

/-- A look-up that finds anything was told to go on at every poll. -/
theorem LookedUp.quiet {result : Except Fault (Option (List Value))} (looked : LookedUp names seen result)
    {found : List Value} (h : result = .ok (some found)) : Quiet seen := by
  induction looked generalizing found with
  | done => exact quiet_nil
  | unpolled | stopped | unanswered => cases h
  | present _ _ ih =>
    obtain ⟨rest, rfl, whole⟩ := ok_of_map h
    obtain ⟨names, rfl, -⟩ := Option.map_eq_some_iff.mp whole
    exact quiet_poll.mpr ⟨rfl, quiet_type.mpr (ih rfl)⟩
  | absent _ _ ih => exact quiet_poll.mpr ⟨rfl, quiet_type.mpr (ih h)⟩

/-- A look-up that comes to nothing was stopped. -/
private theorem LookedUp.stopped_of_none {result : Except Fault (Option (List Value))}
    (looked : LookedUp names seen result) (h : result = .ok none) : .poll (.ok true) ∈ seen := by
  induction looked with
  | done | unpolled | unanswered => cases h
  | stopped => exact List.mem_cons_self
  | present _ _ ih =>
    obtain ⟨rest, rfl, nothing⟩ := ok_of_map h
    obtain rfl := Option.map_eq_none_iff.mp nothing
    exact List.mem_cons_of_mem _ (List.mem_cons_of_mem _ (ih rfl))
  | absent _ _ ih => exact List.mem_cons_of_mem _ (List.mem_cons_of_mem _ (ih h))

/-- Every poll of a look-up with a result could be read. -/
theorem LookedUp.polled {result : Except Fault (Option (List Value))} (looked : LookedUp names seen result)
    {found : Option (List Value)} (h : result = .ok found) {stop : Except Fault Bool} (said : .poll stop ∈ seen) :
    ∃ b, stop = .ok b := by
  induction looked generalizing found with
  | done => cases said
  | unpolled | unanswered => cases h
  | stopped =>
    rcases List.mem_cons.mp said with said | said
    · exact ⟨true, Observation.poll.inj said⟩
    · cases said
  | present _ _ ih =>
    obtain ⟨rest, rfl, rfl⟩ := ok_of_map h
    rcases List.mem_cons.mp said with said | said
    · exact ⟨false, Observation.poll.inj said⟩
    · exact ih rfl (by simpa using said)
  | absent _ _ ih =>
    rcases List.mem_cons.mp said with said | said
    · exact ⟨false, Observation.poll.inj said⟩
    · exact ih h (by simpa using said)

/-- Two look-ups of the same names that are not stopped and get the same answers come to the same. -/
theorem LookedUp.unique {result result' : Except Fault (Option (List Value))} (looked : LookedUp names seen result)
    (looked' : LookedUp names other result') (quiet : Quiet seen) (quiet' : Quiet other)
    (same : Concordant seen other) : result = result' := by
  induction looked generalizing other result' with
  | done => cases looked'; rfl
  | unpolled | stopped => cases quiet.head
  | unanswered name rest fault =>
    cases looked' with
    | unpolled | stopped => cases quiet'.head
    | unanswered => cases same.type_eq; rfl
    | present | absent => cases same.type_eq
  | present name _ ih =>
    cases looked' with
    | unpolled | stopped => cases quiet'.head
    | unanswered | absent => cases same.type_eq
    | present _ looked' =>
      rw [ih looked' quiet.tail.tail quiet'.tail.tail (same.mono (by simp) (by simp))]
  | absent name _ ih =>
    cases looked' with
    | unpolled | stopped => cases quiet'.head
    | unanswered | present => cases same.type_eq
    | absent _ looked' => exact ih looked' quiet.tail.tail quiet'.tail.tail (same.mono (by simp) (by simp))

/-- A look-up polls once before each name, so it is whole exactly when that many polls may go on. -/
theorem LookedUp.counted {result : Except Fault (Option (List Value))} (looked : LookedUp names seen result)
    {found : Option (List Value)} (h : result = .ok found) {n : Nat} (allows : Allows n seen) :
    (found.isSome = true ↔ names.length ≤ n) ∧ (polls seen).length = min names.length (n + 1) := by
  induction looked generalizing found n with
  | done => cases h; simp
  | unpolled | unanswered => cases h
  | stopped =>
    cases h
    have spent : n = 0 := by simpa using (allows_poll.mp allows).1
    simp [spent]
  | present _ _ ih =>
    obtain ⟨rest, rfl, rfl⟩ := ok_of_map h
    obtain ⟨left, allows⟩ := allows_poll.mp allows
    have left : n ≠ 0 := by simpa using left
    obtain ⟨whole, count⟩ := ih rfl (allows_type.mp allows)
    simp only [Option.isSome_map, whole, polls_poll, polls_type, List.length_cons, count]
    omega
  | absent _ _ ih =>
    obtain ⟨left, allows⟩ := allows_poll.mp allows
    have left : n ≠ 0 := by simpa using left
    obtain ⟨whole, count⟩ := ih h (allows_type.mp allows)
    simp only [whole, polls_poll, polls_type, List.length_cons, count]
    omega

variable {threshold : Value}

/-- A resolution with a result is whole, or it was stopped and came to nothing. -/
theorem Resolved.whole_or_stopped {result : Except Fault (List Value)} (resolved : Resolved threshold names seen result)
    {found : List Value} (h : result = .ok found) : Quiet seen ∨ (.poll (.ok true) ∈ seen ∧ found = []) := by
  cases resolved with
  | unanswered => cases h
  | below => exact .inl (by simp)
  | walked looked =>
    obtain ⟨found, rfl, rfl⟩ := ok_of_map h
    cases found with
    | none => exact .inr ⟨List.mem_cons_of_mem _ (looked.stopped_of_none rfl), rfl⟩
    | some names => exact .inl (quiet_version.mpr (looked.quiet rfl))

theorem Resolved.polled {result : Except Fault (List Value)} (resolved : Resolved threshold names seen result)
    {found : List Value} (h : result = .ok found) {stop : Except Fault Bool} (said : .poll stop ∈ seen) :
    ∃ b, stop = .ok b := by
  cases resolved with
  | unanswered => cases h
  | below => simp at said
  | walked looked =>
    obtain ⟨found, rfl, -⟩ := ok_of_map h
    exact looked.polled rfl (by simpa using said)

/-- Two resolutions that are not stopped and get the same answers come to the same. -/
theorem Resolved.unique {result result' : Except Fault (List Value)} (resolved : Resolved threshold names seen result)
    (resolved' : Resolved threshold names other result') (quiet : Quiet seen) (quiet' : Quiet other)
    (same : Concordant seen other) : result = result' := by
  cases resolved with
  | unanswered fault =>
    cases resolved' with
    | unanswered => cases same.version_eq; rfl
    | below | walked => cases same.version_eq
  | below =>
    cases resolved' with
    | below => rfl
    | unanswered | walked => cases same.version_eq
  | walked looked =>
    cases resolved' with
    | unanswered | below => cases same.version_eq
    | walked looked' => rw [looked.unique looked' quiet.tail quiet'.tail (same.mono (by simp) (by simp))]

/-- A resolution above the threshold polls once before each name, until it is stopped. -/
theorem Resolved.counted {result : Except Fault (List Value)} (resolved : Resolved threshold names seen result)
    (passes : Passes threshold seen) {found : List Value} (h : result = .ok found) {n : Nat} (allows : Allows n seen) :
    (names.length ≤ n → Quiet seen) ∧ (polls seen).length = min names.length (n + 1) := by
  cases resolved with
  | unanswered => cases h
  | below => cases passes (.ok false) [] rfl
  | walked looked =>
    obtain ⟨found, rfl, rfl⟩ := ok_of_map h
    obtain ⟨whole, count⟩ := looked.counted rfl (allows_version.mp allows)
    cases found with
    | none => exact ⟨fun le => absurd (whole.mpr le) (by simp), count⟩
    | some names => exact ⟨fun _ => quiet_version.mpr (looked.quiet rfl), count⟩

end Availability

namespace Answers

/-- A compilation that gives these answers and does nothing else. -/
def metadata (a : Answers) : Metadata Unit where
  atLeast threshold s := (a.atLeast threshold, s)
  defines name s := (a.defines name, s)

/-- The available candidates according to fixed answers: what a resolution comes to that nobody stops. -/
def complete (a : Answers) (threshold : Value) : Except Fault (List Value) :=
  (Availability.resolve a.metadata .never threshold Availability.registry ⟨(), []⟩).1

/-- Thresholds that are the same integer have the same candidates available. -/
theorem complete_congr (a : Answers) {threshold threshold' : Value} {n : Int} (h : threshold.toInt? = some n)
    (h' : threshold'.toInt? = some n) : a.complete threshold = a.complete threshold' := by
  have same : a.atLeast threshold = a.atLeast threshold' := a.atLeast_congr h h'
  simp only [complete, Availability.resolve, Progress.atLeast, metadata, same]
  rcases a.atLeast threshold' with fault | _ | _ <;> rfl

end Answers

namespace Availability
open Record

/-- A resolution that is not stopped has the result that the answers fix. -/
theorem Resolved.eq_complete {a : Answers} {threshold : Value} {seen : Record} {result : Except Fault (List Value)}
    (resolved : Resolved threshold (Candidates.all.map .text) seen result) (quiet : Quiet seen)
    (agrees : Agrees a seen) : result = a.complete threshold := by
  obtain ⟨other, -, talk, resolved'⟩ := resolve_observed a.metadata .never threshold registry rfl ⟨(), []⟩ []
  exact resolved.unique resolved' quiet talk.quiet_of_never
    (agrees.concordant ((Metadata.gives_of_step (fun _ _ => rfl) (fun _ _ => rfl) .never ()).agrees_of_never talk))

/-- The result of a resolution that nobody stops. -/
theorem resolve_never {m : Metadata σ} {t : Token σ} {a : Answers} {s : Progress σ} (gives : m.Gives t s.host a)
    (threshold : Value) : (resolve m .never threshold registry s).1 = a.complete threshold := by
  obtain ⟨seen, -, talk, resolved⟩ := resolve_observed m .never threshold registry rfl s []
  exact resolved.eq_complete talk.quiet_of_never (gives.agrees_of_never talk)

end Availability

/-- What a request to a cache finds that holds nothing for it is the result of a resolution, unless the poll after
the resolution said to stop. -/
theorem Cache.Obtained.of_miss {c c' : Cache} {key threshold : Value} {seen : Record}
    {result : Except Fault (List Value)} (obtained : c.Obtained key threshold seen result c')
    (missed : c.lookUp key threshold = .ok none) (quiet : seen.Quiet) :
    ∃ before, before ⊆ seen ∧ Availability.Resolved threshold (Candidates.all.map .text) before result := by
  cases obtained with
  | refused h | hit h => rw [missed] at h; cases h
  | failed _ resolved => exact ⟨_, List.Subset.refl _, resolved⟩
  | unpolled | dropped => cases quiet _ (List.mem_append_right _ List.mem_cons_self)
  | stored _ resolved _ => exact ⟨_, List.subset_append_left _ _, resolved⟩

namespace Pass

/-- Without a cache, or with one that holds nothing for the pass, what is available comes from a resolution. -/
theorem Found.of_miss {p : Pass σ} {cache cache' : Option Cache} {seen : Record} {result : Except Fault (List Value)}
    (found : p.Found cache seen result cache')
    (missed : ∀ c, cache = some c → c.lookUp p.key p.threshold = .ok none) (quiet : seen.Quiet) :
    ∃ before, before ⊆ seen ∧ Availability.Resolved p.threshold (Candidates.all.map .text) before result := by
  cases found with
  | resolved resolved => exact ⟨_, List.Subset.refl _, resolved⟩
  | cached obtained => exact obtained.of_miss (missed _ rfl) quiet

/-- The same for a whole pass that is not stopped: its record has that of the resolution as a part. -/
theorem resolved_of_miss (p : Pass σ) {s : State σ} (paired : p.isPaired s = true)
    (missed : ∀ c, s.cache = some c → c.lookUp p.key p.threshold = .ok none) (quiet : (p.observations s).Quiet) :
    ∃ before, before ⊆ p.observations s ∧
      Availability.Resolved p.threshold (Candidates.all.map .text) before (p.available s).1 := by
  obtain ⟨first, front, found⟩ := (p.run_observed s).2.2.found paired
  obtain ⟨before, sub, resolved⟩ := found.of_miss missed (quiet.mono front.subset)
  exact ⟨before, List.Subset.trans sub front.subset, resolved⟩

/-- What the cache holds for a pass is what is available. -/
theorem available_of_hit (p : Pass σ) {s : State σ} {c : Cache} {names : List Value} (hc : s.cache = some c)
    (hit : c.lookUp p.key p.threshold = .ok (some names)) : (p.available s).1 = .ok names := by
  simp only [available, hc, Cache.getOrResolve, hit]

end Pass

end TypeForward
