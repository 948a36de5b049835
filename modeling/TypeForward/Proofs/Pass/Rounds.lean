import TypeForward.Proofs.Cache.Transparency
import TypeForward.Proofs.Pass.Failure

/-! A resolution round by round, each a poll and then a question. Either every name had its round and the result is
whole, or a poll said to stop and there is no result, whatever was found before. -/
namespace TypeForward
variable {σ : Type}

namespace Record

/-- The record of rounds: for each name a poll that said to go on, and then the answer about the name. -/
def rounds (answers : List (Value × Bool)) : Record :=
  answers.flatMap fun answer => [.poll (.ok false), .type answer.1 (.ok answer.2)]

/-- The poll after `k` others is the first that said to stop. -/
def StopsFirstAt (k : Nat) (seen : Record) : Prop :=
  (polls seen)[k]? = some (.ok true) ∧ ∀ i < k, (polls seen)[i]? ≠ some (.ok true)

@[simp] theorem rounds_cons (name : Value) (answer : Bool) (answers : List (Value × Bool)) :
    rounds ((name, answer) :: answers) = .poll (.ok false) :: .type name (.ok answer) :: rounds answers := rfl

@[simp] theorem polls_rounds (answers : List (Value × Bool)) :
    polls (rounds answers) = List.replicate answers.length (.ok false) := by
  induction answers with
  | nil => rfl
  | cons answer answers ih => rw [rounds_cons, polls_poll, polls_type, ih, List.length_cons, List.replicate_succ]

end Record

/-- The names among the answered ones that are defined. -/
def definedOf (answers : List (Value × Bool)) : List Value :=
  (answers.filter (·.2)).map (·.1)

namespace Availability
open Record

/-- What can come after the rounds of a look-up: the names without a round, the end of the record, and the result. -/
inductive Ending (answers : List (Value × Bool)) :
    List Value → Record → Except Fault (Option (List Value)) → Prop where
  | whole : Ending answers [] [] (.ok (some (definedOf answers)))
  | cut (name : Value) (rest : List Value) : Ending answers (name :: rest) [.poll (.ok true)] (.ok none)
  | unpolled (name : Value) (rest : List Value) (fault : Fault) :
      Ending answers (name :: rest) [.poll (.error fault)] (.error fault)
  | unanswered (name : Value) (rest : List Value) (fault : Fault) :
      Ending answers (name :: rest) [.poll (.ok false), .type name (.error fault)] (.error fault)

variable {names rest : List Value} {answers : List (Value × Bool)} {seen last : Record} {threshold : Value}

theorem Ending.cons {result : Except Fault (Option (List Value))} (ending : Ending answers rest last result)
    (name : Value) (answer : Bool) :
    Ending ((name, answer) :: answers) rest last
      (if answer then result.map (·.map (name :: ·)) else result) := by
  cases answer <;> cases ending <;> constructor

/-- A look-up consists of rounds and an ending. -/
private theorem LookedUp.exists_rounds {result : Except Fault (Option (List Value))}
    (looked : LookedUp names seen result) :
    ∃ answers rest last, names = answers.map (·.1) ++ rest ∧ seen = rounds answers ++ last ∧
      Ending answers rest last result := by
  induction looked with
  | done => exact ⟨[], [], [], rfl, rfl, .whole⟩
  | unpolled name rest fault => exact ⟨[], _, _, rfl, rfl, .unpolled name rest fault⟩
  | stopped name rest => exact ⟨[], _, _, rfl, rfl, .cut name rest⟩
  | unanswered name rest fault => exact ⟨[], _, _, rfl, rfl, .unanswered name rest fault⟩
  | present name _ ih =>
    obtain ⟨answers, rest, last, rfl, rfl, ending⟩ := ih
    exact ⟨(name, true) :: answers, rest, last, rfl, rfl, ending.cons name true⟩
  | absent name _ ih =>
    obtain ⟨answers, rest, last, rfl, rfl, ending⟩ := ih
    exact ⟨(name, false) :: answers, rest, last, rfl, rfl, ending.cons name false⟩

/-- The resolution was cut by the poll before name number `k`: the names before it had their rounds, it and those
after it were not asked about, and the result is nothing. -/
structure CutAt (threshold : Value) (names : List Value) (k : Nat) (seen : Record)
    (result : Except Fault (List Value)) : Prop where
  inside : k < names.length
  shape : ∃ answers : List (Value × Bool), answers.map (·.1) = names.take k ∧
    seen = .version threshold (.ok true) :: (rounds answers ++ [.poll (.ok true)])
  count : (polls seen).length = k + 1
  nothing : result = .ok []

/-- The resolution is whole: every name had its round, in order, and the result is the names that are defined, each as
often as it was given. -/
structure Whole (threshold : Value) (names : List Value) (seen : Record)
    (result : Except Fault (List Value)) : Prop where
  shape : ∃ answers : List (Value × Bool), answers.map (·.1) = names ∧
    seen = .version threshold (.ok true) :: rounds answers ∧ result = .ok (definedOf answers)
  count : (polls seen).length = names.length

/-- After rounds alone a poll that says to stop is the end. -/
private theorem Ending.of_stopsFirstAt {result : Except Fault (Option (List Value))}
    (ending : Ending answers rest last result)
    {k : Nat} (stops : StopsFirstAt k (.version threshold (.ok true) :: (rounds answers ++ last))) :
    k = answers.length ∧ rest ≠ [] ∧ last = [.poll (.ok true)] ∧ result = .ok none := by
  have said : (List.replicate answers.length (.ok false) ++ polls last)[k]? = some (.ok true) := by
    simpa using stops.1
  rcases Nat.lt_or_ge k answers.length with early | late
  · rw [List.getElem?_append_left (by simpa using early), List.getElem?_replicate, if_pos early] at said
    cases said
  · rw [List.getElem?_append_right (by simpa using late), List.length_replicate] at said
    have alone {stop : Except Fault Bool} (h : [stop][k - answers.length]? = some (.ok true)) :
        k = answers.length ∧ stop = .ok true := by
      obtain ⟨inside, same⟩ := List.getElem?_eq_some_iff.mp h
      have zero : k - answers.length = 0 := by simpa using inside
      exact ⟨by omega, by simpa using same⟩
    cases ending with
    | whole => cases said
    | cut name rest => exact ⟨(alone said).1, by simp, rfl, rfl⟩
    | unpolled | unanswered => cases (alone said).2

/-- A resolution above the threshold is cut at the first poll that says to stop. -/
private theorem Resolved.cutAt {result : Except Fault (List Value)} (resolved : Resolved threshold names seen result)
    (passes : Passes threshold seen) {k : Nat} (stops : StopsFirstAt k seen) : CutAt threshold names k seen result := by
  cases resolved with
  | unanswered | below => cases passes _ _ rfl
  | walked looked =>
    obtain ⟨answers, rest, last, rfl, rfl, ending⟩ := looked.exists_rounds
    obtain ⟨rfl, some, rfl, rfl⟩ := ending.of_stopsFirstAt stops
    refine ⟨?_, ⟨answers, by simp, rfl⟩, by simp, rfl⟩
    have left : 0 < rest.length := List.length_pos_iff.mpr some
    simp only [List.length_append, List.length_map]
    omega

/-- A resolution above the threshold that no poll stops is whole, unless its host fails. -/
theorem Resolved.whole {result : Except Fault (List Value)} (resolved : Resolved threshold names seen result)
    (passes : Passes threshold seen) (unstopped : .ok true ∉ polls seen) :
    Whole threshold names seen result ∨ ∃ fault, result = .error fault ∧ Fails fault seen := by
  cases result with
  | error fault => exact .inr ⟨fault, rfl, resolved.fails rfl⟩
  | ok found =>
    generalize h : Except.ok found = result at resolved ⊢
    cases resolved with
    | unanswered | below => cases passes _ _ rfl
    | walked looked =>
      obtain ⟨answers, rest, last, rfl, rfl, ending⟩ := looked.exists_rounds
      cases ending with
      | whole => exact .inl ⟨⟨answers, by simp, by simp, rfl⟩, by simp⟩
      | cut => simp at unstopped
      | unpolled | unanswered => cases h

/-- The answers that a resolution gets. -/
def observations (m : Metadata σ) (t : Token σ) (threshold candidates : Value) (s : Progress σ) : Record :=
  (resolve m.observed t.observed threshold candidates (s.observed [])).2.host.seen

end Availability

/-- The answer to the question in front of a dialogue is that of the compilation at the start. -/
theorem Dialogue.version_eq {m : Metadata σ} {t : Token σ} {h h' : σ} {seen : Record} {threshold : Value}
    {answer : Except Fault Bool} (talk : Dialogue m t h (.version threshold answer :: seen) h') :
    answer = (m.atLeast threshold h).1 := by
  cases talk
  rfl

/-- Where a one-way signal does not say to stop at the end of a dialogue, no poll of it said so. -/
private theorem Token.IsOneWay.unstopped {m : Metadata σ} {t : Token σ} {h h' : σ} {seen : Record}
    (oneWay : t.IsOneWay m h) (talk : Dialogue m t h seen h') (goes : ¬ t.Stops h') : .ok true ∉ Record.polls seen := by
  intro said
  have whole : Record.OneWay (seen ++ [.poll (t.poll h').1]) := oneWay.record (talk.append (.poll (.done _)))
  obtain ⟨o, mem, polled⟩ := List.mem_filterMap.mp said
  cases o with
  | poll stop =>
    obtain rfl := Option.some.inj polled
    exact goes ((List.pairwise_append.mp whole).2.2 _ mem _ List.mem_cons_self rfl _ rfl)
  | version | type => cases polled

namespace Availability
open Record

/-- A resolution is all or nothing, and its record is known. It puts the question about the version first. Where the
threshold is not reached that is all, and the result is nothing. Above it the resolution goes in rounds: it is cut at
the first poll that says to stop, if there is one, and then its result is nothing; otherwise it is whole, unless the
host fails. So it is whole with a signal that is one-way, however it is set, and does not say to stop after the
resolution. Keeping the record changes nothing. -/
theorem resolve_all_or_nothing (m : Metadata σ) (t : Token σ) (threshold candidates : Value) {names : List Value}
    (walk : candidates.elements? = some names) (s : Progress σ) :
    let (result, s') := resolve m t threshold candidates s
    let seen := observations m t threshold candidates s
    resolve m.observed t.observed threshold candidates (s.observed []) = (result, s'.observed seen) ∧
    (∀ fault, (m.atLeast threshold s.host).1 = .error fault →
      result = .error fault ∧ seen = [.version threshold (.error fault)]) ∧
    ((m.atLeast threshold s.host).1 = .ok false → result = .ok [] ∧ seen = [.version threshold (.ok false)]) ∧
    ((m.atLeast threshold s.host).1 = .ok true →
      (∀ k, StopsFirstAt k seen → CutAt threshold names k seen result) ∧
      (.ok true ∉ polls seen →
        Whole threshold names seen result ∨ ∃ fault, result = .error fault ∧ Fails fault seen) ∧
      (t.IsOneWay m s.host → ¬ t.Stops s'.host →
        Whole threshold names seen result ∨ ∃ fault, result = .error fault ∧ Fails fault seen)) := by
  obtain ⟨seen, same, talk, resolved⟩ := resolve_observed m t threshold candidates walk s []
  have record : observations m t threshold candidates s = seen := by
    rw [observations, same]
    rfl
  rw [record]
  generalize resolve m t threshold candidates s = run at same talk resolved
  obtain ⟨result, s'⟩ := run
  refine ⟨same, ?_, ?_, ?_⟩
  · intro fault failed
    cases resolved with
    | unanswered fault' =>
      obtain rfl := Except.error.inj (talk.version_eq.trans failed)
      exact ⟨rfl, rfl⟩
    | below | walked => cases talk.version_eq.trans failed
  · intro low
    cases resolved with
    | below => exact ⟨rfl, rfl⟩
    | unanswered | walked => cases talk.version_eq.trans low
  · intro gate
    have passes := talk.passes gate
    refine ⟨fun k stops => resolved.cutAt passes stops, resolved.whole passes, ?_⟩
    intro oneWay goes
    exact resolved.whole passes (oneWay.unstopped talk goes)

/-- A question about the second of four candidates, two of them the same, raises the flag, and the resolution is cut
before the third. If it is the last question that raises it, there is no poll any more, and the resolution is whole. -/
theorem resolve_all_or_nothing_flagging :
    let c : CoreLibrary := ⟨.csharp8, [.text "A", .text "B"]⟩
    let names : List Value := ["A", "B", "A", "C"].map .text
    let seen (watched : String) : Record :=
      observations (c.flagging watched) .flag defaultThreshold (.list names) ⟨false, []⟩
    CutAt defaultThreshold names 2 (seen "B") (.ok []) ∧
      Whole defaultThreshold names (seen "C") (.ok (["A", "B", "A"].map .text)) := by
  intro c names seen
  have stops : StopsFirstAt 2 (seen "B") := by
    refine ⟨rfl, ?_⟩
    intro i before
    rcases i with _ | _ | i
    · exact nofun
    · exact nofun
    · omega
  have unstopped : .ok true ∉ polls (seen "C") := by
    have said : polls (seen "C") = List.replicate 4 (.ok false) := rfl
    simp [said]
  obtain ⟨-, -, -, above⟩ :=
    resolve_all_or_nothing (c.flagging "B") .flag defaultThreshold (.list names) rfl ⟨false, []⟩
  obtain ⟨-, -, -, above'⟩ :=
    resolve_all_or_nothing (c.flagging "C") .flag defaultThreshold (.list names) rfl ⟨false, []⟩
  refine ⟨(above rfl).1 2 stops, ?_⟩
  rcases (above' rfl).2.1 unstopped with whole | ⟨fault, failed, -⟩
  · exact whole
  · cases failed

end Availability

end TypeForward
