import TypeForward.Proofs.Pass.Emission

/-! What a pass that nobody stops amounts to: the available names that the options, the selector and the rule for
public types accept, registered in their order. -/
namespace TypeForward
variable {σ : Type}

namespace Selection

/-- Whether a type is forwarded. -/
def accepts (selector : Selector) (options : Options) (name : String) : Bool :=
  !options.excludeForwards && (selector (.text name) options).toOption == some true &&
    (!Candidates.publicOnly.contains name || options.publicTypes)

/-- The selector, where it is asked at all, has an answer about each of some names of types. -/
def Answers (selector : Selector) (options : Options) (names : List String) : Prop :=
  options.excludeForwards = false → ∀ name ∈ names, ∃ answer, selector (.text name) options = .ok answer

/-- The name lists always have an answer. -/
theorem byLists_ok (name : Value) (options : Options) : ∃ answer, byLists name options = .ok answer := by
  rw [byLists]
  split
  · exact ⟨_, rfl⟩
  · exact ⟨_, rfl⟩

theorem answers_byLists (options : Options) (names : List String) : Answers byLists options names :=
  fun _ name _ => byLists_ok (.text name) options

/-- Selection among names of types keeps the accepted ones, and the selector is asked about each name once, or about
none when forwards are disabled. -/
theorem select_texts {selector : Selector} {options : Options} {names : List String}
    (answers : Answers selector options names) :
    select selector options (names.map .text) = (.ok ((names.filter (accepts selector options)).map .text),
      if options.excludeForwards then [] else names.map .text) := by
  induction names with
  | nil => simp [select]
  | cons name rest ih =>
    have ih := ih fun enabled other mem => answers enabled other (List.mem_cons_of_mem _ mem)
    have decided : decideName selector options (.text name) =
        (.ok (accepts selector options name), if options.excludeForwards then [] else [.text name]) := by
      cases disabled : options.excludeForwards with
      | true => simp [decideName, accepts, disabled]
      | false =>
        obtain ⟨answer, asked⟩ := answers disabled name List.mem_cons_self
        cases answer with
        | true => simp [decideName, accepts, disabled, asked, isPublicOnly, Value.memberIdentity, Except.map,
            Except.toOption]
        | false => simp [decideName, accepts, disabled, asked, Except.toOption]
    rw [List.map_cons, select, decided]
    simp only [ih, Except.map]
    cases kept : accepts selector options name <;> cases options.excludeForwards <;> simp [kept]

end Selection

/-- The compilation reports whether its version reaches a threshold and which names of types its core library
defines. Only the answers to the questions that were asked count. -/
def Record.Reports (threshold : Value) (gate : Bool) (defines : String → Bool) (seen : Record) : Prop :=
  (∀ answer, .version threshold answer ∈ seen → answer = .ok gate) ∧
  ∀ name answer, .type (.text name) answer ∈ seen → answer = .ok (defines name)

theorem Record.Reports.mono {threshold : Value} {gate : Bool} {defines : String → Bool} {seen seen' : Record}
    (reports : Reports threshold gate defines seen) (sub : seen' ⊆ seen) : Reports threshold gate defines seen' := by
  constructor
  · intro answer h
    exact reports.1 answer (sub h)
  · intro name answer h
    exact reports.2 name answer (sub h)

namespace Availability
open Record

/-- The candidates that are reported present, or none below the threshold. -/
def reported (gate : Bool) (defines : String → Bool) : List String :=
  if gate then Candidates.all.filter defines else []

private theorem LookedUp.reported {threshold : Value} {gate : Bool} {defines : String → Bool} {names : List String}
    {seen : Record} {result : Except Fault (Option (List Value))} (looked : LookedUp (names.map .text) seen result)
    (quiet : Quiet seen) (reports : Reports threshold gate defines seen) :
    result = .ok (some ((names.filter defines).map .text)) := by
  induction names generalizing seen result with
  | nil => cases looked; rfl
  | cons name rest ih =>
    cases looked with
    | unpolled | stopped => cases quiet.head
    | unanswered _ _ fault => cases reports.2 name (.error fault) (by simp)
    | present _ looked =>
      have known : defines name = true := by simpa using (reports.2 name (.ok true) (by simp)).symm
      rw [ih looked quiet.tail.tail (reports.mono (by simp))]
      simp [Except.map, known]
    | absent _ looked =>
      have unknown : defines name = false := by simpa using (reports.2 name (.ok false) (by simp)).symm
      rw [ih looked quiet.tail.tail (reports.mono (by simp))]
      simp [unknown]

/-- A resolution that nobody stops finds the candidates that are reported present. -/
theorem Resolved.eq_reported {threshold : Value} {gate : Bool} {defines : String → Bool} {seen : Record}
    {result : Except Fault (List Value)} (resolved : Resolved threshold (Candidates.all.map .text) seen result)
    (quiet : Quiet seen) (reports : Reports threshold gate defines seen) :
    result = .ok ((reported gate defines).map .text) := by
  cases resolved with
  | unanswered fault => cases reports.1 (.error fault) (by simp)
  | below =>
    have closed : gate = false := by simpa using (reports.1 (.ok false) (by simp)).symm
    simp [reported, closed]
  | walked looked =>
    have passed : gate = true := by simpa using (reports.1 (.ok true) (by simp)).symm
    rw [looked.reported quiet.tail (reports.mono (by simp))]
    simp [reported, passed, Except.map]

end Availability

namespace Pass
open Record

/-- The availability of a pass: what its cache holds, or else what the compilation reports. -/
def IsAvailability (p : Pass σ) (s : State σ) (names : List String) : Prop :=
  (∃ c, s.cache = some c ∧ c.lookUp p.key p.threshold = .ok (some (names.map .text))) ∨
  ((s.cache = none ∨ ∃ c, s.cache = some c ∧ c.lookUp p.key p.threshold = .ok none) ∧
    ∃ gate defines, Reports p.threshold gate defines (p.observations s) ∧ names = Availability.reported gate defines)

/-- Texts can always be written. -/
theorem isPrintable_texts (names : List String) : ∀ v ∈ names.map Value.text, v.isPrintable = true := by
  intro v mem
  obtain ⟨name, -, rfl⟩ := List.mem_map.mp mem
  rfl

private theorem available_of_isAvailability {p : Pass σ} {s : State σ} {names : List String}
    (available : p.IsAvailability s names) (paired : p.isPaired s = true) (quiet : Quiet (p.observations s)) :
    (p.available s).1 = .ok (names.map .text) := by
  rcases available with ⟨c, hc, stored⟩ | ⟨missed, gate, defines, reports, rfl⟩
  · exact p.available_of_hit hc stored
  · have missed : ∀ c, s.cache = some c → c.lookUp p.key p.threshold = .ok none := by
      rcases missed with none | ⟨c, hc, missed⟩
      · simp [none]
      · rw [hc]
        exact fun c' h => Option.some.inj h ▸ missed
    obtain ⟨before, sub, resolved⟩ := p.resolved_of_miss paired missed quiet
    exact resolved.eq_reported (quiet.mono sub) (reports.mono sub)

/-- A pass that no poll stops and whose selector has answers, on a sink in memory without the hint names of what is
available, succeeds. It makes and registers the forwards of the accepted names, in the order of availability, and asks
the selector about each available name once, or about none when forwards are disabled. -/
theorem run_of_quiet (p : Pass σ) (s : State σ) {sources : List (String × SourceText)} {disk : Disk}
    {names : List String}
    (memory : s.outlet = ⟨.memory sources, disk⟩) (paired : p.isPaired s = true) (quiet : Quiet (p.observations s))
    (available : p.IsAvailability s names) (answers : Selection.Answers p.selector p.options names)
    (distinct : names.Nodup)
    (fresh : ∀ name ∈ names, Artifact.hintNameOf (.text name) ∉ sources.map (·.1)) :
    let made := (names.filter (Selection.accepts p.selector p.options)).map fun name => Artifact.forName (.text name)
    (p.run s).1 = .ok made ∧ (p.run s).2.outlet = ⟨.memory (sources ++ made.map Artifact.entry), disk⟩ ∧
      (p.run s).2.asked = s.asked ++ if p.options.excludeForwards then [] else names.map .text := by
  have names_eq := available_of_isAvailability available paired quiet
  have ran := (p.run_observed s).2.2
  generalize p.observations s = seen, (p.run s).1 = result, (p.run s).2.cache = cache, (p.run s).2.outlet = outlet,
    (p.run s).2.asked = asked at ran quiet ⊢
  cases ran with
  | unpaired h => rw [paired] at h; cases h
  | unavailable _ h _ => rw [names_eq] at h; cases h
  | unselected _ h _ hs =>
    cases names_eq.symm.trans h
    rw [Selection.select_texts answers] at hs
    cases hs
  | emitted _ h _ hs emitted =>
    cases names_eq.symm.trans h
    rw [Selection.select_texts answers] at hs
    cases hs
    have whole := emitted.whole memory (quiet_append.mp quiet).2 (isPrintable_texts _)
      (Artifact.nodup_hintNames (distinct.filter _)) (by
        intro name mem
        obtain ⟨n, kept, rfl⟩ := List.mem_map.mp mem
        exact fresh n (List.mem_filter.mp kept).1)
    obtain ⟨-, after⟩ := emitted.memory memory whole
    rw [whole, after, List.map_map]
    exact ⟨rfl, rfl, rfl⟩

/-- A pass over a compilation that defines one candidate and another type, next to a source of somebody else. -/
theorem run_of_quiet_index :
    let p : Pass Unit := ⟨CoreLibrary.metadata ⟨.csharp8, [.text Candidates.index, .text "System.Span"]⟩, .never,
      ⟨false, true, [], []⟩, Selection.byLists, Availability.defaultThreshold, .none⟩
    let s : State Unit := ⟨⟨(), []⟩, none, ⟨.memory [("Other.g.cs", .text "")], .fresh⟩, []⟩
    let made := Artifact.forName (.text Candidates.index)
    (p.run s).1 = .ok [made] ∧
      (p.run s).2.outlet = ⟨.memory [("Other.g.cs", .text ""), made.entry], .fresh⟩ ∧
      (p.run s).2.asked = [.text Candidates.index] := by
  intro p s made
  let c : CoreLibrary := ⟨.csharp8, [.text Candidates.index, .text "System.Span"]⟩
  have talk := (p.run_observed s).2.1
  have agrees : Agrees c.answers (p.observations s) := c.gives _ _ _ _ talk
  have reports : Reports p.threshold true (fun name => c.types.any fun t => t.identity == .key [.text name])
      (p.observations s) :=
    ⟨fun answer h => agrees.1 _ answer h, fun name answer h => agrees.2 _ answer h⟩
  have available : p.IsAvailability s [Candidates.index] := .inr ⟨.inl rfl, _, _, reports, by decide⟩
  exact p.run_of_quiet s rfl rfl talk.quiet_of_never available (Selection.answers_byLists _ _) (by decide) (by decide)

end Pass

end TypeForward
