import Mathlib.Data.List.Basic
import TypeForward.Proofs.Options.Construction
import TypeForward.Proofs.Pass.Uncancelled

/-! What a pass makes grows with the compilation and shrinks with what is asked of it. A newer version, more types, a
lower threshold and fewer restrictions by the options never lose an artifact, nor change the order. -/
namespace TypeForward
variable {σ τ : Type}

theorem Extended.le_trans {a b c : Extended} (h : a.le b = true) (h' : b.le c = true) : a.le c = true := by
  cases a <;> cases b <;> cases c <;> simp_all [le]
  exact Rat.le_trans h h'

namespace Value

/-- Integers are compared as the numbers that they are. -/
private theorem numberAtLeast?_eq (v threshold : Value) :
    v.numberAtLeast? threshold = threshold.extended?.bind fun a => v.extended?.map fun b => a.le b := by
  have integer {v : Value} {n : Int} (h : v.toInt? = some n) : v.extended? = some (.number n) := by
    cases v <;> simp_all [toInt?, extended?]
  unfold numberAtLeast?
  split
  · next m n hm hn =>
    rw [integer hm, integer hn]
    exact congrArg some (decide_eq_decide.mpr Rat.intCast_le_intCast.symm)
  · cases threshold.extended? <;> cases v.extended? <;> rfl

private theorem numberAtLeast?_eq_true_iff {v threshold : Value} : v.numberAtLeast? threshold = some true ↔
    ∃ a b, threshold.extended? = some a ∧ v.extended? = some b ∧ a.le b = true := by
  rw [numberAtLeast?_eq]
  cases threshold.extended? <;> cases v.extended? <;> simp

private theorem numberAtLeast?_trans {u v w : Value} (h : u.numberAtLeast? v = some true)
    (h' : v.numberAtLeast? w = some true) : u.numberAtLeast? w = some true := by
  obtain ⟨b, c, hv, hu, le⟩ := numberAtLeast?_eq_true_iff.mp h
  obtain ⟨a, b', hw, hv', le'⟩ := numberAtLeast?_eq_true_iff.mp h'
  cases hv.symm.trans hv'
  exact numberAtLeast?_eq_true_iff.mpr ⟨a, c, hw, hu, Extended.le_trans le' le⟩

/-- A number can be compared with every version. -/
private theorem atLeast?_version {threshold : Value} {a : Extended} (h : threshold.extended? = some a)
    (v : LanguageVersion) :
    ∃ gate, (version v).atLeast? threshold = some gate ∧ (version v).numberAtLeast? threshold = some gate := by
  have same : (version v).atLeast? threshold = (version v).numberAtLeast? threshold := by cases threshold <;> rfl
  rw [same, numberAtLeast?_eq, h]
  exact ⟨_, rfl, rfl⟩

end Value

namespace CoreLibrary

/-- Whether a type is among those that the core library defines. -/
def has (c : CoreLibrary) (name : String) : Bool :=
  c.types.any fun t => t.identity == .key [.text name]

/-- A compilation that is no newer and defines no more. -/
structure Within (c c' : CoreLibrary) : Prop where
  version : c.version.code ≤ c'.version.code
  types : ∀ t ∈ c.types, ∃ t' ∈ c'.types, t'.identity = t.identity

variable {c c' : CoreLibrary}

private theorem Within.has_mono (within : c.Within c') {name : String} (h : c.has name = true) :
    c'.has name = true := by
  obtain ⟨t, mem, same⟩ := List.any_eq_true.mp h
  obtain ⟨t', mem', same'⟩ := within.types t mem
  exact List.any_eq_true.mpr ⟨t', mem', same' ▸ same⟩

/-- The higher threshold is the harder one to reach, and the more so for the older compilation. -/
private theorem Within.atLeast_mono (within : c.Within c') {threshold threshold' : Value}
    (lower : threshold.numberAtLeast? threshold' = some true) :
    ∃ gate gate', c.atLeast threshold = .ok gate ∧ c'.atLeast threshold' = .ok gate' ∧
      (gate = true → gate' = true) := by
  obtain ⟨a', a, ha', ha, -⟩ := Value.numberAtLeast?_eq_true_iff.mp lower
  obtain ⟨gate, h, number⟩ := Value.atLeast?_version ha c.version
  obtain ⟨gate', h', number'⟩ := Value.atLeast?_version ha' c'.version
  refine ⟨gate, gate', by rw [atLeast, h], by rw [atLeast, h'], ?_⟩
  rintro rfl
  have newer : (Value.version c'.version).numberAtLeast? (.version c.version) = some true := by
    simp [Value.numberAtLeast?, Value.toInt?, within.version]
  have reached := Value.numberAtLeast?_trans (Value.numberAtLeast?_trans newer number) lower
  exact Option.some.inj (number'.symm.trans reached)

end CoreLibrary

/-- Options that let no more through. An empty list of included names lets all through. -/
structure Options.Within (o o' : Options) : Prop where
  enabled : o'.excludeForwards = true → o.excludeForwards = true
  publicTypes : o.publicTypes = true → o'.publicTypes = true
  excluded : o'.excluded ⊆ o.excluded
  included : o'.included = [] ∨ (o.included ≠ [] ∧ o.included ⊆ o'.included)

namespace Selection

private theorem accepts_byLists_iff {o : Options} {name : String} : accepts byLists o name = true ↔
    o.excludeForwards = false ∧ name ∉ o.excluded ∧ (o.included = [] ∨ name ∈ o.included) ∧
      (name ∈ Candidates.publicOnly → o.publicTypes = true) := by
  have shown : (!Candidates.publicOnly.contains name || o.publicTypes) = true ↔
      (name ∈ Candidates.publicOnly → o.publicTypes = true) := by
    rw [Bool.or_eq_true, Bool.not_eq_true', ← Bool.not_eq_true, List.contains_iff_mem, imp_iff_not_or]
  have lists : ((byLists (.text name) o).toOption == some true) = true ↔
      name ∉ o.excluded ∧ (o.included = [] ∨ name ∈ o.included) := by
    by_cases h : name ∈ o.excluded <;> simp [byLists, h, Except.toOption]
  rw [accepts, Bool.and_eq_true, Bool.and_eq_true, Bool.not_eq_true', shown, lists, and_assoc, and_assoc]

private theorem accepts_mono {o o' : Options} (within : o.Within o') {name : String}
    (h : accepts byLists o name = true) : accepts byLists o' name = true := by
  obtain ⟨enabled, kept, wanted, shown⟩ := accepts_byLists_iff.mp h
  refine accepts_byLists_iff.mpr
    ⟨?_, fun mem => kept (within.excluded mem), ?_, fun mem => within.publicTypes (shown mem)⟩
  · rw [← Bool.not_eq_true]
    intro disabled
    rw [within.enabled disabled] at enabled
    cases enabled
  · rcases within.included with all | ⟨some, sub⟩
    · exact .inl all
    · exact .inr (sub (wanted.resolve_left some))

/-- Only which names are in the lists counts, not how often or where. -/
private theorem accepts_congr {o o' : Options} (flags : ∀ g, o'.flag g = o.flag g)
    (names : ∀ l n, n ∈ o'.names l ↔ n ∈ o.names l) (name : String) :
    accepts byLists o' name = accepts byLists o name := by
  have within {o o' : Options} (flags : ∀ g, o'.flag g = o.flag g) (names : ∀ l n, n ∈ o'.names l ↔ n ∈ o.names l) :
      o.Within o' := by
    refine ⟨fun h => (flags .excludeForwards).symm.trans h, fun h => (flags .publicTypes).trans h,
      fun n => (names .excluded n).mp, ?_⟩
    cases all : o.included with
    | nil =>
      refine .inl (List.eq_nil_iff_forall_not_mem.mpr fun n mem => ?_)
      have mem := (names .included n).mp mem
      rw [show o.names .included = [] from all] at mem
      cases mem
    | cons n rest =>
      refine .inr ⟨List.cons_ne_nil n rest, fun n mem => (names .included n).mpr ?_⟩
      rw [show o.names .included = _ from all]
      exact mem
  rw [Bool.eq_iff_iff]
  exact ⟨accepts_mono (within (fun g => (flags g).symm) fun l n => (names l n).symm), accepts_mono (within flags names)⟩

end Selection

/-- The forwards that a compilation calls for under options, if it reaches the threshold. -/
def CoreLibrary.forwards (c : CoreLibrary) (gate : Bool) (o : Options) : List Artifact :=
  ((Availability.reported gate c.has).filter (Selection.accepts Selection.byLists o)).map fun name =>
    Artifact.forName (.text name)

private theorem CoreLibrary.Within.forwards_sublist {c c' : CoreLibrary} (within : c.Within c') {gate gate' : Bool}
    (opens : gate = true → gate' = true) {o o' : Options} (less : o.Within o') :
    (c.forwards gate o).Sublist (c'.forwards gate' o') := by
  have reported : (Availability.reported gate c.has).Sublist (Availability.reported gate' c'.has) := by
    cases gate with
    | false => exact List.nil_sublist _
    | true =>
      obtain rfl := opens rfl
      exact List.monotone_filter_right _ fun _ => within.has_mono
  exact ((reported.filter _).trans (List.monotone_filter_right _ fun _ => Selection.accepts_mono less)).map _

namespace Pass
open Record

/-- An emission that succeeds and that nobody stops has made everything, wherever it went. -/
theorem Emitted.complete {chosen : List Value} {o outlet : Outlet} {seen : Record} {result : Except Fault Emission}
    (emitted : Emitted chosen o seen result outlet) (quiet : Quiet seen) {e : Emission} (h : result = .ok e) :
    e.made = chosen.map Artifact.forName := by
  induction emitted generalizing e with
  | done => cases h; rfl
  | stopped => cases quiet.head
  | unpolled | refused => cases h
  | @added name rest o o' _ artifact _ _ _ he _ ih =>
    obtain ⟨e', rfl, rfl⟩ := ok_of_map h
    have own : artifact = Artifact.forName name := (Outlet.emit_ok he).2.1
    rw [own, ih quiet.tail rfl]
    rfl

/-- A pass over a compilation known by its version and its types, without a cache and with the choice left to the name
lists, that no poll stops. -/
structure IsPlain (p : Pass σ) (s : State σ) (c : CoreLibrary) : Prop where
  metadata : p.metadata = c.metadata
  selector : p.selector = Selection.byLists
  key : p.key = .none
  cache : s.cache = none
  quiet : Quiet (p.observations s)

/-- The artifacts of a pass if it succeeds, which it does on an empty sink in memory. -/
def Makes (p : Pass σ) (s : State σ) (made : List Artifact) : Prop :=
  (∀ made', (p.run s).1 = .ok made' → made' = made) ∧ (s.outlet.sink = .memory [] → (p.run s).1 = .ok made)

variable {p : Pass σ} {s : State σ} {c : CoreLibrary}

theorem IsPlain.available (plain : p.IsPlain s c) {gate : Bool} (reaches : c.atLeast p.threshold = .ok gate) :
    (p.available s).1 = .ok ((Availability.reported gate c.has).map .text) := by
  have paired : p.isPaired s = true := by simp [isPaired, plain.key, plain.cache]
  have talk := (p.run_observed s).2.1
  rw [plain.metadata] at talk
  have agrees : Agrees c.answers (p.observations s) := c.gives _ _ _ _ talk
  have reports : Reports p.threshold gate c.has (p.observations s) :=
    ⟨fun answer h => (agrees.1 _ answer h).trans reaches, fun name answer h => agrees.2 _ answer h⟩
  obtain ⟨before, sub, resolved⟩ := p.resolved_of_miss paired (by simp [plain.cache]) plain.quiet
  exact resolved.eq_reported (plain.quiet.mono sub) (reports.mono sub)

/-- Such a pass makes the forwards that the compilation calls for. -/
private theorem IsPlain.makes (plain : p.IsPlain s c) {gate : Bool} (reaches : c.atLeast p.threshold = .ok gate) :
    p.Makes s (c.forwards gate p.options) := by
  have paired : p.isPaired s = true := by simp [isPaired, plain.key, plain.cache]
  have answers : Selection.Answers p.selector p.options (Availability.reported gate c.has) :=
    plain.selector ▸ Selection.answers_byLists _ _
  have select := Selection.select_texts answers
  obtain ⟨before, more, emission, record, -, emitted, result⟩ :=
    (p.run_observed s).2.2.emission paired (plain.available reaches) (congrArg Prod.fst select)
  have quiet : Quiet more := (quiet_append.mp (record ▸ plain.quiet)).2
  rw [plain.selector] at emitted
  rw [Makes, result, CoreLibrary.forwards]
  constructor
  · intro made h
    obtain ⟨e, rfl, rfl⟩ := ok_of_map h
    rw [emitted.complete quiet rfl, List.map_map]
    rfl
  · intro empty
    have start : s.outlet = ⟨.memory [], s.outlet.disk⟩ := by rw [← empty]
    have names : (Availability.reported gate c.has).Nodup := by
      cases gate with
      | false => exact List.nodup_nil
      | true => exact List.Pairwise.filter _ (by decide : Candidates.all.Nodup)
    rw [emitted.whole start quiet (isPrintable_texts _) (Artifact.nodup_hintNames (names.filter _)) (by simp)]
    simp [Except.map, Function.comp_def]

/-- An older compilation that defines less, a higher threshold and stricter options make a subsequence of what there is
otherwise. What was given for the options counts only as the set of its trimmed texts: their order, how often they come
and the space around them make no difference. -/
theorem run_monotone (p : Pass σ) (p' : Pass τ) (s : State σ) (s' : State τ) (c c' : CoreLibrary)
    (plain : p.IsPlain s c) (plain' : p'.IsPlain s' c') (within : c.Within c')
    (lower : p.threshold.numberAtLeast? p'.threshold = some true) (less : p.options.Within p'.options) :
    ∃ made made', p.Makes s made ∧ p'.Makes s' made' ∧ made.Sublist made' ∧
      ∀ (q : Pass σ) (r : State σ) (a b : Options.Arguments), q.IsPlain r c → q.threshold = p.threshold →
        Options.build a = .ok p.options → Options.build b = .ok q.options → (∀ g, b (.flag g) = a (.flag g)) →
        (∀ l n, n ∈ b.trimmed l ↔ n ∈ a.trimmed l) → q.Makes r made := by
  obtain ⟨gate, gate', reaches, reaches', opens⟩ := within.atLeast_mono lower
  refine ⟨_, _, plain.makes reaches, plain'.makes reaches', within.forwards_sublist opens less, ?_⟩
  intro q r a b plain_q threshold built built_q flags names
  have accepts : Selection.accepts Selection.byLists q.options = Selection.accepts Selection.byLists p.options := by
    funext name
    apply Selection.accepts_congr
    · intro g
      have same := ((Options.build_ok built_q).1 g).symm.trans ((flags g).trans ((Options.build_ok built).1 g))
      exact Value.bool.inj same
    · intro l n
      rw [Options.names_of_build built_q, Options.names_of_build built]
      exact names l n
  have made := plain_q.makes (threshold ▸ reaches)
  rwa [CoreLibrary.forwards, accepts, ← CoreLibrary.forwards] at made

theorem quiet_of_never (token : p.token = .never) : Quiet (p.observations s) := by
  have talk := (p.run_observed s).2.1
  rw [token] at talk
  exact talk.quiet_of_never

/-- Arguments for public types with these included and excluded names. -/
def listArguments (included excluded : List String) : Options.Arguments
  | .flag .excludeForwards => .bool false
  | .flag .publicTypes => .bool true
  | .names .included => .list (included.map .text)
  | .names .excluded => .tuple (excluded.map .text)

/-- Two included names of which one is excluded, written in two ways, against empty lists and a newer compilation. -/
theorem run_monotone_padded :
    let c : CoreLibrary := ⟨.csharp9, [.text "System.Range", .text "System.Index"]⟩
    let c' : CoreLibrary := ⟨.csharp13, Candidates.all.map .text⟩
    let a := listArguments [" System.Index", "System.Range", "System.Index\n"] ["System.Range"]
    let b := listArguments ["System.Range\t", "System.Index"] ["System.Range", " System.Range"]
    let p : Pass Unit := ⟨c.metadata, .never,
      ⟨false, true, ["System.Index", "System.Range", "System.Index"], ["System.Range"]⟩, Selection.byLists,
      .version .csharp9, .none⟩
    let q := { p with options := ⟨false, true, ["System.Range", "System.Index"], ["System.Range", "System.Range"]⟩ }
    let p' : Pass Unit := ⟨c'.metadata, .never, ⟨false, true, [], []⟩, Selection.byLists, .int 800, .none⟩
    let s : State Unit := ⟨⟨(), []⟩, none, ⟨.memory [], .fresh⟩, []⟩
    Options.build a = .ok p.options ∧ Options.build b = .ok q.options ∧
      ∃ made made', (p.run s).1 = .ok made ∧ (q.run s).1 = .ok made ∧ (p'.run s).1 = .ok made' ∧
        made.Sublist made' ∧ made.length = 1 ∧ made'.length = 3 := by
  intro c c' a b p q p' s
  have built : Options.build a = .ok p.options := by rfl
  have built_q : Options.build b = .ok q.options := by rfl
  have within : c.Within c' := by
    refine ⟨by decide, fun t mem => ⟨t, ?_, rfl⟩⟩
    rcases List.mem_cons.mp mem with rfl | mem
    · exact List.mem_cons_of_mem _ List.mem_cons_self
    · obtain rfl := List.mem_singleton.mp mem
      exact List.mem_cons_self
  have less : p.options.Within p'.options := ⟨id, id, List.nil_subset _, .inl rfl⟩
  obtain ⟨made, made', makes, makes', sub, same⟩ := run_monotone p p' s s c c' ⟨rfl, rfl, rfl, rfl, quiet_of_never rfl⟩
    ⟨rfl, rfl, rfl, rfl, quiet_of_never rfl⟩ within (by decide) less
  have names (l : NameList) (n : String) : n ∈ b.trimmed l ↔ n ∈ a.trimmed l := by
    rw [← Options.names_of_build built, ← Options.names_of_build built_q]
    cases l <;> simp [p, q, Options.names, or_comm]
  have flags (g : Flag) : b (.flag g) = a (.flag g) := by cases g <;> rfl
  have again := same q s a b ⟨rfl, rfl, rfl, rfl, quiet_of_never rfl⟩ rfl built built_q flags names
  have one : (p.run s).1 = .ok [Artifact.forName (.text Candidates.index)] := by rfl
  have all : (p'.run s).1 = .ok (Candidates.all.map fun name => Artifact.forName (.text name)) := by rfl
  obtain rfl := makes.1 _ one
  obtain rfl := makes'.1 _ all
  exact ⟨built, built_q, _, _, makes.2 rfl, again.2 rfl, makes'.2 rfl, sub, rfl, rfl⟩

end Pass

end TypeForward
