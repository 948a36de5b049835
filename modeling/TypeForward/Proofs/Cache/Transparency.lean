import TypeForward.Proofs.Cache.Slots
import TypeForward.Proofs.Pass.Emission

/-! A cache over whole runs. Whatever uses it, with whatever signals, it only ever holds complete results, so that a
pass that nobody stops cannot tell whether it has one. -/
namespace TypeForward
variable {σ : Type}
open Record

namespace Cache

/-- A request for what is available, by a pass or on its own, with the state in which it finds the host. -/
structure Request (σ : Type) where
  key : Value
  threshold : Value
  metadata : Metadata σ
  token : Token σ
  progress : Progress σ

namespace Request

/-- What the request comes to without a cache when nobody stops it. -/
def complete (r : Request σ) : Except Fault (List Value) :=
  (Availability.resolve r.metadata .never r.threshold Availability.registry r.progress).1

/-- What is assumed of a request: its key is hashable and not `none`, its threshold is an integer, its signal is
one-way, and its compilation has fixed answers, which are those of the world for its key. What is asked may set the
signal. -/
structure Fits (world : Key → Answers) (r : Request σ) : Prop where
  named : r.key ≠ .none
  hashable : r.key.identity ≠ .unhashable
  integer : ∃ n, r.threshold.toInt? = some n
  oneWay : r.token.IsOneWay r.metadata r.progress.host
  gives : ∃ a, r.metadata.Gives r.token r.progress.host a ∧ ∀ k, r.key.identity = .key k → a = world k

end Request

end Cache

namespace Pass

/-- The request for available names that a pass makes. -/
def request (p : Pass σ) (progress : Progress σ) : Cache.Request σ :=
  ⟨p.key, p.threshold, p.metadata, p.token, progress⟩

/-- The same pass without a key, as it is run without a cache. -/
def uncached (p : Pass σ) : Pass σ :=
  { p with key := .none }

/-- The state in which a pass starts. -/
def State.start (progress : Progress σ) (cache : Option Cache) (outlet : Outlet) : State σ :=
  ⟨progress, cache, outlet, []⟩

end Pass

namespace Cache

/-- What can be done with a cache. -/
inductive Use (σ : Type) where
  | pass (p : Pass σ) (progress : Progress σ) (outlet : Outlet)
  | resolve (r : Request σ)
  | clear

def Use.request? : Use σ → Option (Request σ)
  | pass p progress _ => some (p.request progress)
  | resolve r => some r
  | clear => none

/-- The cache after a use of it. -/
def use (c : Cache) : Use σ → Cache
  | .pass p progress outlet => (p.run (.start progress (some c) outlet)).2.cache.getD c
  | .resolve r => (c.getOrResolve r.key r.threshold r.metadata r.token r.progress).2.1
  | .clear => .empty

/-- The cache after uses of an empty one, one after the other. -/
def after (uses : List (Use σ)) : Cache :=
  uses.foldl use .empty

/-- A one-way signal that still says to go on after a resolution did not stop it, so that only complete results are
stored. -/
private theorem Obtained.complete_of_changed {c c' : Cache} {key threshold : Value} {seen : Record}
    {result : Except Fault (List Value)} (obtained : c.Obtained key threshold seen result c') (oneWay : OneWay seen)
    {a : Answers} (agrees : Agrees a seen) :
    c' = c ∨ ∃ names, a.complete threshold = .ok names ∧ c.insert key threshold names = .ok c' := by
  cases obtained with
  | refused | hit | failed | unpolled | dropped => exact .inl rfl
  | @stored seen names _ _ resolved hc =>
    have quiet : Quiet seen := by
      intro stop said
      obtain ⟨stopped, rfl⟩ := resolved.polled rfl said
      cases stopped with
      | false => rfl
      | true => cases (List.pairwise_append.mp oneWay).2.2 _ said _ List.mem_cons_self rfl _ rfl
    have complete := resolved.eq_complete quiet (agrees.mono (List.subset_append_left _ _))
    exact .inr ⟨names, complete.symm, hc⟩

variable {world : Key → Answers}

private theorem isPaired_start {p : Pass σ} (named : p.key ≠ .none) (progress : Progress σ) (c : Cache)
    (outlet : Outlet) : p.isPaired (.start progress (some c) outlet) = true := by
  unfold Pass.isPaired
  split
  · contradiction
  · rfl

/-- What one use does to a cache: nothing, or it empties it, or it stores the complete result of its request. -/
private theorem use_cases (c : Cache) (u : Use σ) (fits : ∀ r, u.request? = some r → r.Fits world) :
    c.use u = c ∨ c.use u = .empty ∨
      ∃ r names, u.request? = some r ∧ r.complete = .ok names ∧ c.insert r.key r.threshold names = .ok (c.use u) := by
  cases u with
  | clear => exact .inr (.inl rfl)
  | resolve r =>
    have fit := fits r rfl
    obtain ⟨a, gives, -⟩ := fit.gives
    obtain ⟨seen, -, talk, obtained⟩ := c.getOrResolve_observed r.key r.threshold r.metadata r.token r.progress []
    have oneWay : OneWay seen := Token.IsOneWay.record fit.oneWay talk
    rcases obtained.complete_of_changed oneWay (gives _ _ talk) with same | ⟨names, complete, hc⟩
    · exact .inl same
    · exact .inr (.inr ⟨r, names, rfl, (Availability.resolve_never gives r.threshold).trans complete, hc⟩)
  | pass p progress outlet =>
    have fit := fits _ rfl
    obtain ⟨a, gives, -⟩ := fit.gives
    let s : Pass.State σ := .start progress (some c) outlet
    obtain ⟨-, talk, ran⟩ := p.run_observed s
    obtain ⟨before, front, found⟩ := ran.found (isPaired_start fit.named progress c outlet)
    have oneWay : OneWay before := (Token.IsOneWay.record fit.oneWay talk).sublist front.sublist
    have agrees : Agrees a before := (gives _ _ talk).mono front.subset
    obtain ⟨c', hc', obtained⟩ : ∃ c', (p.run s).2.cache = some c' ∧
        c.Obtained p.key p.threshold before (p.available s).1 c' := by
      generalize (p.run s).2.cache = after at found
      cases found with
      | cached obtained => exact ⟨_, rfl, obtained⟩
    have used : c.use (.pass p progress outlet) = c' := by
      rw [use, hc']
      rfl
    rw [used]
    rcases obtained.complete_of_changed oneWay agrees with same | ⟨names, complete, hc⟩
    · exact .inl same
    · exact .inr (.inr ⟨p.request progress, names, rfl,
        (Availability.resolve_never gives p.threshold).trans complete, hc⟩)

/-- Every entry that uses add to a cache is the complete result of a request among them. -/
private theorem mem_uses {uses : List (Use σ)} (fits : ∀ u ∈ uses, ∀ r, u.request? = some r → r.Fits world) {c : Cache}
    {entry : Option Key × List Value} (mem : entry ∈ (uses.foldl use c).entries) :
    entry ∈ c.entries ∨
      ∃ u ∈ uses, ∃ r, u.request? = some r ∧ entry.1 = label r.key r.threshold ∧ r.complete = .ok entry.2 := by
  induction uses generalizing c with
  | nil => exact .inl mem
  | cons u rest ih =>
    rcases ih (fun u' h => fits u' (List.mem_cons_of_mem _ h)) mem with mem | ⟨u', hu', later⟩
    · rcases c.use_cases u (fits u List.mem_cons_self) with same | cleared | ⟨r, names, hr, complete, hc⟩
      · exact .inl (same ▸ mem)
      · rw [cleared] at mem
        cases mem
      · rcases mem_insert hc mem with rfl | mem
        · exact .inr ⟨u, List.mem_cons_self, r, hr, rfl, complete⟩
        · exact .inl mem
    · exact .inr ⟨u', List.mem_cons_of_mem _ hu', later⟩

/-- Requests that fit one world and have one label have one complete result. -/
private theorem Request.complete_eq {r r' : Request σ} (fit : r.Fits world) (fit' : r'.Fits world) {k : Key}
    (h : label r.key r.threshold = some k) (h' : label r'.key r'.threshold = some k) : r.complete = r'.complete := by
  obtain ⟨n, hn⟩ := fit.integer
  obtain ⟨n', hn'⟩ := fit'.integer
  obtain ⟨rfl, κ, hκ, hκ'⟩ := key_of_label hn hn' h h'
  obtain ⟨a, gives, ha⟩ := fit.gives
  obtain ⟨a', gives', ha'⟩ := fit'.gives
  calc
    r.complete = a.complete r.threshold := Availability.resolve_never gives r.threshold
    _ = a'.complete r'.threshold := by rw [ha κ hκ, ha' κ hκ', (world κ).complete_congr hn hn']
    _ = r'.complete := (Availability.resolve_never gives' r'.threshold).symm

/-- What is found after uses that fit one world is the complete result of the request, if that fits too. -/
private theorem complete_of_lookUp {uses : List (Use σ)} (fits : ∀ u ∈ uses, ∀ r, u.request? = some r → r.Fits world)
    {r : Request σ} (fit : r.Fits world) {names : List Value}
    (h : (after uses).lookUp r.key r.threshold = .ok (some names)) : r.complete = .ok names := by
  obtain ⟨k, known, mem⟩ := mem_of_lookUp h
  rcases mem_uses fits mem with none | ⟨u, hu, r', hr', known', complete⟩
  · cases none
  · rw [r.complete_eq fit (fits u hu r' hr') known known'.symm, complete]

/-- To a pass that nobody stops the same is available with the cache as without one. -/
private theorem available_eq_uncached {uses : List (Use σ)}
    (fits : ∀ u ∈ uses, ∀ r, u.request? = some r → r.Fits world) {p : Pass σ} {progress : Progress σ} {outlet : Outlet}
    (fit : (p.request progress).Fits world)
    (quiet : Quiet (p.observations (.start progress (some (after uses)) outlet)))
    (quiet' : Quiet (p.uncached.observations (.start progress none outlet))) :
    (p.available (.start progress (some (after uses)) outlet)).1 =
      (p.uncached.available (.start progress none outlet)).1 := by
  obtain ⟨a, gives, -⟩ := fit.gives
  have complete : (p.request progress).complete = a.complete p.threshold :=
    Availability.resolve_never gives p.threshold
  have alone : (p.uncached.available (.start progress none outlet)).1 = a.complete p.threshold := by
    obtain ⟨-, talk, -⟩ := p.uncached.run_observed (.start progress none outlet)
    obtain ⟨before, sub, resolved⟩ := p.uncached.resolved_of_miss rfl (fun c hc => by cases hc) quiet'
    exact resolved.eq_complete (quiet'.mono sub) ((gives _ _ talk).mono sub)
  obtain ⟨n, hn⟩ := fit.integer
  obtain ⟨stored, hit⟩ := lookUp_of_integer hn fit.hashable (after uses)
  cases stored with
  | some names => rw [p.available_of_hit rfl hit, alone, ← complete, complete_of_lookUp fits fit hit]
  | none =>
    have missed : ∀ c, some (after uses) = some c → c.lookUp p.key p.threshold = .ok none :=
      fun c hc => Option.some.inj hc ▸ hit
    obtain ⟨-, talk, -⟩ := p.run_observed (.start progress (some (after uses)) outlet)
    obtain ⟨before, sub, resolved⟩ :=
      p.resolved_of_miss (isPaired_start fit.named progress (after uses) outlet) missed quiet
    rw [alone]
    exact resolved.eq_complete (quiet.mono sub) ((gives _ _ talk).mono sub)

/-- After any uses of an empty cache that fit one world, in any order and however they were stopped: every entry is
the complete result of a request that was made, under what the request is kept; what a request finds is its own
complete result; and a pass that nobody stops, be it with the cache or without one, has the same result and leaves the
same outlet with it as without one, and asks its selector the same. Storing by hand is no use in this sense. -/
theorem after_transparent (world : Key → Answers) (uses : List (Use σ))
    (fits : ∀ u ∈ uses, ∀ r, u.request? = some r → r.Fits world) :
    (∀ entry ∈ (after uses).entries, ∃ u ∈ uses, ∃ r, u.request? = some r ∧
      entry.1 = label r.key r.threshold ∧ r.complete = .ok entry.2) ∧
    (∀ r : Request σ, r.Fits world → ∀ names, (after uses).lookUp r.key r.threshold = .ok (some names) →
      r.complete = .ok names) ∧
    ∀ (p : Pass σ) (progress : Progress σ) (outlet : Outlet), (p.request progress).Fits world →
      Quiet (p.observations (.start progress (some (after uses)) outlet)) →
      Quiet (p.uncached.observations (.start progress none outlet)) →
        let cached := p.run (.start progress (some (after uses)) outlet)
        let alone := p.uncached.run (.start progress none outlet)
        cached.1 = alone.1 ∧ cached.2.outlet = alone.2.outlet ∧ cached.2.asked = alone.2.asked := by
  refine ⟨?_, ?_, ?_⟩
  · intro entry mem
    rcases mem_uses fits mem with none | found
    · cases none
    · exact found
  · intro r fit names h
    exact complete_of_lookUp fits fit h
  · intro p progress outlet fit quiet quiet'
    have ran := (p.run_observed (.start progress (some (after uses)) outlet)).2.2
    have ran' := (p.uncached.run_observed (.start progress none outlet)).2.2
    exact ran.unique ran' (isPaired_start fit.named progress (after uses) outlet) rfl
      (available_eq_uncached fits fit quiet quiet') rfl rfl rfl quiet quiet'

end Cache

/-- A compilation that raises a flag of its host when it is asked about a certain type. -/
def CoreLibrary.flagging (c : CoreLibrary) (watched : String) : Metadata Bool where
  atLeast threshold raised := (c.atLeast threshold, raised)
  defines name raised := (c.defines name, raised || name.isAmong [watched])

/-- The signal that the flag of the host is. -/
def Token.flag : Token Bool :=
  ⟨fun raised => (.ok raised, raised)⟩

namespace Cache

/-- Requests that share a flag fit the world with that compilation only. -/
private theorem Request.fits_flagging (c : CoreLibrary) (watched key : String) {threshold : Value} {n : Int}
    (h : threshold.toInt? = some n) (progress : Progress Bool) :
    Request.Fits (fun _ => c.answers) ⟨.text key, threshold, c.flagging watched, .flag, progress⟩ where
  named := by simp
  hashable := by simp
  integer := ⟨n, h⟩
  oneWay := by
    apply Token.isOneWay_of_step (fun _ stops => stops) (fun _ _ stops => stops)
    intro name raised stops
    obtain rfl : raised = true := Except.ok.inj stops
    rfl
  gives := ⟨c.answers, Metadata.gives_of_step (fun _ _ => rfl) (fun _ _ => rfl) _ _, fun _ _ => rfl⟩

/-- A request that is stopped during its look-up stores nothing, the next one does, and a pass finds it. -/
theorem after_transparent_flagging :
    let c : CoreLibrary := ⟨.csharp8, [.text Candidates.index, .text Candidates.range]⟩
    let stopped : Request Bool :=
      ⟨.text "corlib", Availability.defaultThreshold, c.flagging Candidates.range, .flag, ⟨false, []⟩⟩
    let calm : Request Bool := ⟨.text "corlib", .int 800, c.flagging "System.Span", .flag, ⟨false, []⟩⟩
    let p : Pass Bool := ⟨c.flagging "System.Span", .flag, ⟨false, true, [], []⟩, Selection.byLists,
      Availability.defaultThreshold, .text "corlib"⟩
    let outlet : Outlet := ⟨.memory [], .fresh⟩
    let uses : List (Use Bool) := [.resolve stopped, .resolve calm]
    (after [.resolve stopped]).size = 0 ∧ (after uses).size = 1 ∧
      (∀ entry ∈ (after uses).entries, ∃ u ∈ uses, ∃ r, u.request? = some r ∧
        entry.1 = label r.key r.threshold ∧ r.complete = .ok entry.2) ∧
      (p.run (.start ⟨false, []⟩ (some (after uses)) outlet)).2.outlet =
        (p.uncached.run (.start ⟨false, []⟩ none outlet)).2.outlet := by
  intro c stopped calm p outlet uses
  have fits : ∀ u ∈ uses, ∀ r, u.request? = some r → r.Fits fun _ => c.answers := by
    intro u hu r hr
    rcases List.mem_cons.mp hu with rfl | hu
    · obtain rfl := Option.some.inj hr
      exact Request.fits_flagging c Candidates.range "corlib" rfl _
    · obtain rfl := List.mem_singleton.mp hu
      obtain rfl := Option.some.inj hr
      exact Request.fits_flagging c "System.Span" "corlib" rfl _
  have fit : (p.request ⟨false, []⟩).Fits fun _ => c.answers :=
    Request.fits_flagging c "System.Span" "corlib" rfl _
  obtain ⟨complete, -, transparent⟩ := after_transparent (fun _ => c.answers) uses fits
  have quiet : Quiet (p.observations (.start ⟨false, []⟩ (some (after uses)) outlet)) :=
    quiet_of_polls (show _ = List.replicate 2 _ from rfl)
  have quiet' : Quiet (p.uncached.observations (.start ⟨false, []⟩ none outlet)) :=
    quiet_of_polls (show _ = List.replicate 5 _ from rfl)
  exact ⟨rfl, rfl, complete, (transparent p _ outlet fit quiet quiet').2.1⟩

end Cache

end TypeForward
