import TypeForward.Proofs.Pass.Cancellation
import TypeForward.Proofs.Pass.Uncancelled

/-! What a pass leaves behind that fails, on a sink in memory. Where the fault arises decides it: before the first
poll, before anything is selected, or at a selected name, with the names before it registered. -/
namespace TypeForward
variable {σ : Type}
open Record

/-- What was answered, whatever was asked. -/
def Observation.answer : Observation → Except Fault Bool
  | poll answer | version _ answer | type _ answer => answer

/-- The host failed with this fault. -/
def Record.Fails (fault : Fault) (seen : Record) : Prop :=
  ∃ o ∈ seen, o.answer = .error fault

theorem Record.Fails.mono {fault : Fault} {seen seen' : Record} (fails : Fails fault seen) (sub : seen ⊆ seen') :
    Fails fault seen' := by
  obtain ⟨o, mem, answer⟩ := fails
  exact ⟨o, sub mem, answer⟩

namespace Availability

variable {names : List Value} {seen : Record} {threshold : Value} {fault : Fault}

/-- A look-up fails only as its host does. -/
theorem LookedUp.fails {result : Except Fault (Option (List Value))} (looked : LookedUp names seen result)
    (h : result = .error fault) : Fails fault seen := by
  induction looked with
  | done | stopped => cases h
  | unpolled => cases h; exact ⟨_, List.mem_cons_self, rfl⟩
  | unanswered => cases h; exact ⟨_, List.mem_cons_of_mem _ List.mem_cons_self, rfl⟩
  | present _ _ ih => exact (ih (error_of_map h)).mono (by simp)
  | absent _ _ ih => exact (ih h).mono (by simp)

/-- A resolution fails only as its host does. -/
theorem Resolved.fails {result : Except Fault (List Value)} (resolved : Resolved threshold names seen result)
    (h : result = .error fault) : Fails fault seen := by
  cases resolved with
  | unanswered => cases h; exact ⟨_, List.mem_cons_self, rfl⟩
  | below => cases h
  | walked looked => exact (looked.fails (error_of_map h)).mono (by simp)

/-- What a look-up finds are candidates, in their order. -/
theorem LookedUp.sublist {result : Except Fault (Option (List Value))} (looked : LookedUp names seen result)
    {found : List Value} (h : result = .ok (some found)) : found.Sublist names := by
  induction looked generalizing found with
  | done => cases h; exact .refl []
  | unpolled | stopped | unanswered => cases h
  | present name _ ih =>
    obtain ⟨rest, rfl, whole⟩ := ok_of_map h
    obtain ⟨found, rfl, rfl⟩ := Option.map_eq_some_iff.mp whole
    exact (ih rfl).cons_cons name
  | absent name _ ih => exact (ih h).cons name

theorem Resolved.sublist {found : List Value} (resolved : Resolved threshold names seen (.ok found)) :
    found.Sublist names := by
  generalize h : Except.ok found = result at resolved
  cases resolved with
  | unanswered => cases h
  | below => cases h; exact List.nil_sublist names
  | walked looked =>
    obtain ⟨found', rfl, rfl⟩ := ok_of_map h.symm
    cases found' with
    | none => exact List.nil_sublist names
    | some found => exact looked.sublist rfl

end Availability

namespace Selection

variable {selector : Selector} {options : Options} {names : List Value} {fault : Fault}

/-- The selector itself fails at one of the names. -/
def FailsAt (selector : Selector) (options : Options) (names : List Value) (fault : Fault) : Prop :=
  ∃ name ∈ names, selector name options = .error fault

/-- The decision on a name fails as the selector does, or since the name cannot be looked up. -/
private theorem decideName_error {name : Value} (h : (decideName selector options name).1 = .error fault) :
    selector name options = .error fault ∨ (name.memberIdentity = .unhashable ∧ fault = .wrongType) := by
  unfold decideName at h
  split at h
  · cases h
  · dsimp only at h
    split at h
    · unfold isPublicOnly at h
      split at h
      · next unhashable =>
        cases h
        exact .inr ⟨unhashable, rfl⟩
      · cases h
    · exact .inl h

/-- Selection fails at a name, as the selector does or since the name cannot be looked up. -/
private theorem select_error (h : (select selector options names).1 = .error fault) :
    FailsAt selector options names fault ∨
      (∃ name ∈ names, name.memberIdentity = .unhashable) ∧ fault = .wrongType := by
  induction names with
  | nil => cases h
  | cons name rest ih =>
    rw [select] at h
    rcases hd : decideName selector options name with ⟨fault' | keep, asked⟩
    · rw [hd] at h
      obtain rfl := Except.error.inj h
      rcases decideName_error (congrArg Prod.fst hd) with fails | ⟨unhashable, rfl⟩
      · exact .inl ⟨name, List.mem_cons_self, fails⟩
      · exact .inr ⟨⟨name, List.mem_cons_self, unhashable⟩, rfl⟩
    · rw [hd] at h
      have later : (select selector options rest).1 = .error fault := error_of_map h
      rcases ih later with ⟨other, mem, fails⟩ | ⟨⟨other, mem, unhashable⟩, rfl⟩
      · exact .inl ⟨other, List.mem_cons_of_mem _ mem, fails⟩
      · exact .inr ⟨⟨other, List.mem_cons_of_mem _ mem, unhashable⟩, rfl⟩

/-- Among candidates it is the selector that fails. -/
private theorem failsAt_of_sublist {texts : List String} (sub : names.Sublist (texts.map .text))
    (failed : (select selector options names).1 = .error fault) : FailsAt selector options names fault := by
  rcases select_error failed with fails | ⟨⟨name, mem, unhashable⟩, -⟩
  · exact fails
  · obtain ⟨text, -, rfl⟩ := List.mem_map.mp (sub.subset mem)
    cases unhashable

end Selection

namespace Cache

/-- A request that fails leaves the cache as it was, and fails as the host does if not at the look-up. -/
theorem Obtained.error {c c' : Cache} {key threshold : Value} {seen : Record} {fault : Fault}
    (obtained : c.Obtained key threshold seen (.error fault) c') :
    c' = c ∧ (c.lookUp key threshold = .error fault ∨ Fails fault seen) := by
  cases obtained with
  | refused refused => exact ⟨rfl, .inl refused⟩
  | failed _ resolved => exact ⟨rfl, .inr (resolved.fails rfl)⟩
  | unpolled => exact ⟨rfl, .inr ⟨_, List.mem_append_right _ List.mem_cons_self, rfl⟩⟩

/-- Only what cannot be a key makes a look-up fail. -/
private theorem lookUp_error {c : Cache} {key threshold : Value} {fault : Fault}
    (h : c.lookUp key threshold = .error fault) : fault = .wrongType := by
  unfold lookUp at h
  split at h <;> cases h
  rfl

end Cache

namespace Pass

variable {p : Pass σ} {s : State σ}

theorem Found.error {cache cache' : Option Cache} {seen : Record} {fault : Fault}
    (found : p.Found cache seen (.error fault) cache') :
    cache' = cache ∧ (fault = .wrongType ∨ Fails fault seen) := by
  cases found with
  | resolved resolved => exact ⟨rfl, .inr (resolved.fails rfl)⟩
  | cached obtained =>
    obtain ⟨rfl, why⟩ := obtained.error
    exact ⟨rfl, why.imp_left Cache.lookUp_error⟩

/-- If the names that were found cannot be selected, a cache has changed only where what it missed was resolved without
a stop, and then the selector itself has failed. -/
theorem Found.unselected {cache cache' : Option Cache} {seen : Record} {names : List Value} {fault : Fault}
    (found : p.Found cache seen (.ok names) cache')
    (failed : (Selection.select p.selector p.options names).1 = .error fault) :
    cache' = cache ∨ (Selection.FailsAt p.selector p.options names fault ∧ Quiet seen ∧
      ∃ c, cache = some c ∧ c.lookUp p.key p.threshold = .ok none) := by
  cases found with
  | resolved => exact .inl rfl
  | cached obtained =>
    cases obtained with
    | hit | dropped => exact .inl rfl
    | stored missed resolved inserted =>
      have fails := Selection.failsAt_of_sublist resolved.sublist failed
      refine .inr ⟨fails, ?_, _, rfl, missed⟩
      rcases resolved.whole_or_stopped rfl with quiet | ⟨-, rfl⟩
      · exact quiet_append.mpr ⟨quiet, by simp⟩
      · cases failed

end Pass

namespace Outlet

variable {sources : List (String × SourceText)} {disk : Disk} {name : Value}

end Outlet

namespace Pass

variable {p : Pass σ} {s : State σ}

/-- Before `name` come the names of `front`, which can be written, with hint names that are neither taken nor met
twice. -/
structure IsCut (taken : List String) (chosen front : List Value) (name : Value) : Prop where
  split : front ++ [name] <+: chosen
  printable : ∀ n ∈ front, n.isPrintable = true
  fresh : ∀ n ∈ front, Artifact.hintNameOf n ∉ taken
  distinct : (front.map Artifact.hintNameOf).Nodup

/-- The first name that cannot be registered is `name`: its hint name is taken or that of a name before it. -/
structure IsClash (taken : List String) (chosen front : List Value) (name : Value) : Prop
    extends IsCut taken chosen front name where
  writable : name.isPrintable = true
  clash : Artifact.hintNameOf name ∈ taken ++ front.map Artifact.hintNameOf

theorem IsCut.nil (taken : List String) (name : Value) (rest : List Value) : IsCut taken (name :: rest) [] name where
  split := by simp
  printable := by simp
  fresh := by simp
  distinct := by simp

/-- A name that is registered is one more that is taken. -/
theorem IsCut.cons {taken : List String} {rest front : List Value} {first name : Value}
    (cut : IsCut (taken ++ [Artifact.hintNameOf first]) rest front name) (printable : first.isPrintable = true)
    (fresh : Artifact.hintNameOf first ∉ taken) : IsCut taken (first :: rest) (first :: front) name where
  split := (List.prefix_cons_inj first).mpr cut.split
  printable := List.forall_mem_cons.mpr ⟨printable, cut.printable⟩
  fresh := by
    intro n mem
    rcases List.mem_cons.mp mem with rfl | mem
    · exact fresh
    · exact fun known => cut.fresh n mem (List.mem_append_left _ known)
  distinct := by
    refine List.nodup_cons.mpr ⟨?_, cut.distinct⟩
    intro mem
    obtain ⟨n, mem, same⟩ := List.mem_map.mp mem
    exact cut.fresh n mem (List.mem_append_right _ (by simp [same]))

/-- No cut lies behind a clash. -/
private theorem IsClash.length_le {taken : List String} {chosen front front' : List Value} {name name' : Value}
    (clash : IsClash taken chosen front name) (cut : IsCut taken chosen front' name') :
    front'.length ≤ front.length := by
  refine Nat.le_of_not_lt fun longer => ?_
  have inside : front ++ [name] <+: front' :=
    List.prefix_of_prefix_length_le clash.split ((List.prefix_append _ _).trans cut.split) (by simp; omega)
  obtain ⟨more, rfl⟩ := inside
  rcases List.mem_append.mp clash.clash with known | before
  · exact cut.fresh name (by simp) known
  · have distinct : ((front ++ [name]).map Artifact.hintNameOf).Nodup := by
      have all := cut.distinct
      rw [List.map_append] at all
      exact (List.nodup_append.mp all).1
    rw [List.map_append] at distinct
    exact (List.nodup_append.mp distinct).2.2 _ before _ (by simp) rfl

/-- There is one clash at most. -/
theorem IsClash.unique {taken : List String} {chosen front front' : List Value} {name name' : Value}
    (clash : IsClash taken chosen front name) (clash' : IsClash taken chosen front' name') :
    front = front' ∧ name = name' := by
  have same : front.length = front'.length :=
    Nat.le_antisymm (clash'.length_le clash.toIsCut) (clash.length_le clash'.toIsCut)
  have whole : front ++ [name] = front' ++ [name'] :=
    (List.prefix_of_prefix_length_le clash.split clash'.split (by simp [same])).eq_of_length (by simp [same])
  obtain ⟨fronts, names⟩ := List.append_inj whole same
  exact ⟨fronts, by simpa using names⟩

/-- After a resolution that a one-way signal let pass what was resolved is stored. -/
theorem Found.stored {c : Cache} {cache : Option Cache} {before more : Record} {names : List Value}
    (found : p.Found (some c) before (.ok names) cache) (missed : c.lookUp p.key p.threshold = .ok none)
    (oneWay : OneWay (before ++ more)) (passed : .poll (.ok false) ∈ more) :
    ∃ c', c.insert p.key p.threshold names = .ok c' ∧ cache = some c' := by
  cases found with
  | cached obtained =>
    cases obtained with
    | hit hit => rw [missed] at hit; cases hit
    | dropped =>
      cases (List.pairwise_append.mp oneWay).2.2 _ (List.mem_append_right _ List.mem_cons_self) _ passed rfl _ rfl
    | stored _ _ inserted => exact ⟨_, inserted, rfl⟩

end Pass

end TypeForward
