import Mathlib.Data.List.Sort
import TypeForward.Value.Key

/-! How keys are written. The keys of several values can be told apart when their atoms follow each other without a
break, and keys have one ordered form, whatever order they come in and however often. -/
namespace TypeForward.Key

theorem dateCode_injective : Function.Injective momentCode.dateCode := by
  rintro ⟨⟩ ⟨⟩ h
  simpa [momentCode.dateCode, Int.natCast_inj] using h

theorem clockCode_injective : Function.Injective momentCode.clockCode := by
  rintro ⟨⟩ ⟨⟩ h
  simpa [momentCode.clockCode, Int.natCast_inj] using h

theorem momentCode_injective : Function.Injective momentCode := by
  intro m m' h
  cases m <;> cases m' <;> simp only [momentCode, List.cons.injEq] at h
  case date.date => rw [dateCode_injective h.2]
  case time.time => rw [clockCode_injective h.2]
  case dateTime.dateTime offset _ _ offset' =>
    obtain ⟨front, offsets⟩ := List.append_inj h.2 rfl
    obtain ⟨days, clocks⟩ := List.append_inj front rfl
    have same : offset = offset' := by simpa using congrArg List.head? offsets
    rw [dateCode_injective days, clockCode_injective clocks, same]
  all_goals cases h.1

theorem Atom.code_injective : Function.Injective Atom.code := by
  intro a b h
  cases a <;> cases b <;> simp only [code, List.cons.injEq] at h
  case none.none => rfl
  case number.number q q' =>
    obtain ⟨-, num, den, -⟩ := h
    rw [Rat.ext num (Int.natCast_inj.mp den)]
  case infinite.infinite negative negative' => cases negative <;> cases negative' <;> simp_all
  case text.text s s' =>
    have chars : s.toList = s'.toList :=
      List.map_injective_iff.mpr (fun c c' same => Char.toNat_inj.mp (Int.natCast_inj.mp same)) h.2
    rw [String.toList_inj.mp chars]
  case octets.octets bytes bytes' =>
    have same : bytes = bytes' :=
      List.map_injective_iff.mpr (fun b b' same => UInt8.toNat_inj.mp (Int.natCast_inj.mp same)) h.2
    rw [same]
  case instant.instant => rw [h.2.1]
  case moment.moment => rw [momentCode_injective h.2]
  case tuple.tuple | members.members => rw [Int.natCast_inj.mp h.2.1]
  all_goals cases h.1

theorem code_injective : Function.Injective code :=
  List.map_injective_iff.mpr Atom.code_injective

/-- The order in which the members of a set are written. -/
def Precedes (k l : Key) : Prop :=
  k.code < l.code

instance : Std.Irrefl Precedes :=
  ⟨fun k => List.lt_irrefl k.code⟩

instance : IsTrans Key Precedes :=
  ⟨fun _ _ _ => List.lt_trans⟩

instance : Std.Antisymm Precedes :=
  ⟨fun _ _ h h' => absurd h' (List.lt_asymm h)⟩

theorem Precedes.total {k l : Key} (ne : k ≠ l) (h : ¬ Precedes k l) : Precedes l k := by
  rcases List.le_iff_lt_or_eq.mp (List.not_lt.mp h) with before | same
  · exact before
  · exact absurd (code_injective same.symm) ne

private theorem mem_place {k l : Key} {ks : List Key} : l ∈ place k ks ↔ l = k ∨ l ∈ ks := by
  induction ks with
  | nil => simp [place]
  | cons first rest ih =>
    unfold place
    split_ifs with same before
    · subst same
      simp
    · simp
    · simp [ih, or_left_comm]

theorem mem_ordered {k : Key} {ks : List Key} : k ∈ ordered ks ↔ k ∈ ks := by
  induction ks with
  | nil => rfl
  | cons first rest ih => rw [ordered, List.foldr_cons, mem_place, ← ordered, ih, List.mem_cons]

private theorem pairwise_place {k : Key} {ks : List Key} (sorted : ks.Pairwise Precedes) :
    (place k ks).Pairwise Precedes := by
  induction ks with
  | nil => simp [place]
  | cons first rest ih =>
    obtain ⟨least, sorted'⟩ := List.pairwise_cons.mp sorted
    unfold place
    split_ifs with same before
    · exact sorted
    · refine List.pairwise_cons.mpr ⟨fun l mem => ?_, sorted⟩
      rcases List.mem_cons.mp mem with rfl | mem
      · exact before
      · exact trans_of Precedes before (least l mem)
    · refine List.pairwise_cons.mpr ⟨fun l mem => ?_, ih sorted'⟩
      rcases mem_place.mp mem with rfl | mem
      · exact Precedes.total same before
      · exact least l mem

private theorem pairwise_ordered (ks : List Key) : (ordered ks).Pairwise Precedes := by
  induction ks with
  | nil => exact .nil
  | cons first rest ih => exact pairwise_place ih

/-- The ordered form depends on which keys there are alone. -/
theorem ordered_eq_iff {ks ls : List Key} : ordered ks = ordered ls ↔ ∀ k, k ∈ ks ↔ k ∈ ls := by
  constructor
  · intro same k
    rw [← mem_ordered, same, mem_ordered]
  · intro same
    refine (pairwise_ordered ks).eq_of_mem_iff (pairwise_ordered ls) fun k => ?_
    rw [mem_ordered, mem_ordered, same]

/-- How many keys follow an atom. -/
def Atom.arity : Atom → Nat
  | tuple size | members size => size
  | _ => 0

/-- The keys of values: an atom, followed by as many keys as it asks for. -/
inductive IsWritten : Key → Prop where
  | node {a : Atom} {parts : List Key} (size : parts.length = a.arity) (written : ∀ k ∈ parts, IsWritten k) :
    IsWritten (a :: parts.flatten)

/-- Keys that are each told from others by their front are told from others when they follow each other. -/
private theorem eq_of_flatten {parts others : List Key} {rest rest' : Key}
    (told : ∀ k ∈ parts, ∀ {l}, IsWritten l → ∀ {rest rest'}, k ++ rest = l ++ rest' → k = l)
    (written : ∀ l ∈ others, IsWritten l) (size : parts.length = others.length)
    (h : parts.flatten ++ rest = others.flatten ++ rest') : parts = others := by
  induction parts generalizing others with
  | nil => exact (List.length_eq_zero_iff.mp size.symm).symm
  | cons k parts ih =>
    obtain _ | ⟨l, others⟩ := others
    · cases size
    · simp only [List.flatten_cons, List.append_assoc] at h
      obtain rfl : k = l := told k List.mem_cons_self (written l List.mem_cons_self) h
      rw [ih (fun k mem => told k (List.mem_cons_of_mem _ mem)) (fun l mem => written l (List.mem_cons_of_mem _ mem))
        (Nat.succ.inj size) (List.append_cancel_left h)]

/-- No key is the beginning of another. -/
private theorem IsWritten.eq_of_append {k l : Key} (hk : IsWritten k) (hl : IsWritten l) {rest rest' : Key}
    (h : k ++ rest = l ++ rest') : k = l := by
  -- What follows is arbitrary, as inside a collection it is the other parts.
  induction hk generalizing l rest rest' with
  | node size _ ih =>
    obtain ⟨size', written'⟩ := hl
    obtain ⟨rfl, tails⟩ := List.cons.inj h
    rw [eq_of_flatten ih written' (size.trans size'.symm) tails]

theorem eq_of_flatten_eq {ks ls : List Key} (hk : ∀ k ∈ ks, IsWritten k) (hl : ∀ l ∈ ls, IsWritten l)
    (size : ks.length = ls.length) (h : ks.flatten = ls.flatten) : ks = ls :=
  eq_of_flatten (fun k mem _ => (hk k mem).eq_of_append) hl size (congrArg (· ++ []) h)

end TypeForward.Key
