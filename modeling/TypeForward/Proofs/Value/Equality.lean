import TypeForward.Proofs.Value.Keys
import TypeForward.Value.Membership

/-! Keys stand for equality. Two values that can be keys are equal exactly if they have the same key, and a value can be
a key unless there is something in it that can change. -/
namespace TypeForward

namespace Identity

private theorem append_eq_key_iff {a b : Identity} {k : Key} :
    a.append b = .key k ↔ ∃ i j, a = .key i ∧ b = .key j ∧ k = i ++ j := by
  cases a <;> cases b <;> simp [append, eq_comm]

private theorem append_eq_unhashable_iff {a b : Identity} :
    a.append b = .unhashable ↔ a = .unhashable ∨ b = .unhashable := by
  cases a <;> cases b <;> simp [append]

private theorem foldr_append_eq_key_iff {ids : List Identity} {k : Key} :
    ids.foldr append (.key []) = .key k ↔ ∃ ks : List Key, ids = ks.map .key ∧ k = ks.flatten := by
  induction ids generalizing k with
  | nil => simp [eq_comm]
  | cons id ids ih =>
    rw [List.foldr_cons, append_eq_key_iff]
    constructor
    · rintro ⟨i, j, rfl, rest, rfl⟩
      obtain ⟨ks, rfl, rfl⟩ := ih.mp rest
      exact ⟨i :: ks, rfl, rfl⟩
    · rintro ⟨ks, same, rfl⟩
      obtain _ | ⟨i, ks⟩ := ks
      · cases same
      · obtain ⟨rfl, rfl⟩ := List.cons.inj same
        exact ⟨i, ks.flatten, rfl, ih.mpr ⟨ks, rfl, rfl⟩, rfl⟩

private theorem foldr_append_eq_unhashable_iff {ids : List Identity} :
    ids.foldr append (.key []) = .unhashable ↔ .unhashable ∈ ids := by
  induction ids with
  | nil => simp
  | cons id ids ih => rw [List.foldr_cons, append_eq_unhashable_iff, ih, List.mem_cons, eq_comm]

private theorem ofMembers_eq_key_iff {ids : List Identity} {k : Key} :
    ofMembers ids = .key k ↔
      ∃ ks : List Key, ids = ks.map .key ∧ k = .members (Key.ordered ks).length :: (Key.ordered ks).flatten := by
  have keys (ks : List Key) : (ks.map key).filterMap key? = ks := by
    simp [List.filterMap_map, Function.comp_def, key?]
  constructor
  · unfold ofMembers
    split
    next whole =>
      obtain ⟨ks, rfl, -⟩ := foldr_append_eq_key_iff.mp whole
      intro same
      rw [keys] at same
      exact ⟨ks, rfl, (key.inj same).symm⟩
    next other none =>
      intro same
      exact absurd same (none k)
  · rintro ⟨ks, rfl, rfl⟩
    rw [ofMembers, foldr_append_eq_key_iff.mpr ⟨ks, rfl, rfl⟩, keys]

private theorem ofMembers_eq_unhashable_iff {ids : List Identity} :
    ofMembers ids = .unhashable ↔ .unhashable ∈ ids := by
  rw [← foldr_append_eq_unhashable_iff, ofMembers]
  split <;> simp_all

end Identity

namespace Value
open Identity

/-- What cannot be a key: what can change, and fixed collections that hold such a thing. -/
inductive Unhashable : Value → Prop where
  | list (xs : List Value) : Unhashable (.list xs)
  | set (xs : List Value) : Unhashable (.set xs)
  | table (entries : List (String × Value)) : Unhashable (.table entries)
  | tuple {xs : List Value} {x : Value} (mem : x ∈ xs) (inside : Unhashable x) : Unhashable (.tuple xs)
  | frozenSet {xs : List Value} {x : Value} (mem : x ∈ xs) (inside : Unhashable x) : Unhashable (.frozenSet xs)

private theorem identities_eq_map (xs : List Value) : identities xs = xs.map identity := by
  induction xs with
  | nil => rfl
  | cons x xs ih => rw [identities, ih, List.map_cons]

private theorem identityAll_eq_foldr (xs : List Value) : identityAll xs = (xs.map identity).foldr append (.key []) := by
  induction xs with
  | nil => rfl
  | cons x xs ih => rw [identityAll, ih, List.map_cons, List.foldr_cons]

theorem identity_tuple_eq_unhashable_iff {xs : List Value} :
    (tuple xs).identity = .unhashable ↔ ∃ x ∈ xs, x.identity = .unhashable := by
  rw [identity, identityAll_eq_foldr, append_eq_unhashable_iff, foldr_append_eq_unhashable_iff, List.mem_map]
  simp

private theorem identity_frozenSet_eq_unhashable_iff {xs : List Value} :
    (frozenSet xs).identity = .unhashable ↔ ∃ x ∈ xs, x.identity = .unhashable := by
  rw [identity, identities_eq_map, ofMembers_eq_unhashable_iff, List.mem_map]

private theorem Unhashable.identity_eq {v : Value} (h : v.Unhashable) : v.identity = .unhashable := by
  induction h with
  | list | set | table => rfl
  | tuple mem _ ih => exact identity_tuple_eq_unhashable_iff.mpr ⟨_, mem, ih⟩
  | frozenSet mem _ ih => exact identity_frozenSet_eq_unhashable_iff.mpr ⟨_, mem, ih⟩

private theorem unhashable_of_identity_eq (v : Value) (h : v.identity = .unhashable) : v.Unhashable := by
  match v with
  | .list xs => exact .list xs
  | .set xs => exact .set xs
  | .table entries => exact .table entries
  | .tuple xs =>
    obtain ⟨x, mem, inside⟩ := identity_tuple_eq_unhashable_iff.mp h
    exact .tuple mem (unhashable_of_identity_eq x inside)
  | .frozenSet xs =>
    obtain ⟨x, mem, inside⟩ := identity_frozenSet_eq_unhashable_iff.mp h
    exact .frozenSet mem (unhashable_of_identity_eq x inside)
  | .real x => cases x <;> cases h
  | .none | .bool _ | .int _ | .version _ | .text _ | .octets _ | .moment _ | .stream _ => cases h

theorem identity_eq_unhashable_iff {v : Value} : v.identity = .unhashable ↔ v.Unhashable :=
  ⟨unhashable_of_identity_eq v, Unhashable.identity_eq⟩

theorem identity_tuple_eq_key_iff {xs : List Value} {k : Key} :
    (tuple xs).identity = .key k ↔
      ∃ ks : List Key, xs.map identity = ks.map .key ∧ k = .tuple ks.length :: ks.flatten := by
  have size {ks : List Key} (h : xs.map identity = ks.map .key) : xs.length = ks.length := by
    simpa using congrArg List.length h
  rw [identity, identityAll_eq_foldr, append_eq_key_iff]
  constructor
  · rintro ⟨i, j, head, whole, rfl⟩
    obtain ⟨ks, same, rfl⟩ := foldr_append_eq_key_iff.mp whole
    obtain rfl := key.inj head
    exact ⟨ks, same, by rw [size same]; rfl⟩
  · rintro ⟨ks, same, rfl⟩
    exact ⟨[.tuple xs.length], _, rfl, foldr_append_eq_key_iff.mpr ⟨ks, same, rfl⟩, by rw [size same]; rfl⟩

theorem identity_frozenSet_eq_key_iff {xs : List Value} {k : Key} :
    (frozenSet xs).identity = .key k ↔
      ∃ ks : List Key, xs.map identity = ks.map .key ∧
        k = .members (Key.ordered ks).length :: (Key.ordered ks).flatten := by
  rw [identity, identities_eq_map, ofMembers_eq_key_iff]

/-- The keys in a list of identities are those of the values there. -/
private theorem mem_keys_iff {xs : List Value} {ks : List Key} (h : xs.map identity = ks.map .key) {k : Key} :
    k ∈ ks ↔ ∃ x ∈ xs, x.identity = .key k := by
  rw [← List.mem_map, h, List.mem_map_of_injective fun _ _ => key.inj]

private theorem isWritten_of_identity (v : Value) {k : Key} (h : v.identity = .key k) : Key.IsWritten k := by
  have leaf {a : Key.Atom} (alone : a.arity = 0) : Key.IsWritten [a] := @Key.IsWritten.node a [] alone.symm nofun
  match v with
  | .tuple xs =>
    obtain ⟨ks, same, rfl⟩ := identity_tuple_eq_key_iff.mp h
    refine .node rfl fun l mem => ?_
    obtain ⟨x, mem, hx⟩ := (mem_keys_iff same).mp mem
    exact isWritten_of_identity x hx
  | .frozenSet xs =>
    obtain ⟨ks, same, rfl⟩ := identity_frozenSet_eq_key_iff.mp h
    refine .node rfl fun l mem => ?_
    obtain ⟨x, mem, hx⟩ := (mem_keys_iff same).mp (Key.mem_ordered.mp mem)
    exact isWritten_of_identity x hx
  | .real x =>
    cases x with
    | nan => cases h
    | infinite | finite => exact key.inj h ▸ leaf rfl
  | .moment m =>
    obtain rfl := key.inj h
    cases m.instant? <;> exact leaf rfl
  | .none | .bool _ | .int _ | .version _ | .text _ | .octets _ => exact key.inj h ▸ leaf rfl
  | .list _ | .set _ | .table _ | .stream _ => cases h

private theorem isWritten_of_mem_keys {xs : List Value} {ks : List Key} (h : xs.map identity = ks.map .key) :
    ∀ k ∈ ks, k.IsWritten := by
  intro k mem
  obtain ⟨x, -, hx⟩ := (mem_keys_iff h).mp mem
  exact isWritten_of_identity x hx

private theorem exists_key_of_mem {xs : List Value} {ks : List Key} (h : xs.map identity = ks.map .key) {x : Value}
    (mem : x ∈ xs) : ∃ k ∈ ks, x.identity = .key k := by
  have listed : x.identity ∈ ks.map .key := h ▸ List.mem_map_of_mem mem
  obtain ⟨k, mem, hk⟩ := List.mem_map.mp listed
  exact ⟨k, mem, hk.symm⟩

private theorem exists_keys {xs : List Value} (h : ∀ x ∈ xs, ∃ k, x.identity = .key k) :
    ∃ ks : List Key, xs.map identity = ks.map .key := by
  induction xs with
  | nil => exact ⟨[], rfl⟩
  | cons x xs ih =>
    obtain ⟨k, hk⟩ := h x List.mem_cons_self
    obtain ⟨ks, hks⟩ := ih fun y mem => h y (List.mem_cons_of_mem _ mem)
    exact ⟨k :: ks, by simp [hk, hks]⟩

/-- Both can be keys and have the same one. -/
def Shares (x y : Value) : Prop :=
  ∃ k, x.identity = .key k ∧ y.identity = .key k

private theorem forall₂_shares_iff {xs ys : List Value} :
    List.Forall₂ Shares xs ys ↔ ∃ ks : List Key, xs.map identity = ks.map .key ∧ ys.map identity = ks.map .key := by
  constructor
  · intro all
    induction all with
    | nil => exact ⟨[], rfl, rfl⟩
    | cons one _ ih =>
      obtain ⟨k, hx, hy⟩ := one
      obtain ⟨ks, hxs, hys⟩ := ih
      exact ⟨k :: ks, by simp [hx, hxs], by simp [hy, hys]⟩
  · rintro ⟨ks, hxs, hys⟩
    induction ks generalizing xs ys with
    | nil =>
      obtain rfl := List.map_eq_nil_iff.mp hxs
      obtain rfl := List.map_eq_nil_iff.mp hys
      exact .nil
    | cons k ks ih =>
      obtain ⟨x, xs, rfl, hx, hxs⟩ := List.map_eq_cons_iff.mp hxs
      obtain ⟨y, ys, rfl, hy, hys⟩ := List.map_eq_cons_iff.mp hys
      exact .cons ⟨k, hx, hy⟩ (ih hxs hys)

/-- Tuples have one key if their parts do, place by place. -/
theorem shares_tuple_iff {xs ys : List Value} : (tuple xs).Shares (tuple ys) ↔ List.Forall₂ Shares xs ys := by
  rw [forall₂_shares_iff]
  constructor
  · rintro ⟨k, hx, hy⟩
    obtain ⟨ks, hxs, rfl⟩ := identity_tuple_eq_key_iff.mp hx
    obtain ⟨ls, hys, same⟩ := identity_tuple_eq_key_iff.mp hy
    obtain ⟨size, flat⟩ := List.cons.inj same
    obtain rfl : ks = ls :=
      Key.eq_of_flatten_eq (isWritten_of_mem_keys hxs) (isWritten_of_mem_keys hys) (Key.Atom.tuple.inj size) flat
    exact ⟨ks, hxs, hys⟩
  · rintro ⟨ks, hxs, hys⟩
    exact ⟨_, identity_tuple_eq_key_iff.mpr ⟨ks, hxs, rfl⟩, identity_tuple_eq_key_iff.mpr ⟨ks, hys, rfl⟩⟩

/-- Sets have one key if each member of the one has a key with a member of the other. -/
private theorem shares_frozenSet_iff {xs ys : List Value} : (frozenSet xs).Shares (frozenSet ys) ↔
    (∀ x ∈ xs, ∃ y ∈ ys, x.Shares y) ∧ ∀ y ∈ ys, ∃ x ∈ xs, x.Shares y := by
  constructor
  · rintro ⟨k, hx, hy⟩
    obtain ⟨ks, hxs, rfl⟩ := identity_frozenSet_eq_key_iff.mp hx
    obtain ⟨ls, hys, same⟩ := identity_frozenSet_eq_key_iff.mp hy
    obtain ⟨size, flat⟩ := List.cons.inj same
    have ordered : Key.ordered ks = Key.ordered ls :=
      Key.eq_of_flatten_eq (fun k mem => isWritten_of_mem_keys hxs k (Key.mem_ordered.mp mem))
        (fun l mem => isWritten_of_mem_keys hys l (Key.mem_ordered.mp mem)) (Key.Atom.members.inj size) flat
    have mem_iff := Key.ordered_eq_iff.mp ordered
    constructor
    · intro x memx
      obtain ⟨k, memk, hk⟩ := exists_key_of_mem hxs memx
      obtain ⟨y, memy, hl⟩ := (mem_keys_iff hys).mp ((mem_iff k).mp memk)
      exact ⟨y, memy, k, hk, hl⟩
    · intro y memy
      obtain ⟨k, memk, hk⟩ := exists_key_of_mem hys memy
      obtain ⟨x, memx, hl⟩ := (mem_keys_iff hxs).mp ((mem_iff k).mpr memk)
      exact ⟨x, memx, k, hl, hk⟩
  · rintro ⟨into, onto⟩
    obtain ⟨ks, hxs⟩ := exists_keys fun x memx => (into x memx).elim fun _ ⟨_, k, hk, _⟩ => ⟨k, hk⟩
    obtain ⟨ls, hys⟩ := exists_keys fun y memy => (onto y memy).elim fun _ ⟨_, k, _, hk⟩ => ⟨k, hk⟩
    have ordered : Key.ordered ks = Key.ordered ls := by
      refine Key.ordered_eq_iff.mpr fun k => ?_
      rw [mem_keys_iff hxs, mem_keys_iff hys]
      constructor
      · rintro ⟨x, memx, hk⟩
        obtain ⟨y, memy, l, hx, hy⟩ := into x memx
        exact ⟨y, memy, by rw [hy, ← hx, hk]⟩
      · rintro ⟨y, memy, hk⟩
        obtain ⟨x, memx, l, hx, hy⟩ := onto y memy
        exact ⟨x, memx, by rw [hx, ← hy, hk]⟩
    exact ⟨_, identity_frozenSet_eq_key_iff.mpr ⟨ks, hxs, rfl⟩,
      identity_frozenSet_eq_key_iff.mpr ⟨ls, hys, by rw [ordered]⟩⟩

private theorem sameAll_iff {xs ys : List Value} (ih : ∀ x ∈ xs, ∀ y ∈ ys, x.same y = true ↔ x.Shares y) :
    sameAll xs ys = true ↔ List.Forall₂ Shares xs ys := by
  induction xs generalizing ys with
  | nil => cases ys <;> simp [sameAll]
  | cons x xs rest =>
    cases ys with
    | nil => simp [sameAll]
    | cons y ys =>
      rw [sameAll, Bool.and_eq_true, List.forall₂_cons, ih x List.mem_cons_self y List.mem_cons_self]
      rw [rest fun x hx y hy => ih x (List.mem_cons_of_mem _ hx) y (List.mem_cons_of_mem _ hy)]

private theorem allAmong_iff {xs ys : List Value} : allAmong xs ys = true ↔ ∀ x ∈ xs, ∃ y ∈ ys, x.same y = true := by
  induction xs with
  | nil => simp [allAmong]
  | cons x xs ih => simp [allAmong, ih]

private theorem someSame_iff {xs : List Value} {y : Value} : someSame xs y = true ↔ ∃ x ∈ xs, x.same y = true := by
  induction xs with
  | nil => simp [someSame]
  | cons x xs ih => simp [someSame, ih]

/-- Equality of values that can be keys is to have one key. -/
theorem same_iff_shares (x y : Value) (hx : ¬ x.Unhashable) (hy : ¬ y.Unhashable) :
    x.same y = true ↔ x.Shares y := by
  unfold same
  split
  next xs ys => exact absurd (.list xs) hx
  next xs ys =>
    rw [shares_tuple_iff, sameAll_iff]
    intro x memx y memy
    exact same_iff_shares x y (fun inside => hx (.tuple memx inside)) fun inside => hy (.tuple memy inside)
  next xs ys => exact absurd (.set xs) hx
  next xs ys => exact absurd (.set xs) hx
  next xs ys => exact absurd (.set ys) hy
  next xs ys =>
    have among (x) (memx : x ∈ xs) (y) (memy : y ∈ ys) : x.same y = true ↔ x.Shares y :=
      same_iff_shares x y (fun inside => hx (.frozenSet memx inside)) fun inside => hy (.frozenSet memy inside)
    rw [Bool.and_eq_true, allAmong_iff, List.all_eq_true, shares_frozenSet_iff]
    refine and_congr (forall₂_congr fun x memx => ?_) (forall₂_congr fun y memy => ?_)
    · exact exists_congr fun y => and_congr_right fun memy => among x memx y memy
    · rw [someSame_iff]
      exact exists_congr fun x => and_congr_right fun memx => among x memx y memy
  next entries others => exact absurd (.table entries) hx
  -- All else is compared by its key.
  next =>
    unfold Shares
    cases x.identity <;> cases y.identity <;> simp
    exact eq_comm

/-- Numbers of all types are the same members, in any order. -/
example : (frozenSet [real (.finite false 1 0), version .csharp8]).Shares (frozenSet [int 800, bool true, int 1]) :=
  ⟨_, rfl, rfl⟩

end Value

end TypeForward
