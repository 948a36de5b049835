import TypeForward.Pass

/-! What a pass hears from its host: the answers to its polls and to its questions about the compilation, in order.
What is said here of a record can be told from the answer in front and from the rest. -/
namespace TypeForward

/-- An answer that a host gives, with the question about the compilation if it was one. -/
inductive Observation where
  | poll (stop : Except Fault Bool)
  | version (threshold : Value) (answer : Except Fault Bool)
  | type (name : Value) (answer : Except Fault Bool)

/-- Answers in the order in which they were given. -/
abbrev Record := List Observation

/-- Fixed answers about a compilation. A threshold that is an integer counts as that integer only. -/
structure Answers where
  atLeast : Value → Except Fault Bool
  defines : Value → Except Fault Bool
  atLeast_congr : ∀ {threshold other : Value} {n : Int},
    threshold.toInt? = some n → other.toInt? = some n → atLeast threshold = atLeast other

namespace Record

/-- No poll said to stop, and none failed. -/
def Quiet (seen : Record) : Prop :=
  ∀ stop, .poll stop ∈ seen → stop = .ok false

/-- After a poll that said to stop all polls said so. -/
def OneWay (seen : Record) : Prop :=
  seen.Pairwise fun earlier later => earlier = .poll (.ok true) → ∀ stop, later = .poll stop → stop = .ok true

/-- The answers to the polls alone. -/
def polls (seen : Record) : List (Except Fault Bool) :=
  seen.filterMap fun
    | .poll stop => some stop
    | _ => none

/-- The polls said to go on the first times, and to stop from then on. -/
def Allows (n : Nat) (seen : Record) : Prop :=
  ∀ (i : Nat) (stop : Except Fault Bool), (polls seen)[i]? = some stop → stop = .ok (decide (n ≤ i))

/-- If the record begins with the question about a version, the answer is that it is reached. -/
def Passes (threshold : Value) (seen : Record) : Prop :=
  ∀ answer rest, seen = .version threshold answer :: rest → answer = .ok true

/-- All answers in a record are the fixed ones. -/
def Agrees (a : Answers) (seen : Record) : Prop :=
  (∀ threshold answer, .version threshold answer ∈ seen → answer = a.atLeast threshold) ∧
  ∀ name answer, .type name answer ∈ seen → answer = a.defines name

/-- No question has one answer here and another one there. -/
def Concordant (seen other : Record) : Prop :=
  (∀ threshold answer answer', .version threshold answer ∈ seen → .version threshold answer' ∈ other →
    answer = answer') ∧
  ∀ name answer answer', .type name answer ∈ seen → .type name answer' ∈ other → answer = answer'

variable {seen seen' other more : Record} {stop answer answer' : Except Fault Bool} {threshold name : Value}

section Quiet

@[simp] theorem quiet_nil : Quiet [] := by simp [Quiet]

@[simp] theorem quiet_poll : Quiet (.poll stop :: seen) ↔ stop = .ok false ∧ Quiet seen := by simp [Quiet]

@[simp] theorem quiet_version : Quiet (.version threshold answer :: seen) ↔ Quiet seen := by simp [Quiet]

@[simp] theorem quiet_type : Quiet (.type name answer :: seen) ↔ Quiet seen := by simp [Quiet]

@[simp] theorem quiet_append : Quiet (seen ++ more) ↔ Quiet seen ∧ Quiet more := by
  simp [Quiet, or_imp, forall_and]

theorem Quiet.mono (quiet : Quiet seen) (sub : seen' ⊆ seen) : Quiet seen' := by
  intro stop h
  exact quiet stop (sub h)

theorem Quiet.tail {o : Observation} (quiet : Quiet (o :: seen)) : Quiet seen :=
  quiet.mono (List.subset_cons_self o seen)

theorem Quiet.head (quiet : Quiet (.poll stop :: seen)) : stop = .ok false :=
  quiet stop List.mem_cons_self

/-- Where no poll said to stop none took that back. -/
theorem Quiet.oneWay (quiet : Quiet seen) : OneWay seen := by
  induction seen with
  | nil => exact .nil
  | cons o seen ih =>
    refine List.pairwise_cons.mpr ⟨?_, ih quiet.tail⟩
    rintro later - rfl
    cases quiet.head

end Quiet

section Polls

@[simp] theorem polls_nil : polls [] = [] := rfl

@[simp] theorem polls_poll : polls (.poll stop :: seen) = stop :: polls seen := rfl

@[simp] theorem polls_version : polls (.version threshold answer :: seen) = polls seen := rfl

@[simp] theorem polls_type : polls (.type name answer :: seen) = polls seen := rfl

@[simp] theorem polls_append : polls (seen ++ more) = polls seen ++ polls more :=
  List.filterMap_append

/-- A record is quiet if all of its polls are. -/
theorem quiet_of_polls {n : Nat} (h : polls seen = List.replicate n (.ok false)) : Quiet seen := by
  intro stop said
  have mem : stop ∈ polls seen := List.mem_filterMap.mpr ⟨.poll stop, said, rfl⟩
  rw [h] at mem
  exact List.eq_of_mem_replicate mem

variable {n : Nat}

@[simp] theorem allows_nil : Allows n [] := by simp [Allows]

@[simp] theorem allows_poll : Allows n (.poll stop :: seen) ↔ stop = .ok (decide (n = 0)) ∧ Allows (n - 1) seen := by
  constructor
  · intro allows
    have first := allows 0 stop rfl
    refine ⟨by simpa using first, ?_⟩
    intro i stop' h
    rw [allows (i + 1) stop' h]
    apply congrArg Except.ok
    apply decide_eq_decide.mpr
    omega
  · rintro ⟨rfl, allows⟩ i stop' h
    cases i with
    | zero =>
      rw [← Option.some.inj h]
      simp
    | succ i =>
      rw [allows i stop' h]
      apply congrArg Except.ok
      apply decide_eq_decide.mpr
      omega

@[simp] theorem allows_version : Allows n (.version threshold answer :: seen) ↔ Allows n seen := Iff.rfl

@[simp] theorem allows_type : Allows n (.type name answer :: seen) ↔ Allows n seen := Iff.rfl

theorem allows_append : Allows n (seen ++ more) ↔ Allows n seen ∧ Allows (n - (polls seen).length) more := by
  induction seen generalizing n with
  | nil => simp
  | cons o seen ih =>
    cases o with
    | poll stop =>
      have gone : n - 1 - (polls seen).length = n - ((polls seen).length + 1) := by omega
      rw [List.cons_append, allows_poll, allows_poll, ih, polls_poll, List.length_cons, gone, and_assoc]
    | version threshold answer => exact ih
    | type name answer => exact ih

end Polls

section Answers

variable {a : Answers}

theorem Passes.of_append (passes : Passes threshold (seen ++ more)) : Passes threshold seen := by
  rintro answer rest rfl
  exact passes answer (rest ++ more) rfl

@[simp] theorem agrees_nil : Agrees a [] := by simp [Agrees]

@[simp] theorem agrees_poll : Agrees a (.poll stop :: seen) ↔ Agrees a seen := by simp [Agrees]

@[simp] theorem agrees_version :
    Agrees a (.version threshold answer :: seen) ↔ answer = a.atLeast threshold ∧ Agrees a seen := by
  simp [Agrees, or_imp, forall_and, and_assoc]

@[simp] theorem agrees_type : Agrees a (.type name answer :: seen) ↔ answer = a.defines name ∧ Agrees a seen := by
  simp [Agrees, or_imp, forall_and, and_left_comm]

theorem Agrees.mono (agrees : Agrees a seen) (sub : seen' ⊆ seen) : Agrees a seen' := by
  constructor
  · intro threshold answer h
    exact agrees.1 threshold answer (sub h)
  · intro name answer h
    exact agrees.2 name answer (sub h)

theorem Agrees.concordant (agrees : Agrees a seen) (agrees' : Agrees a other) : Concordant seen other := by
  constructor
  · intro threshold answer answer' h h'
    rw [agrees.1 threshold answer h, agrees'.1 threshold answer' h']
  · intro name answer answer' h h'
    rw [agrees.2 name answer h, agrees'.2 name answer' h']

theorem Concordant.mono {other' : Record} (same : Concordant seen other) (left : seen' ⊆ seen)
    (right : other' ⊆ other) : Concordant seen' other' := by
  constructor
  · intro threshold answer answer' h h'
    exact same.1 threshold answer answer' (left h) (right h')
  · intro name answer answer' h h'
    exact same.2 name answer answer' (left h) (right h')

/-- Records that begin with the same question, up to a poll, begin with the same answer. -/
theorem Concordant.type_eq {o o' : Observation}
    (same : Concordant (o :: .type name answer :: seen) (o' :: .type name answer' :: other)) : answer = answer' :=
  same.2 name answer answer' (List.mem_cons_of_mem _ List.mem_cons_self) (List.mem_cons_of_mem _ List.mem_cons_self)

theorem Concordant.version_eq
    (same : Concordant (.version threshold answer :: seen) (.version threshold answer' :: other)) : answer = answer' :=
  same.1 threshold answer answer' List.mem_cons_self List.mem_cons_self

end Answers

end Record

end TypeForward
