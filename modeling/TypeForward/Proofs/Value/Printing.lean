import TypeForward.Value.Printed

/-! What keeps a value from being printed: an integer, somewhere in it, of too many digits. -/
namespace TypeForward.Value

/-- The printed form of the value writes the integer, by itself or inside a collection. A stream is printed without its
elements, and a version has a code that is short. -/
inductive Writes (n : Int) : Value → Prop where
  | int : Writes n (.int n)
  | list {xs : List Value} {x : Value} (mem : x ∈ xs) (writes : Writes n x) : Writes n (.list xs)
  | tuple {xs : List Value} {x : Value} (mem : x ∈ xs) (writes : Writes n x) : Writes n (.tuple xs)
  | set {xs : List Value} {x : Value} (mem : x ∈ xs) (writes : Writes n x) : Writes n (.set xs)
  | frozenSet {xs : List Value} {x : Value} (mem : x ∈ xs) (writes : Writes n x) : Writes n (.frozenSet xs)
  | table {entries : List (String × Value)} {entry : String × Value} (mem : entry ∈ entries)
      (writes : Writes n entry.2) : Writes n (.table entries)

/-- An integer of more digits than are ever written. -/
def IsLong (n : Int) : Prop :=
  Nat.pow 10 Text.digitLimit ≤ n.natAbs

/-- The least positive integer that is too long: one with a single digit more. -/
def leastLong : Int :=
  Int.ofNat (Nat.pow 10 Text.digitLimit)

theorem isLong_leastLong : IsLong leastLong := by
  unfold IsLong leastLong
  generalize Nat.pow 10 Text.digitLimit = least
  exact Nat.le_refl least

theorem allPrintable_iff {xs : List Value} : allPrintable xs = true ↔ ∀ x ∈ xs, x.isPrintable = true := by
  induction xs with
  | nil => simp [allPrintable]
  | cons x xs ih => simp [allPrintable, ih]

theorem entriesPrintable_iff {entries : List (String × Value)} :
    entriesPrintable entries = true ↔ ∀ entry ∈ entries, entry.2.isPrintable = true := by
  induction entries with
  | nil => simp [entriesPrintable]
  | cons entry entries ih => simp [entriesPrintable, ih]

theorem hasDecimalForm_iff {n : Int} : hasDecimalForm n = true ↔ ¬ IsLong n := by
  simp [hasDecimalForm, IsLong]

/-- What is in a value that is printable is not too long. -/
private theorem Writes.not_isLong {n : Int} {v : Value} (writes : Writes n v) (printable : v.isPrintable = true) :
    ¬ IsLong n := by
  induction writes with
  | int => exact hasDecimalForm_iff.mp printable
  | list mem _ ih | tuple mem _ ih | set mem _ ih | frozenSet mem _ ih => exact ih (allPrintable_iff.mp printable _ mem)
  | table mem _ ih => exact ih (entriesPrintable_iff.mp printable _ mem)

private theorem isPrintable_of_writes (v : Value) (short : ∀ n, v.Writes n → ¬ IsLong n) : v.isPrintable = true := by
  match v with
  | .int n => exact hasDecimalForm_iff.mpr (short n .int)
  | .list xs =>
    exact allPrintable_iff.mpr fun x mem => isPrintable_of_writes x fun n writes => short n (.list mem writes)
  | .tuple xs =>
    exact allPrintable_iff.mpr fun x mem => isPrintable_of_writes x fun n writes => short n (.tuple mem writes)
  | .set xs =>
    exact allPrintable_iff.mpr fun x mem => isPrintable_of_writes x fun n writes => short n (.set mem writes)
  | .frozenSet xs =>
    exact allPrintable_iff.mpr fun x mem => isPrintable_of_writes x fun n writes => short n (.frozenSet mem writes)
  | .table entries =>
    refine entriesPrintable_iff.mpr fun entry mem => ?_
    have smaller : sizeOf entry.2 < sizeOf entries := by
      have := List.sizeOf_lt_of_mem mem
      have : sizeOf entry = 1 + sizeOf entry.1 + sizeOf entry.2 := rfl
      omega
    exact isPrintable_of_writes entry.2 fun n writes => short n (.table mem writes)
  | .none | .bool _ | .version _ | .real _ | .text _ | .octets _ | .moment _ | .stream _ => rfl

/-- A value cannot be printed exactly if there is too long an integer in it. -/
theorem isPrintable_eq_false_iff {v : Value} : v.isPrintable = false ↔ ∃ n, v.Writes n ∧ IsLong n := by
  rw [← Bool.not_eq_true]
  constructor
  · intro unprintable
    refine Classical.byContradiction fun short => unprintable ?_
    exact isPrintable_of_writes v fun n writes long => short ⟨n, writes, long⟩
  · rintro ⟨n, writes, long⟩ printable
    exact writes.not_isLong printable long

end TypeForward.Value
