/-! Character classes given by closed ranges of code points. -/
namespace TypeForward.Text

abbrev Ranges := List (Nat × Nat)

/-- Both ends of a range belong to it. -/
def Ranges.holds (ranges : Ranges) (c : Char) : Bool :=
  ranges.any fun range => decide (range.1 ≤ c.toNat ∧ c.toNat ≤ range.2)

theorem Ranges.holds_iff {ranges : Ranges} {c : Char} :
    ranges.holds c = true ↔ ∃ range ∈ ranges, range.1 ≤ c.toNat ∧ c.toNat ≤ range.2 := by
  simp [Ranges.holds]

end TypeForward.Text
