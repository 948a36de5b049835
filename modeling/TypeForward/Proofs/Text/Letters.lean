import TypeForward.Proofs.Text.Digits
import TypeForward.Text.Blank
import TypeForward.Text.Case

/-! Small letters against the other classes of characters: what falls is a letter before and after, so that neither
digits nor white space change, and no digit is white space. -/
namespace TypeForward.Text

variable {cs : List Char}

/-- The basic Latin capitals, the only characters that fall. -/
def capitals : List Char :=
  ['A', 'B', 'C', 'D', 'E', 'F', 'G', 'H', 'I', 'J', 'K', 'L', 'M', 'N', 'O', 'P', 'Q', 'R', 'S', 'T', 'U', 'V', 'W',
    'X', 'Y', 'Z']

private theorem toLower_eq_or_mem_capitals (c : Char) : c.toLower = c ∨ c ∈ capitals := by
  by_cases capital : 65 ≤ c.toNat ∧ c.toNat ≤ 90
  · have all : ∀ n ≤ 90, 65 ≤ n → Char.ofNat n ∈ capitals := by decide
    have mem := all c.toNat capital.2 capital.1
    rw [Char.ofNat_toNat] at mem
    exact .inr mem
  · exact .inl (dif_neg capital)

/-- What holds of each capital and of the characters that stay holds of all. -/
theorem forall_of_capitals {p : Char → Prop} [DecidablePred p] (falls : capitals.all (fun c => decide (p c)) = true)
    (stays : ∀ c, c.toLower = c → p c) (c : Char) : p c := by
  rcases toLower_eq_or_mem_capitals c with same | capital
  · exact stays c same
  · exact of_decide_eq_true (List.all_eq_true.mp falls c capital)

private theorem digitValue?_toLower (c : Char) : digitValue? c.toLower = digitValue? c := by
  refine forall_of_capitals (p := fun c => digitValue? c.toLower = digitValue? c) (by decide) ?_ c
  intro c same
  rw [same]

private theorem isBlank_toLower (c : Char) : isBlank c.toLower = isBlank c := by
  refine forall_of_capitals (p := fun c => isBlank c.toLower = isBlank c) (by decide) ?_ c
  intro c same
  rw [same]

/-- Text whose small letters have no white space among them has none itself. -/
theorem solid_of_map_toLower (solid : (cs.map Char.toLower).any isBlank = false) : ∀ c ∈ cs, isBlank c = false := by
  have same : isBlank ∘ Char.toLower = isBlank := funext isBlank_toLower
  rw [List.any_map, same, List.any_eq_false] at solid
  intro c mem
  exact Bool.eq_false_iff.mpr (solid c mem)

theorem digits_map_toLower {ds : List Nat} : Digits (cs.map Char.toLower) ds ↔ Digits cs ds := by
  have same : (cs.map Char.toLower).map digitValue? = cs.map digitValue? := by
    rw [List.map_map]
    exact List.map_congr_left fun c _ => digitValue?_toLower c
  rw [Digits, Digits, same]

/-- No digit is white space. -/
theorem isBlank_of_digitValue? {c : Char} {d : Nat} (digit : digitValue? c = some d) : isBlank c = false := by
  obtain ⟨start, found, -⟩ := Option.map_eq_some_iff.mp digit
  have near : start ≤ c.toNat ∧ c.toNat < start + 10 := by simpa using List.find?_some found
  have apart : ∀ start ∈ decimalZeros, ∀ range ∈ blankRanges, range.2 < start ∨ start + 9 < range.1 := by decide
  rw [← Bool.not_eq_true, isBlank, Ranges.holds_iff]
  rintro ⟨range, mem, low, high⟩
  have := apart start (List.mem_of_find?_eq_some found) range mem
  omega

end TypeForward.Text
