import TypeForward.Value.Basic

/-! Numbers of all types in one order, texts and octets each in theirs. The undefined number is below and above
nothing. -/
namespace TypeForward

inductive Extended where
  | undefined
  | bottom
  | number (q : Rat)
  | top

def Extended.le : Extended → Extended → Bool
  | undefined, _ | _, undefined => false
  | bottom, _ | _, top => true
  | number q, number r => decide (q ≤ r)
  | top, _ | _, bottom => false

def Binary64.extended : Binary64 → Extended
  | .nan => .undefined
  | .infinite negative => if negative then .bottom else .top
  | .finite negative m e => .number (((Binary64.finite negative m e).toRat?).getD 0)

namespace Value

/-- The place of a number among all numbers; other values have none. -/
def extended? : Value → Option Extended
  | real x => some x.extended
  | v => v.toInt?.map fun n => .number n

/-- Whether the first number is at least the second; integers are compared as such. -/
def numberAtLeast? (v threshold : Value) : Option Bool :=
  match v.toInt?, threshold.toInt? with
  | some m, some n => some (decide (n ≤ m))
  | _, _ => do return (← threshold.extended?).le (← v.extended?)

/-- Whether the first run does not come before the second in the order of dictionaries. -/
def runAtLeast (run threshold : List Nat) : Bool :=
  !run.lex threshold Nat.blt

/-- Whether the first value is at least the second, for two numbers, two texts or two runs of octets. -/
def atLeast? (v threshold : Value) : Option Bool :=
  match v, threshold with
  | text s, text t => some (runAtLeast (s.toList.map Char.toNat) (t.toList.map Char.toNat))
  | octets bytes, octets others => some (runAtLeast (bytes.map UInt8.toNat) (others.map UInt8.toNat))
  | _, _ => v.numberAtLeast? threshold

end Value

end TypeForward
