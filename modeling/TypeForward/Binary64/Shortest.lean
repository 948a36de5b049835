import TypeForward.Binary64.Basic

/-! Numbers written with the fewest digits that read back. Of the decimal grids, coarse to fine, the first with a
point in the interval that rounds to the number gives the digits; of two points the nearer one, of two equally
near ones the even one. -/
namespace TypeForward.Binary64

/-- The reals that round to a number, over a common denominator. The ends belong to it when the significand
is even. -/
structure Rounding where
  low : Nat
  value : Nat
  high : Nat
  den : Nat
  closed : Bool

/-- Below a power of two the gap to the neighbour is half as wide. -/
def Rounding.of (m : Nat) (e : Int) : Rounding :=
  let scale := Nat.pow 2 (e - 2).toNat
  let below := if m = Nat.pow 2 52 ∧ leastExponent < e then 1 else 2
  ⟨(4 * m - below) * scale, 4 * m * scale, (4 * m + 2) * scale, Nat.pow 2 (2 - e).toNat, m % 2 = 0⟩

/-- Whether `x` times a power of ten rounds to the number. -/
def Rounding.accepts (r : Rounding) (x : Nat) (power : Int) : Bool :=
  let left := x * Nat.pow 10 power.toNat * r.den
  let unit := Nat.pow 10 (-power).toNat
  if r.closed then decide (r.low * unit ≤ left ∧ left ≤ r.high * unit)
  else decide (r.low * unit < left ∧ left < r.high * unit)

/-- The distance of `x` times a power of ten from the number, over a denominator that depends on the power only. -/
def Rounding.distance (r : Rounding) (x : Nat) (power : Int) : Nat :=
  let left := x * Nat.pow 10 power.toNat * r.den
  let right := r.value * Nat.pow 10 (-power).toNat
  (left - right) + (right - left)

/-- The digits before the point: the least power of ten above the number. -/
def Rounding.places (r : Rounding) : Int :=
  let guess : Int := (Nat.toDigits 10 r.value).length - (Nat.toDigits 10 r.den).length
  if r.value * Nat.pow 10 (-guess).toNat < r.den * Nat.pow 10 guess.toNat then guess else guess + 1

/-- The point of a grid that stands for the number, if the grid has one. -/
def Rounding.point? (r : Rounding) (power : Int) : Option Nat :=
  let x := r.value * Nat.pow 10 (-power).toNat / (r.den * Nat.pow 10 power.toNat)
  match r.accepts x power, r.accepts (x + 1) power with
  | true, true =>
    let down := r.distance x power
    let up := r.distance (x + 1) power
    some (if down < up ∨ down = up ∧ x % 2 = 0 then x else x + 1)
  | true, false => some x
  | false, true => some (x + 1)
  | false, false => none

/-- The digits and the place of the point in front of which they stand. -/
def shortest (m : Nat) (e : Int) : List Char × Int :=
  let r := Rounding.of m e
  let found := (List.range 17).findSome? fun n =>
    let power := r.places - (n + 1 : Nat)
    (r.point? power).map (·, power)
  match found with
  | some (x, power) =>
    let digits := Nat.toDigits 10 x
    ((digits.reverse.dropWhile (· == '0')).reverse, power + digits.length)
  | none => (['0'], 1)

/-- Positional from four places after the point up to sixteen before it, with at least one digit on each side;
else one digit before the point and a power of ten of at least two digits. -/
def layOut (digits : List Char) (point : Int) : List Char :=
  let n : Int := digits.length
  if -4 < point ∧ point ≤ 16 then
    if point ≤ 0 then '0' :: '.' :: List.replicate (-point).toNat '0' ++ digits
    else if n ≤ point then digits ++ List.replicate (point - n).toNat '0' ++ ['.', '0']
    else digits.take point.toNat ++ '.' :: digits.drop point.toNat
  else
    let power := point - 1
    let count := Nat.toDigits 10 power.natAbs
    digits.take 1 ++ (if n ≤ 1 then [] else '.' :: digits.drop 1)
      ++ 'e' :: (if power < 0 then '-' else '+') :: List.replicate (2 - count.length) '0' ++ count

def text : Binary64 → String
  | .nan => "nan"
  | .infinite negative => if negative then "-inf" else "inf"
  | .finite negative m e =>
    let (digits, point) := if m = 0 then (['0'], 1) else shortest m e
    String.ofList ((if negative then ['-'] else []) ++ layOut digits point)

end TypeForward.Binary64
