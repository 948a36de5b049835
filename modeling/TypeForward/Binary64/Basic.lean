/-! Binary floating-point numbers of 53 significant bits, taken exactly: a number is a significand times a power
of two, so comparing it with integers loses nothing. -/
namespace TypeForward

inductive Binary64 where
  | nan
  | infinite (negative : Bool)
  | finite (negative : Bool) (significand : Nat) (exponent : Int)
  deriving DecidableEq

namespace Binary64

/-- The exponent of the least positive number, which is also that of zero. -/
def leastExponent : Int := -1074

def greatestExponent : Int := 971

/-- The number denoted, if there is one; both zeros denote zero. -/
def toRat? : Binary64 → Option Rat
  | .finite negative m e =>
    let size : Rat := if 0 ≤ e then ((m * Nat.pow 2 e.toNat : Nat) : Rat) else mkRat m (Nat.pow 2 (-e).toNat)
    some (if negative then -size else size)
  | _ => none

/-- The integer denoted, if the number is one. -/
def toInt? (x : Binary64) : Option Int :=
  x.toRat?.bind fun q => if q.den = 1 then some q.num else none

/-- The quotient rounded to the nearest integer, a half to the even one. -/
def roundDiv (num den : Nat) : Nat :=
  let q := num / den
  let r := num % den
  if 2 * r < den then q else if den < 2 * r then q + 1 else q + q % 2

/-- The greatest power of two that is not above `num / den`. -/
def topBit (num den : Nat) : Int :=
  let guess : Int := (num.log2 : Int) - den.log2
  if den * Nat.pow 2 guess.toNat ≤ num * Nat.pow 2 (-guess).toNat then guess else guess - 1

/-- The number nearest to a positive quotient; past the greatest number it is infinite. -/
def ofRatio (negative : Bool) (num den : Nat) : Binary64 :=
  let e := max (topBit num den - 52) leastExponent
  let m := roundDiv (num * Nat.pow 2 (-e).toNat) (den * Nat.pow 2 e.toNat)
  let (m, e) := if m = Nat.pow 2 53 then (Nat.pow 2 52, e + 1) else (m, e)
  if greatestExponent < e then .infinite negative else .finite negative m e

def zero (negative : Bool) : Binary64 :=
  .finite negative 0 leastExponent

/-- The number nearest to `digits` times a power of ten. Far out of range the answer is known without
computing the power. -/
def ofDecimal (negative : Bool) (digits : Nat) (exponent : Int) : Binary64 :=
  let places : Int := (Nat.toDigits 10 digits).length + exponent
  if digits = 0 ∨ places < -330 then zero negative
  else if 310 < places then .infinite negative
  else ofRatio negative (digits * Nat.pow 10 exponent.toNat) (Nat.pow 10 (-exponent).toNat)

end Binary64

end TypeForward
