import TypeForward.Fault
import TypeForward.Text.Numeral

/-! Integers made from other values. -/
namespace TypeForward

/-- The integer next to a number on the side of zero. -/
def Binary64.truncated? (x : Binary64) : Option Int :=
  x.toRat?.map fun q => q.num.tdiv q.den

/-- The integer that a value is turned into. Numbers lose their fraction; text is read as a numeral, and octets
as basic Latin text. -/
def Value.integer : Value → Except Fault Int
  | real .nan => .error .badValue
  | real (.infinite _) => .error .overflow
  | real x => .ok (x.truncated?.getD 0)
  | text s => (Text.integer? s.toList).elim (.error .badValue) .ok
  | octets bytes =>
    if bytes.all (· < 128) then
      (Text.integer? (bytes.map fun b => Char.ofNat b.toNat)).elim (.error .badValue) .ok
    else .error .badValue
  | v => v.toInt?.elim (.error .wrongType) .ok

end TypeForward
