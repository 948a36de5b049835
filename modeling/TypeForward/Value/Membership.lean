import TypeForward.Entries
import TypeForward.Fault
import TypeForward.Value.Key

/-! Equality of values, and which values hold others. Values are equal by what they denote: numbers of all types
compare, sets by their members, tables entry by entry; streams and the undefined number equal nothing. -/
namespace TypeForward.Value

mutual

/-- Equality also of values that cannot be keys. -/
def same : Value → Value → Bool
  | list xs, list ys => sameAll xs ys
  | tuple xs, tuple ys => sameAll xs ys
  | set xs, set ys | set xs, frozenSet ys | frozenSet xs, set ys | frozenSet xs, frozenSet ys =>
    allAmong xs ys && ys.all (someSame xs)
  | table entries, table others => entries.length == others.length && entriesAmong entries others
  | v, w =>
    match v.identity, w.identity with
    | .key k, .key l => k == l
    | _, _ => false

/-- Equality place by place. -/
def sameAll : List Value → List Value → Bool
  | [], [] => true
  | x :: xs, y :: ys => same x y && sameAll xs ys
  | _, _ => false

/-- Whether all of the first are among the second. -/
def allAmong : List Value → List Value → Bool
  | [], _ => true
  | x :: xs, ys => ys.any (same x) && allAmong xs ys

/-- Whether a value is among the first. -/
def someSame : List Value → Value → Bool
  | [], _ => false
  | x :: xs, y => same x y || someSame xs y

/-- Whether all entries of the first are also entries of the second. -/
def entriesAmong : List (String × Value) → List (String × Value) → Bool
  | [], _ => true
  | (key, x) :: entries, others => ((Entries.get? key others).map (same x)).getD false && entriesAmong entries others

end

/-- The members of a set made of these values. -/
def distinct (xs : List Value) : Except Fault (List Value) :=
  (distinct? xs).elim (.error .wrongType) .ok

/-- Whether a value is a member of the set with these members. -/
def isMember (v : Value) (members : List Value) : Except Fault Bool :=
  match v.memberIdentity with
  | .unhashable => .error .wrongType
  | .unique => .ok false
  | .key k => .ok (members.any fun m => m.identity == .key k)

/-- Whether one list is a run of consecutive elements of the other. -/
def isRunOf {α : Type} [BEq α] (run : List α) : List α → Bool
  | [] => run.isEmpty
  | x :: xs => run.isPrefixOf (x :: xs) || isRunOf run xs

/-- Whether octets hold a value: a number between 0 and 255, or a run of octets. -/
def octetsHold (bytes : List UInt8) (v : Value) : Except Fault Bool :=
  match v.toInt?, v with
  | some n, _ =>
    if 0 ≤ n ∧ n < 256 then .ok (bytes.any fun b => decide ((b.toNat : Int) = n)) else .error .badValue
  | _, octets run => .ok (isRunOf run bytes)
  | _, _ => .error .wrongType

/-- Whether a value holds another: a text its parts, a table its keys, a collection its elements. -/
def has (container v : Value) : Except Fault Bool :=
  match container, v with
  | text s, text t => .ok (isRunOf t.toList s.toList)
  | octets bytes, _ => octetsHold bytes v
  | list xs, _ | tuple xs, _ | stream xs, _ => .ok (xs.any fun x => x.same v)
  | set xs, _ | frozenSet xs, _ => v.isMember xs
  | table entries, _ =>
    match v.identity with
    | .unhashable => .error .wrongType
    | _ => .ok (v.isAmong (Entries.keys entries))
  | _, _ => .error .wrongType

/-- What is left of a value after it was searched for another: a stream is walked up to the first match. -/
def afterSearch (container v : Value) : Value :=
  match container with
  | stream xs => stream ((xs.dropWhile fun x => !x.same v).drop 1)
  | _ => container

end TypeForward.Value
