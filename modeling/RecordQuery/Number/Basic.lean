import RecordQuery.Number.FloatText
import RecordQuery.Number.Rounding

/-!
# `RecordQuery.Number.Basic` — the three kinds of number

Integers compare with integers exactly, whatever their kinds; with a floating-point number on one
side, the other is rounded first.
-/

namespace RecordQuery

inductive Number where
  | int (n : Int64)
  | uint (n : UInt64)
  | float (x : Binary64)
deriving DecidableEq, Inhabited

namespace Number

/-- The integer that a number of an integer kind is. -/
def integer? : Number → Option Int
  | int n => some n.toInt
  | uint n => some n.toNat
  | float _ => none

/-- The floating-point number nearest to it. -/
def toFloat : Number → Binary64
  | int n => .ofInt n.toInt
  | uint n => .ofInt n.toNat
  | float x => x

/-- The order of two numbers; there is none with `nan`. -/
def compare? (a b : Number) : Option Ordering :=
  match a.integer?, b.integer? with
  | some a, some b => some (compare a b)
  | _, _ => a.toFloat.compare? b.toFloat

/-- Whether two numbers are of one kind and equal. -/
def same : Number → Number → Bool
  | int a, int b => a == b
  | uint a, uint b => a == b
  | float a, float b => a.same b
  | _, _ => false

def text : Number → String
  | int n => toString n.toInt
  | uint n => toString n.toNat
  | float x => x.text .plain

/-- The signed integer of 64 bits with that value. -/
def ofInt? (n : Int) : Option Number :=
  if -(2 ^ 63) ≤ n ∧ n < 2 ^ 63 then some (.int (.ofInt n)) else none

/-- The unsigned integer of 64 bits with that value. -/
def ofNat? (n : Nat) : Option Number :=
  if n < 2 ^ 64 then some (.uint (.ofNat n)) else none

end Number
end RecordQuery
