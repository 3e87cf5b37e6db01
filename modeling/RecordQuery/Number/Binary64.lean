import RecordQuery.Power

/-!
# `RecordQuery.Number.Binary64` — floating-point numbers of 64 bits

A number is a sign and the rank of its magnitude among all magnitudes, from zero to infinity. So the
order of numbers is the order of their signed ranks, and the two zeros are equal. All that is not a
number is one value, `nan`, which compares with nothing.

- `exactInt?`: the integer that a number is.
- `compare?`, `same`: the order, and equality that tells no zeros apart.
-/

namespace RecordQuery

/-- The rank of infinity: there are `2 ^ 52` magnitudes to each of 2047 exponents below it. -/
def Binary64.topRank : Nat := 2047 * 2 ^ 52

inductive Binary64 where
  | nan
  | signed (negative : Bool) (rank : Fin (Binary64.topRank + 1))
deriving DecidableEq

namespace Binary64

instance : Inhabited Binary64 := ⟨.nan⟩

/-- The number with that rank, or an infinity if there are not so many. -/
def ofRank (negative : Bool) (rank : Nat) : Binary64 :=
  .signed negative ⟨min rank topRank, by omega⟩

def infinity (negative : Bool) : Binary64 := ofRank negative topRank

def zero (negative : Bool) : Binary64 := ofRank negative 0

def isFinite : Binary64 → Bool
  | nan => false
  | signed _ rank => rank.val < topRank

/-- The signed rank, in which the two zeros fall together. -/
def key? : Binary64 → Option Int
  | nan => none
  | signed negative rank => some (if negative then -rank.val else rank.val)

/-- The order of two numbers; there is none with `nan`. -/
def compare? (a b : Binary64) : Option Ordering :=
  match a.key?, b.key? with
  | some a, some b => some (compare a b)
  | _, _ => none

/-- Equality of numbers: the zeros are equal, and `nan` is not even equal to itself. -/
def same (a b : Binary64) : Bool := a.compare? b == some .eq

/-! ## Magnitudes -/

/-- The significand: magnitudes below `2 ^ 52` ranks have no leading bit. -/
def significand (rank : Nat) : Nat :=
  if rank < 2 ^ 52 then rank else rank % 2 ^ 52 + 2 ^ 52

/-- The exponent: the magnitude is `significand · 2 ^ exponent`. -/
def exponent (rank : Nat) : Int :=
  if rank < 2 ^ 52 then -1074 else rank / 2 ^ 52 - 1075

/-- The integer that a finite number is. -/
def exactInt? : Binary64 → Option Int
  | nan => none
  | signed negative rank =>
    if rank.val = topRank then none
    else
      let m := significand rank
      let e := exponent rank
      let magnitude : Option Nat :=
        if 0 ≤ e then some (m * 2 ^ e.toNat)
        else if m % 2 ^ (-e).toNat = 0 then some (m / 2 ^ (-e).toNat)
        else none
      magnitude.map fun n => if negative then -(n : Int) else n

end Binary64
end RecordQuery
