import RecordQuery.Number.Binary64
import RecordQuery.Number.Decimal

/-!
# `RecordQuery.Number.Rounding` — the floating-point number nearest to an exact one

Everything is exact arithmetic on natural numbers: `roundBinary` rounds a quotient to a significand
and an exponent, and halves go to the even significand. Reading a decimal goes through it, for 64
bits and, once narrowed, for 32.
-/

namespace RecordQuery

/-- The integer nearest to a quotient; a half goes to the even one. -/
def roundHalfEven (num den : Nat) : Nat :=
  let q := num / den
  let r := num % den
  if 2 * r < den then q
  else if den < 2 * r then q + 1
  else q + q % 2

/-- The exponent of the greatest power of two that is not above a positive quotient. -/
def floorLog2 (num den : Nat) : Int :=
  let guess : Int := num.log2 - den.log2
  let fits := if 0 ≤ guess then den * 2 ^ guess.toNat ≤ num else den ≤ num * 2 ^ (-guess).toNat
  if fits then guess else guess - 1

/-- A positive quotient as a significand of at most that many bits, rounded, with an exponent not
below the least one. -/
def roundBinary (bits : Nat) (least : Int) (num den : Nat) : Nat × Int :=
  let e := max (floorLog2 num den - (bits - 1)) least
  let m :=
    if 0 ≤ e then roundHalfEven num (den * 2 ^ e.toNat)
    else roundHalfEven (num * 2 ^ (-e).toNat) den
  (m, e)

namespace Binary64

/-- The rank of the magnitude nearest to a quotient. A significand that was rounded up to the next
power of two has the right rank all the same. -/
def rankOfQuotient (num den : Nat) : Nat :=
  if num = 0 then 0
  else
    let (m, e) := roundBinary 53 (-1074) num den
    (e + 1074).toNat * 2 ^ 52 + m

/-- The number nearest to an integer. -/
def ofInt (n : Int) : Binary64 := ofRank (n < 0) (rankOfQuotient n.natAbs 1)

/-- The number that is exactly the integer, if there is one. -/
def exactOfInt? (n : Int) : Option Binary64 :=
  let x := ofInt n
  if x.exactInt? = some n then some x else none

end Binary64

namespace Decimal

/-- How many decimal digits the number has before the point; negative for zeros after it. -/
def magnitude (d : Decimal) : Int := (Text.decimalDigits d.digits).length + d.scale

/-- The quotient of natural numbers that the decimal is, its sign left out. -/
def quotient (d : Decimal) : Nat × Nat :=
  if 0 ≤ d.scale then (d.digits * 10 ^ d.scale.toNat, 1) else (d.digits, 10 ^ (-d.scale).toNat)

/-- The binary number nearest to a decimal. Those with more than 310 digits before the point, or
with more than 330 zeros after it, need no arithmetic. -/
def toBinary64 (d : Decimal) : Binary64 :=
  if d.digits = 0 ∨ d.magnitude < -330 then .zero d.negative
  else if 310 < d.magnitude then .infinity d.negative
  else
    let (num, den) := d.quotient
    .ofRank d.negative (Binary64.rankOfQuotient num den)

/-- The binary number of 32 bits nearest to a decimal, as one of 64 bits. -/
def toSingle (d : Decimal) : Binary64 :=
  if d.digits = 0 ∨ d.magnitude < -330 then .zero d.negative
  else if 310 < d.magnitude then .infinity d.negative
  else
    let (num, den) := d.quotient
    let (m, e) := roundBinary 24 (-149) num den
    let (num, den) := if 0 ≤ e then (m * 2 ^ e.toNat, 1) else (m, 2 ^ (-e).toNat)
    if den * 2 ^ 128 ≤ num then .infinity d.negative
    else .ofRank d.negative (Binary64.rankOfQuotient num den)

end Decimal

namespace Binary64

/-- The values that are written as words, in any mix of cases and after an optional sign. -/
def readWord? (cs : List Char) : Option Binary64 :=
  let (negative, rest) := Decimal.readSign cs
  match String.ofList (rest.map Char.toLower) with
  | "inf" | "infinity" => some (infinity negative)
  | "nan" => some nan
  | _ => none

/-- Reads a number and rounds it. -/
def read? (cs : List Char) : Option Binary64 :=
  readWord? cs <|> (Decimal.read? cs).map Decimal.toBinary64

/-- Reads a number and rounds it to 32 bits. -/
def readSingle? (cs : List Char) : Option Binary64 :=
  readWord? cs <|> (Decimal.read? cs).map Decimal.toSingle

end Binary64
end RecordQuery
