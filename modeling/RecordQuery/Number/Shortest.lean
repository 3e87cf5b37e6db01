import RecordQuery.Number.Binary64
import RecordQuery.Number.Decimal

/-!
# `RecordQuery.Number.Shortest` — the fewest digits that read back

The reals that round to a number form an interval. For 1, 2, … 17 digits the two decimals of so many
digits around the number are tried; the first that lies in the interval wins, of two the nearer.
-/

namespace RecordQuery.Shortest

/-- What to take of two decimals that are equally near. -/
inductive Tie where
  | up
  | even
deriving DecidableEq

/-- A number and the two ends of the reals that round to it, over one denominator. -/
structure Interval where
  low : Nat
  middle : Nat
  high : Nat
  denominator : Nat
  /-- Whether the ends round to the number too. -/
  closed : Bool

/-- The interval of a magnitude. The magnitude below a power of two is only half as far away, and
halves go to the even significand. -/
def interval (rank : Nat) : Interval :=
  let m := Binary64.significand rank
  let e := Binary64.exponent rank - 2
  let below := if m = 2 ^ 52 ∧ 2 ^ 53 ≤ rank then 1 else 2
  let (unit, denominator) := if 0 ≤ e then (2 ^ e.toNat, 1) else (1, 2 ^ (-e).toNat)
  ⟨(4 * m - below) * unit, 4 * m * unit, (4 * m + 2) * unit, denominator, m % 2 == 0⟩

/-- The exponent of the greatest power of ten that is not above a positive quotient. -/
def floorLog10 (num den : Nat) : Int :=
  if den ≤ num then (Text.decimalDigits (num / den)).length - 1
  else
    let digits := (Text.decimalDigits (den / num)).length
    if den ≤ num * 10 ^ (digits - 1) then 1 - digits else -digits

/-- Whether the decimal lies in the interval. -/
def Interval.contains (i : Interval) (digits : Nat) (scale : Int) : Bool :=
  let (value, factor) :=
    if 0 ≤ scale then (digits * 10 ^ scale.toNat * i.denominator, 1)
    else (digits * i.denominator, 10 ^ (-scale).toNat)
  if i.closed then i.low * factor ≤ value && value ≤ i.high * factor
  else i.low * factor < value && value < i.high * factor

/-- The decimal on the grid of one scale that lies in the interval and is nearest to its middle. -/
def Interval.onGrid? (i : Interval) (tie : Tie) (scale : Int) : Option Nat :=
  let (num, den) :=
    if 0 ≤ scale then (i.middle, i.denominator * 10 ^ scale.toNat)
    else (i.middle * 10 ^ (-scale).toNat, i.denominator)
  let below := num / den
  let rest := num % den
  let upward :=
    den < 2 * rest || (den == 2 * rest && (tie == .up || below % 2 == 1))
  match i.contains below scale, i.contains (below + 1) scale with
  | true, true => some (if upward then below + 1 else below)
  | true, false => some below
  | false, true => some (below + 1)
  | false, false => none

/-- Digits without zeros at the end; each zero goes to the scale. -/
def stripZeros : Nat → Nat → Int → Nat × Int
  | 0, digits, scale => (digits, scale)
  | fuel + 1, digits, scale =>
    if digits % 10 = 0 then stripZeros fuel (digits / 10) (scale + 1) else (digits, scale)

/-- The shortest digits of a positive magnitude and their scale. -/
def digits (tie : Tie) (rank : Nat) : Nat × Int :=
  let i := interval rank
  let top := floorLog10 i.middle i.denominator
  let scales := (List.range 17).map fun (n : Nat) => top - n
  let found := scales.findSome? fun scale => (i.onGrid? tie scale).map fun d => (d, scale)
  match found with
  | some (d, scale) => stripZeros 17 d scale
  | none => (0, 0)

end RecordQuery.Shortest
