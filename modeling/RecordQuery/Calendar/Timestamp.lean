import RecordQuery.Calendar.Date
import RecordQuery.Text.Digits

/-!
# `RecordQuery.Calendar.Timestamp` — points in time

A timestamp counts the seconds since 1970-01-01 and the nanoseconds after. A leap second is the
second before it with 10⁹ nanoseconds or more. `text` writes the date and the time with as many
groups of three places as it takes.
-/

namespace RecordQuery

structure Timestamp where
  seconds : Int
  nanoseconds : Nat
deriving DecidableEq, Inhabited

namespace Timestamp

/-- The order of time. -/
def compare (a b : Timestamp) : Ordering :=
  (Ord.compare a.seconds b.seconds).then (Ord.compare a.nanoseconds b.nanoseconds)

/-- The day and the second of the day. -/
def day (t : Timestamp) : Int := t.seconds / 86400

def secondOfDay (t : Timestamp) : Nat := (t.seconds % 86400).toNat

/-- Whether its day is one that timestamps can lie on. -/
def inRange (t : Timestamp) : Bool := Date.leastDay ≤ t.day && t.day ≤ Date.greatestDay

/-- The point so many milliseconds after 1970-01-01, if it is in range. -/
def ofMilliseconds? (n : Int) : Option Timestamp :=
  let t : Timestamp := ⟨n / 1000, (n % 1000).toNat * 1000000⟩
  if t.inRange then some t else none

/-- The point so many milliseconds after 1970-01-01, or that day itself if it is out of range. -/
def ofMilliseconds (n : Int) : Timestamp := (ofMilliseconds? n).getD ⟨0, 0⟩

/-! ## Writing -/

open Text

/-- A year: four digits, and outside of these a sign and at least four. -/
def yearText (year : Int) : List Char :=
  if 0 ≤ year ∧ year ≤ 9999 then paddedDigits 4 year.toNat
  else
    let digits := decimalDigits year.natAbs
    (if year < 0 then '-' else '+') :: List.replicate (4 - digits.length) '0' ++ digits

/-- A part of a second in nanoseconds: nothing, or a point and three, six or nine digits. -/
def fractionText (n : Nat) : List Char :=
  if n = 0 then []
  else if n % 1000000 = 0 then '.' :: paddedDigits 3 (n / 1000000)
  else if n % 1000 = 0 then '.' :: paddedDigits 6 (n / 1000)
  else '.' :: paddedDigits 9 n

/-- The date and the time, without an offset. -/
def civilText (t : Timestamp) : List Char :=
  let date := Date.ofDays t.day
  let s := t.secondOfDay
  let leap := if 1000000000 ≤ t.nanoseconds then 1 else 0
  yearText date.year ++ '-' :: paddedDigits 2 date.month ++ '-' :: paddedDigits 2 date.day ++
    'T' :: paddedDigits 2 (s / 3600) ++ ':' :: paddedDigits 2 (s / 60 % 60) ++
    ':' :: paddedDigits 2 (s % 60 + leap) ++ fractionText (t.nanoseconds - leap * 1000000000)

/-- The text with the letter for Greenwich time. -/
def zuluText (t : Timestamp) : String := String.ofList (t.civilText ++ ['Z'])

/-- The text with an offset of zero hours. -/
def offsetText (t : Timestamp) : String :=
  String.ofList (t.civilText ++ ['+', '0', '0', ':', '0', '0'])

end Timestamp
end RecordQuery
