/-!
# `RecordQuery.Calendar.Date` — days of the proleptic Gregorian calendar

Days are counted from 1970-01-01. The years are those that a timestamp can lie in.
-/

namespace RecordQuery

/-- A day: its year, its month and its day of the month, the last two from one. -/
structure Date where
  year : Int
  month : Nat
  day : Nat
deriving DecidableEq, Inhabited

namespace Date

def isLeapYear (year : Int) : Bool := year % 4 == 0 && (year % 100 != 0 || year % 400 == 0)

/-- The number of days of a month; zero if there is no such month. -/
def monthLength (year : Int) (month : Nat) : Nat :=
  match month with
  | 1 | 3 | 5 | 7 | 8 | 10 | 12 => 31
  | 4 | 6 | 9 | 11 => 30
  | 2 => if isLeapYear year then 29 else 28
  | _ => 0

/-- The years that a timestamp can lie in. -/
def leastYear : Int := -262143

def greatestYear : Int := 262142

/-- Whether there is such a day in the years that count. -/
def isValid (d : Date) : Bool :=
  leastYear ≤ d.year && d.year ≤ greatestYear && 1 ≤ d.day && d.day ≤ monthLength d.year d.month

/-- The days from 1970-01-01. Years are taken to begin in March, so that the leap day ends them. -/
def toDays (d : Date) : Int :=
  let year := if d.month ≤ 2 then d.year - 1 else d.year
  let month := if d.month ≤ 2 then d.month + 9 else d.month - 3
  let dayOfYear : Int := (153 * month + 2) / 5 + d.day - 1
  year * 365 + year / 4 - year / 100 + year / 400 + dayOfYear - 719468

/-- The day that lies so many days after 1970-01-01. -/
def ofDays (days : Int) : Date :=
  let z := days + 719468
  let era := z / 146097
  let dayOfEra := z % 146097
  let yearOfEra := (dayOfEra - dayOfEra / 1460 + dayOfEra / 36524 - dayOfEra / 146096) / 365
  let dayOfYear := (dayOfEra - (365 * yearOfEra + yearOfEra / 4 - yearOfEra / 100)).toNat
  let month := (5 * dayOfYear + 2) / 153
  let day := dayOfYear - (153 * month + 2) / 5 + 1
  let month := if month < 10 then month + 3 else month - 9
  ⟨yearOfEra + era * 400 + (if month ≤ 2 then 1 else 0), month, day⟩

example : toDays ⟨1970, 1, 1⟩ = 0 ∧ toDays ⟨2000, 2, 29⟩ = 11016 ∧ ofDays 11016 = ⟨2000, 2, 29⟩ ∧
    ofDays (-719529) = ⟨-1, 12, 31⟩ := by decide

/-- The first and the last day that a timestamp can lie on. -/
def leastDay : Int := toDays ⟨leastYear, 1, 1⟩

def greatestDay : Int := toDays ⟨greatestYear, 12, 31⟩

end Date
end RecordQuery
