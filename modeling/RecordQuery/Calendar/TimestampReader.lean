import RecordQuery.Calendar.Timestamp
import RecordQuery.Text.Blank

/-!
# `RecordQuery.Calendar.TimestampReader` — reading points in time

Three notations are read: the strict one with an offset (`strict?`), the same with white space and
missing zeros allowed (`relaxed?`), and dates with or without a time but without an offset
(`civil?`, `date?`). A reader step takes the front of a text and gives a value and the rest.
-/

namespace RecordQuery.Timestamp

open Text

/-- The parts of a date and a time, and how many seconds its clock is ahead of Greenwich. -/
structure Parts where
  date : Date
  hour : Nat
  minute : Nat
  second : Nat
  nanoseconds : Nat
  offset : Int

/-- The point in time, if there are such a day, such a time and such an offset and the point is in
range. The sixty-first second is the leap second of any minute. -/
def Parts.timestamp? (p : Parts) : Option Timestamp :=
  if p.date.isValid && p.hour < 24 && p.minute < 60 && p.second ≤ 60 && p.offset.natAbs < 86400 then
    let leap := if p.second = 60 then 1 else 0
    let t : Timestamp :=
      ⟨p.date.toDays * 86400 + p.hour * 3600 + p.minute * 60 + (p.second - leap : Nat) - p.offset,
        p.nanoseconds + leap * 1000000000⟩
    if t.inRange then some t else none
  else none

/-! ## Steps -/

/-- A number of at least one width and at most another. -/
def readDigits? (least most : Nat) (cs : List Char) : Option (Nat × List Char) :=
  let digits := (cs.take most).takeWhile isDigit
  if digits.length < least then none else some (digitsValue digits, cs.drop digits.length)

/-- One character. -/
def readChar? (c : Char) : List Char → Option (List Char)
  | d :: cs => if d = c then some cs else none
  | [] => none

/-- The letter or the space between the date and the time. -/
def readBetween? : List Char → Option (List Char)
  | c :: cs => if c = 'T' ∨ c = 't' ∨ c = ' ' then some cs else none
  | [] => none

/-- An optional fraction of a second; digits after the ninth are dropped. -/
def readFraction? : List Char → Option (Nat × List Char)
  | '.' :: cs =>
    let digits := cs.takeWhile isDigit
    if digits.isEmpty then none
    else
      let kept := digits.take 9
      some (digitsValue kept * 10 ^ (9 - kept.length), cs.dropWhile isDigit)
  | cs => some (0, cs)

/-- An offset: the letter for none, or a sign, two digits of hours, what `between` takes, and two
digits of minutes. The sign may be the typographic minus. -/
def readOffset? (between : List Char → Option (List Char)) :
    List Char → Option (Int × List Char)
  | [] => none
  | c :: cs =>
    if c = 'Z' ∨ c = 'z' then some (0, cs)
    else if c = '+' ∨ c = '-' ∨ c = '−' then do
      let (hours, cs) ← readDigits? 2 2 cs
      let cs ← between cs
      let (minutes, cs) ← readDigits? 2 2 cs
      if 60 ≤ minutes then none
      let seconds : Int := hours * 3600 + minutes * 60
      some (if c = '+' then seconds else -seconds, cs)
    else none

/-! ## The strict notation -/

/-- Reads `2024-03-01T12:30:00.5+01:00` with every digit in its place. -/
def strict? (cs : List Char) : Option Timestamp := do
  let (year, cs) ← readDigits? 4 4 cs
  let cs ← readChar? '-' cs
  let (month, cs) ← readDigits? 2 2 cs
  let cs ← readChar? '-' cs
  let (day, cs) ← readDigits? 2 2 cs
  let cs ← readBetween? cs
  let (hour, cs) ← readDigits? 2 2 cs
  let cs ← readChar? ':' cs
  let (minute, cs) ← readDigits? 2 2 cs
  let cs ← readChar? ':' cs
  let (second, cs) ← readDigits? 2 2 cs
  let (nanoseconds, cs) ← readFraction? cs
  let (offset, cs) ← readOffset? (readChar? ':') cs
  if cs.isEmpty then
    Parts.timestamp? ⟨⟨year, month, day⟩, hour, minute, second, nanoseconds, offset⟩
  else none

/-! ## The relaxed notations -/

/-- A year: up to four digits, or a sign and any number of them. -/
def readYear? (cs : List Char) : Option (Int × List Char) :=
  match trimStart cs with
  | '-' :: cs => (readDigits? 1 cs.length cs).map fun (n, cs) => (-(n : Int), cs)
  | '+' :: cs => (readDigits? 1 cs.length cs).map fun (n, cs) => ((n : Int), cs)
  | cs => (readDigits? 1 4 cs).map fun (n, cs) => ((n : Int), cs)

/-- One or two digits, with white space before them. -/
def readTwo? (cs : List Char) : Option (Nat × List Char) := readDigits? 1 2 (trimStart cs)

/-- A date; with `gaps`, white space may stand before its hyphens. -/
def readDate? (gaps : Bool) (cs : List Char) : Option (Date × List Char) := do
  let gap (cs : List Char) := if gaps then trimStart cs else cs
  let (year, cs) ← readYear? cs
  let cs ← readChar? '-' (gap cs)
  let (month, cs) ← readTwo? cs
  let cs ← readChar? '-' (gap cs)
  let (day, cs) ← readTwo? cs
  some (⟨year, month, day⟩, cs)

/-- A time, as the parts of that day in Greenwich; with `gaps`, white space may stand before its
colons. -/
def readTime? (gaps : Bool) (date : Date) (cs : List Char) : Option (Parts × List Char) := do
  let gap (cs : List Char) := if gaps then trimStart cs else cs
  let (hour, cs) ← readTwo? cs
  let cs ← readChar? ':' (gap cs)
  let (minute, cs) ← readTwo? cs
  let cs ← readChar? ':' (gap cs)
  let (second, cs) ← readTwo? cs
  let (nanoseconds, cs) ← readFraction? cs
  some (⟨date, hour, minute, second, nanoseconds, 0⟩, cs)

/-- An offset, or the three letters for none. -/
def readZone? (cs : List Char) : Option (Int × List Char) :=
  if (cs.take 3).map Char.toLower = ['u', 't', 'c'] then some (0, cs.drop 3)
  else readOffset? (fun cs => some (cs.dropWhile fun c => c == ':' || isBlank c)) cs

/-- Reads the notation with an offset, white space and missing zeros allowed. -/
def relaxed? (cs : List Char) : Option Timestamp := do
  let (date, cs) ← readDate? true cs
  let cs ← readBetween? cs
  let (parts, cs) ← readTime? true date cs
  let (offset, cs) ← readZone? (trimStart cs)
  if (trimStart cs).isEmpty then Parts.timestamp? { parts with offset } else none

/-- Reads a date and a time in Greenwich, `between` taking what stands between them. -/
def civil? (between : List Char → Option (List Char)) (cs : List Char) : Option Timestamp := do
  let (date, cs) ← readDate? false cs
  let cs ← between cs
  let (parts, cs) ← readTime? false date cs
  if cs.isEmpty then parts.timestamp? else none

/-- Reads a date, as its first moment in Greenwich. -/
def date? (cs : List Char) : Option Timestamp := do
  let (date, cs) ← readDate? false cs
  if cs.isEmpty then Parts.timestamp? ⟨date, 0, 0, 0, 0, 0⟩ else none

/-- Reads a timestamp as filters write it: the strict notation, a date and a time without an offset,
or a date alone. -/
def read? (cs : List Char) : Option Timestamp :=
  strict? cs <|> civil? (readChar? 'T') cs <|> civil? (fun cs => some (trimStart cs)) cs <|>
    date? cs

end RecordQuery.Timestamp
