import RecordQuery.Text.Digits

/-!
# `RecordQuery.Number.Decimal` — exact decimal numbers

A decimal is `digits · 10 ^ scale`, negated or not; minus zero is kept apart from zero.
-/

namespace RecordQuery

structure Decimal where
  negative : Bool
  digits : Nat
  scale : Int
deriving DecidableEq, Inhabited

namespace Decimal

open Text

/-- An optional sign, and whether it is a minus. -/
def readSign : List Char → Bool × List Char
  | '-' :: cs => (true, cs)
  | '+' :: cs => (false, cs)
  | cs => (false, cs)

/-- An exponent up to the end of the text: none at all, or a letter, an optional sign and digits. -/
def readExponent? : List Char → Option Int
  | [] => some 0
  | c :: cs => if c = 'e' ∨ c = 'E' then readInt? cs else none

/-- Reads digits with at most one point among or around them and an optional exponent; there must be
a digit on one side of the point. -/
def readUnsigned? (negative : Bool) (cs : List Char) : Option Decimal :=
  let whole := cs.takeWhile isDigit
  let rest := cs.dropWhile isDigit
  let (places, rest) :=
    match rest with
    | '.' :: rest => (rest.takeWhile isDigit, rest.dropWhile isDigit)
    | rest => ([], rest)
  if whole.isEmpty && places.isEmpty then none
  else
    (readExponent? rest).map fun power =>
      ⟨negative, digitsValue (whole ++ places), power - places.length⟩

/-- Reads a decimal number that takes the whole text. -/
def read? (cs : List Char) : Option Decimal :=
  let (negative, rest) := readSign cs
  readUnsigned? negative rest

end Decimal
end RecordQuery
