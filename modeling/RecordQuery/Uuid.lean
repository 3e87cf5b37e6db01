import RecordQuery.Text.Digits

/-!
# `RecordQuery.Uuid` — identifiers of 128 bits
-/

namespace RecordQuery

structure Uuid where
  bits : BitVec 128
deriving DecidableEq, Inhabited

namespace Uuid

open Text

/-- The order of the bytes, which is that of the numbers. -/
def compare (a b : Uuid) : Ordering := Ord.compare a.bits.toNat b.bits.toNat

/-- The last hexadecimal digits of a number, exactly so many. -/
def hexPadded : Nat → Nat → List Char
  | 0, _ => []
  | width + 1, n => hexPadded width (n / 16) ++ [Nat.digitChar (n % 16)]

/-- Groups of 8, 4, 4, 4 and 12 digits with hyphens between them, in lower case. -/
def text (u : Uuid) : String :=
  let n := u.bits.toNat
  String.ofList <|
    hexPadded 8 (n / 2 ^ 96) ++ '-' :: hexPadded 4 (n / 2 ^ 80) ++ '-' ::
      hexPadded 4 (n / 2 ^ 64) ++ '-' :: hexPadded 4 (n / 2 ^ 48) ++ '-' :: hexPadded 12 n

/-- Thirty-two hexadecimal digits. -/
def readDigits? (cs : List Char) : Option Uuid :=
  if cs.length = 32 then (hexValue? cs).map fun n => ⟨BitVec.ofNat 128 n⟩ else none

/-- Groups of digits with hyphens between them. -/
def readHyphenated? (cs : List Char) : Option Uuid :=
  if cs.length = 36 ∧ [8, 13, 18, 23].all (fun i => cs[i]? == some '-') then
    readDigits? <|
      cs.take 8 ++ (cs.drop 9).take 4 ++ (cs.drop 14).take 4 ++ (cs.drop 19).take 4 ++ cs.drop 24
  else none

/-- Reads the digits alone, the hyphenated groups, and these between braces or as a URN. -/
def read? (cs : List Char) : Option Uuid :=
  if cs.length = 32 then readDigits? cs
  else if cs.length = 38 ∧ cs.head? = some '\x7b' ∧ cs.getLast? = some '\x7d' then
    readHyphenated? (cs.drop 1).dropLast
  else if cs.length = 45 ∧ cs.take 9 = ['u', 'r', 'n', ':', 'u', 'u', 'i', 'd', ':'] then
    readHyphenated? (cs.drop 9)
  else readHyphenated? cs

end Uuid
end RecordQuery
