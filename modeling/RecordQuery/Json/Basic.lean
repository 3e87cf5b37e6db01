import RecordQuery.Number.Decimal

/-!
# `RecordQuery.Json.Basic` — JSON documents as they are written

Strings keep their `\u` escapes and the bytes that belong to no character, so that a document can be
read as a whole before it is known which of its strings matter; `Json.text?` is strict about both.
Numbers keep all their digits.
-/

namespace RecordQuery

/-- One place of a text: a character, or a byte that belongs to none. -/
abbrev Symbol := Option Char

namespace Json

/-- A piece of a string between its quotes. -/
inductive Piece where
  | char (c : Char)
  /-- A `\u` escape with its four hexadecimal digits. -/
  | unit (code : Nat)
  /-- A byte that belongs to no character. -/
  | stray
deriving DecidableEq

abbrev RawString := List Piece

/-- A number; it is `whole` if it is written with neither a fraction nor an exponent. -/
structure Numeral where
  value : Decimal
  whole : Bool
deriving DecidableEq

end Json

/-- A JSON document. -/
inductive Json where
  | null
  | boolean (value : Bool)
  | number (value : Json.Numeral)
  | string (value : Json.RawString)
  | array (items : List Json)
  | object (fields : List (Json.RawString × Json))

namespace Json

/-- The characters of a string. Two escapes may make one character together; an escape that is half
of such a pair, and a stray byte, make the string no text. -/
def textChars? : RawString → Option (List Char)
  | [] => some []
  | .stray :: _ => none
  | .char c :: rest => (textChars? rest).map (c :: ·)
  | .unit code :: rest =>
    if code < 0xd800 ∨ 0xdfff < code then (textChars? rest).map (Char.ofNat code :: ·)
    else
      match rest with
      | .unit low :: rest =>
        if code < 0xdc00 ∧ 0xdc00 ≤ low ∧ low ≤ 0xdfff then
          (textChars? rest).map
            (Char.ofNat (0x10000 + (code - 0xd800) * 0x400 + (low - 0xdc00)) :: ·)
        else none
      | _ => none

/-- The text that a string stands for. -/
def text? (s : RawString) : Option String := (textChars? s).map String.ofList

/-- The integer that a number is, if it is written as one; minus zero is none. -/
def Numeral.integer? (n : Numeral) : Option Int :=
  if !n.whole || (n.value.negative && n.value.digits == 0) then none
  else some (if n.value.negative then -n.value.digits else n.value.digits)

end Json
end RecordQuery
