import RecordQuery.Json.Basic

/-!
# `RecordQuery.Json.Symbols` — bytes as the characters they spell

In UTF-8 a byte may belong to no character; `symbols` keeps its place.
-/

namespace RecordQuery.Json

/-- The symbols from a byte on; the first argument bounds how many there are. -/
def symbolsFrom (bytes : ByteArray) : Nat → Nat → List Symbol
  | 0, _ => []
  | fuel + 1, i =>
    if i < bytes.size then
      match bytes.utf8DecodeChar? i with
      | some c => some c :: symbolsFrom bytes fuel (i + c.utf8Size)
      | none => none :: symbolsFrom bytes fuel (i + 1)
    else []

/-- The characters of a byte string, and its bytes that belong to none. -/
def symbols (bytes : ByteArray) : List Symbol :=
  match String.fromUTF8? bytes with
  | some s => s.toList.map some
  | none => symbolsFrom bytes bytes.size 0

end RecordQuery.Json
