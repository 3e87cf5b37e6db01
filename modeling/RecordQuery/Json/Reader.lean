import RecordQuery.Json.Basic
import RecordQuery.Text.Digits

/-!
# `RecordQuery.Json.Reader` — reading JSON strictly

White space is the space, the tab and the two line ends. Numbers have no leading zeros and no bare
point; strings hold no control characters; nothing may follow the document but white space.
-/

namespace RecordQuery.Json

open Text

def isSpace (c : Char) : Bool := c == ' ' || c == '\n' || c == '\t' || c == '\r'

def skipSpace : List Symbol → List Symbol
  | some c :: rest => if isSpace c then skipSpace rest else some c :: rest
  | rest => rest

/-! ## Strings -/

/-- The code that four hexadecimal digits give. -/
def hexCode? (a b c d : Symbol) : Option Nat := do
  hexValue? [← a, ← b, ← c, ← d]

/-- What a backslash and the character stand for. -/
def escape? : Char → Option Char
  | '"' => some '"'
  | '\\' => some '\\'
  | '/' => some '/'
  | 'b' => some '\x08'
  | 'f' => some '\x0c'
  | 'n' => some '\n'
  | 'r' => some '\r'
  | 't' => some '\t'
  | _ => none

/-- A string after its first quote, and what follows its last. -/
def readString : List Symbol → Option (RawString × List Symbol)
  | [] => none
  | none :: rest => (readString rest).map fun (pieces, rest) => (.stray :: pieces, rest)
  | some '"' :: rest => some ([], rest)
  | some '\\' :: some 'u' :: a :: b :: c :: d :: rest => do
    let code ← hexCode? a b c d
    let (pieces, rest) ← readString rest
    some (.unit code :: pieces, rest)
  | some '\\' :: some e :: rest => do
    let c ← escape? e
    let (pieces, rest) ← readString rest
    some (.char c :: pieces, rest)
  | some c :: rest =>
    if c = '\\' ∨ c < ' ' then none
    else (readString rest).map fun (pieces, rest) => (.char c :: pieces, rest)

/-! ## Numbers -/

/-- The digits at the front and what follows them. -/
def digitsFront : List Symbol → List Char × List Symbol
  | some c :: rest =>
    if isDigit c then
      let (digits, rest) := digitsFront rest
      (c :: digits, rest)
    else ([], some c :: rest)
  | rest => ([], rest)

/-- An exponent after its letter. -/
def readExponent (s : List Symbol) : Option (Int × List Symbol) :=
  let (negative, s) :=
    match s with
    | some '-' :: rest => (true, rest)
    | some '+' :: rest => (false, rest)
    | rest => (false, rest)
  match digitsFront s with
  | ([], _) => none
  | (digits, rest) =>
    let n : Int := digitsValue digits
    some (if negative then -n else n, rest)

/-- A number after its sign. -/
def readUnsigned (negative : Bool) (s : List Symbol) : Option (Numeral × List Symbol) := do
  let (digits, rest) := digitsFront s
  if digits.isEmpty || (digits.head? == some '0' && digits.length != 1) then none
  let (places, rest, point) ←
    match rest with
    | some '.' :: rest =>
      match digitsFront rest with
      | ([], _) => none
      | (places, rest) => some (places, rest, true)
    | _ => some ([], rest, false)
  let (power, rest, raised) ←
    match rest with
    | some 'e' :: rest | some 'E' :: rest =>
      (readExponent rest).map fun (power, rest) => (power, rest, true)
    | _ => some (0, rest, false)
  let decimal := ⟨negative, digitsValue (digits ++ places), power - places.length⟩
  some (⟨decimal, !point && !raised⟩, rest)

def readNumber : List Symbol → Option (Numeral × List Symbol)
  | some '-' :: rest => readUnsigned true rest
  | s => readUnsigned false s

/-! ## Documents -/

/-- What follows a word, if the text starts with it. -/
def afterWord? : List Char → List Symbol → Option (List Symbol)
  | [], s => some s
  | c :: cs, some d :: rest => if c = d then afterWord? cs rest else none
  | _ :: _, _ => none

mutual

/-- A value at the front, white space before it left out. The first argument bounds the depth of
the recursion; two for each symbol are enough. -/
def readValue : Nat → List Symbol → Option (Json × List Symbol)
  | 0, _ => none
  | fuel + 1, s =>
    match skipSpace s with
    | [] => none
    | some '"' :: rest => (readString rest).map fun (s, rest) => (.string s, rest)
    | some '[' :: rest =>
      match skipSpace rest with
      | some ']' :: rest => some (.array [], rest)
      | rest => (readItems fuel rest).map fun (items, rest) => (.array items, rest)
    | some '\x7b' :: rest =>
      match skipSpace rest with
      | some '\x7d' :: rest => some (.object [], rest)
      | rest => (readFields fuel rest).map fun (fields, rest) => (.object fields, rest)
    | some 'n' :: rest => (afterWord? ['u', 'l', 'l'] rest).map (.null, ·)
    | some 't' :: rest => (afterWord? ['r', 'u', 'e'] rest).map (.boolean true, ·)
    | some 'f' :: rest => (afterWord? ['a', 'l', 's', 'e'] rest).map (.boolean false, ·)
    | s => (readNumber s).map fun (n, rest) => (.number n, rest)

/-- The items of an array up to its closing bracket. -/
def readItems : Nat → List Symbol → Option (List Json × List Symbol)
  | 0, _ => none
  | fuel + 1, s => do
    let (item, rest) ← readValue fuel s
    match skipSpace rest with
    | some ',' :: rest =>
      let (items, rest) ← readItems fuel rest
      some (item :: items, rest)
    | some ']' :: rest => some ([item], rest)
    | _ => none

/-- The fields of an object up to its closing brace. -/
def readFields : Nat → List Symbol → Option (List (RawString × Json) × List Symbol)
  | 0, _ => none
  | fuel + 1, s =>
    match skipSpace s with
    | some '"' :: rest => do
      let (name, rest) ← readString rest
      match skipSpace rest with
      | some ':' :: rest =>
        let (value, rest) ← readValue fuel rest
        match skipSpace rest with
        | some ',' :: rest =>
          let (fields, rest) ← readFields fuel rest
          some ((name, value) :: fields, rest)
        | some '\x7d' :: rest => some ([(name, value)], rest)
        | _ => none
      | _ => none
    | _ => none

end

/-- Reads a document that takes the whole text. -/
def read? (text : List Symbol) : Option Json :=
  match readValue (2 * text.length + 2) text with
  | some (document, rest) => if (skipSpace rest).isEmpty then some document else none
  | none => none

end RecordQuery.Json
