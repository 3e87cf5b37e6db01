import RecordQuery.Cursor.Base64Url
import RecordQuery.Cursor.Entry
import RecordQuery.Json.Reader
import RecordQuery.Json.Symbols

/-!
# `RecordQuery.Cursor.Token` — key values as opaque tokens

A token is a JSON array of entries in URL-safe letters. Whoever brings one back may have made it up,
so reading checks everything: the letters, the document, the number of values, and each value
against the type of its key.
-/

namespace RecordQuery

/-- Why key values have no token, or a token no key values. -/
inductive CursorError where
  | encoding
  | payload
  | arity (expected actual : Nat)
  | typeMismatch (index : Nat) (expected : String)
  | nonFinite (index : Nat)
deriving DecidableEq, Inhabited

def CursorError.message : CursorError → String
  | encoding => "cursor is not valid base64"
  | payload => "cursor payload is malformed"
  | arity expected actual =>
    "cursor has " ++ toString actual ++ " values but the ordering has " ++ toString expected ++
      " keys"
  | typeMismatch index expected =>
    "cursor value " ++ toString index ++ " does not fit key type " ++ expected
  | nonFinite index => "cursor value " ++ toString index ++ " is not a finite number"

namespace Cursor

/-- The entries for scalars, the first of which stands at a place. -/
def entriesFrom (index : Nat) : List Scalar → Except CursorError (List Entry)
  | [] => .ok []
  | value :: values =>
    match Entry.ofScalar? value with
    | none => .error (.nonFinite index)
    | some entry => (entriesFrom (index + 1) values).map (entry :: ·)

/-- Entries as a JSON array. -/
def payload (entries : List Entry) : List Char :=
  '[' :: List.intercalate [','] (entries.map Entry.json) ++ [']']

/-- The token for key values. -/
def encode (values : List Scalar) : Except CursorError String := do
  let entries ← entriesFrom 0 values
  .ok (String.ofList (Base64Url.encode (String.ofList (payload entries)).toUTF8.toList))

/-- The entries of a document. -/
def ofPayload? (bytes : List UInt8) : Option (List Entry) :=
  match Json.read? (Json.symbols ⟨bytes.toArray⟩) with
  | some (.array items) => items.mapM Entry.ofJson?
  | _ => none

/-- The scalars of the key types, the first of which stands at a place. -/
def scalarsFrom (catalog : Catalog) (index : Nat) :
    List Entry → List KeyType → Except CursorError (List Scalar)
  | entry :: entries, key :: keys =>
    match entry.scalar? key with
    | none => .error (.typeMismatch index (key.type.text catalog))
    | some value => (scalarsFrom catalog (index + 1) entries keys).map (value :: ·)
  | _, _ => .ok []

/-- The key values of a token, which have the types of the keys. -/
def decode (catalog : Catalog) (token : String) (keys : List KeyType) :
    Except CursorError (List Scalar) :=
  match Base64Url.decode? token.toList with
  | none => .error .encoding
  | some bytes =>
    match ofPayload? bytes with
    | none => .error .payload
    | some entries =>
      if entries.length = keys.length then scalarsFrom catalog 0 entries keys
      else .error (.arity keys.length entries.length)

end Cursor
end RecordQuery
