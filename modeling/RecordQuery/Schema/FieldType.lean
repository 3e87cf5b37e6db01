/-!
# `RecordQuery.Schema.FieldType` — the declared types of record fields

A record type is named by its place in a `Catalog`, so that record types may refer to each other and
to themselves.
-/

namespace RecordQuery

/-- The declared type of a field. -/
inductive FieldType where
  | bool
  | int
  | uint
  | float
  | string
  | timestamp
  | uuid
  /-- One of the named variants, in the order of their ordinals. -/
  | enum (variants : List String)
  /-- A nested record, by the place of its schema in the catalog. -/
  | record (place : Nat)
  | list (element : FieldType)
deriving DecidableEq, Inhabited

namespace FieldType

/-- The three kinds of number. -/
def isNumeric : FieldType → Bool
  | .int | .uint | .float => true
  | _ => false

/-- Everything but records and lists. -/
def isScalar : FieldType → Bool
  | .record _ | .list _ => false
  | _ => true

def isCollection : FieldType → Bool
  | .list _ => true
  | _ => false

/-- The type of a list's elements. -/
def element? : FieldType → Option FieldType
  | .list element => some element
  | _ => none

/-- The place of a record type's schema. -/
def place? : FieldType → Option Nat
  | .record place => some place
  | _ => none

end FieldType
end RecordQuery
