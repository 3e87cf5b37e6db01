import RecordQuery.Calendar.Timestamp
import RecordQuery.Number.Basic
import RecordQuery.Uuid

/-!
# `RecordQuery.Value.Basic` — the values that records hold

A scalar is a value without parts. A record is a list of named values; a name that it does not list
reads as null, and of a name that it lists twice the first value counts.
-/

namespace RecordQuery

/-- A member of an enumeration: its name and its place among the variants. -/
structure Member where
  name : String
  ordinal : Nat
deriving DecidableEq, Inhabited

/-- The member of that name; of equal names the first counts. -/
def Member.find? (variants : List String) (name : String) : Option Member :=
  (variants.findIdx? (· == name)).map (⟨name, ·⟩)

/-- The member at that place. A place beyond the variants has no name. -/
def Member.ofOrdinal (variants : List String) (ordinal : Nat) : Member :=
  ⟨variants[ordinal]?.getD "", ordinal⟩

inductive Scalar where
  | null
  | bool (value : Bool)
  | number (value : Number)
  | string (value : String)
  | timestamp (value : Timestamp)
  | uuid (value : Uuid)
  | enum (value : Member)
deriving DecidableEq, Inhabited

inductive Value where
  | scalar (value : Scalar)
  | record (fields : List (String × Value))
  | list (items : List Value)
deriving Inhabited

/-- Named values. -/
abbrev Record := List (String × Value)

namespace Scalar

def isNull : Scalar → Bool
  | null => true
  | _ => false

/-- Equality of scalars: numbers are equal as `Number.same` says, all others if they are alike. -/
def same : Scalar → Scalar → Bool
  | number a, number b => a.same b
  | a, b => a == b

/-- The word for what kind of scalar it is. -/
def kind : Scalar → String
  | null => "null"
  | bool _ => "bool"
  | number _ => "number"
  | string _ => "string"
  | timestamp _ => "timestamp"
  | uuid _ => "uuid"
  | enum _ => "enum"

/-- The order of two scalars: null comes first, and two that are not null compare only if they are
of one kind. -/
def compare? : Scalar → Scalar → Option Ordering
  | null, null => some .eq
  | null, _ => some .lt
  | _, null => some .gt
  | string a, string b => some (compare a b)
  | number a, number b => a.compare? b
  | timestamp a, timestamp b => some (a.compare b)
  | uuid a, uuid b => some (a.compare b)
  | enum a, enum b => some (compare a.ordinal b.ordinal)
  | bool a, bool b => some (compare a b)
  | _, _ => none

end Scalar

namespace Value

/-- The value that is not there. -/
abbrev null : Value := .scalar .null

def isNull : Value → Bool
  | scalar s => s.isNull
  | _ => false

/-- The scalar that a value is. -/
def scalar? : Value → Option Scalar
  | scalar s => some s
  | _ => none

/-- The word for what kind of value it is. -/
def kind : Value → String
  | scalar s => s.kind
  | record _ => "record"
  | list _ => "list"

/-- The order of two values. Records and lists compare with null only. -/
def compare? : Value → Value → Option Ordering
  | scalar a, scalar b => a.compare? b
  | scalar .null, _ => some .lt
  | _, scalar .null => some .gt
  | _, _ => none

end Value

/-- The value of a field; null if the record does not list it. -/
def Record.field (record : Record) (name : String) : Value := (record.lookup name).getD .null

end RecordQuery
