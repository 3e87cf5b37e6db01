import RecordQuery.Schema.FieldType

/-!
# `RecordQuery.Operator` — the ten comparison operators

Six compare by order, three look for one text in another, and `in` tests membership. `supports` says
which operators a declared type allows.
-/

namespace RecordQuery

/-- A comparison operator of the filter language. -/
inductive Operator where
  | eq
  | ne
  | lt
  | le
  | gt
  | ge
  | contains
  | startsWith
  | endsWith
  | oneOf
deriving DecidableEq, Inhabited

namespace Operator

/-- Every operator, in the order in which tables list them. -/
def all : List Operator :=
  [eq, ne, lt, le, gt, ge, contains, startsWith, endsWith, oneOf]

/-- The operator as it is written in a filter. -/
def text : Operator → String
  | eq => "=="
  | ne => "!="
  | lt => "<"
  | le => "<="
  | gt => ">"
  | ge => ">="
  | contains => "%="
  | startsWith => "^="
  | endsWith => "$="
  | oneOf => "in"

/-- The operator that is written so. -/
def ofText? (s : String) : Option Operator := all.find? fun op => op.text == s

/-- The operator as a predicate shows it. -/
def symbol : Operator → String
  | eq => "="
  | ne => "<>"
  | lt => "<"
  | le => "<="
  | gt => ">"
  | ge => ">="
  | contains => "CONTAINS"
  | startsWith => "STARTS WITH"
  | endsWith => "ENDS WITH"
  | oneOf => "IN"

/-- The four strict and weak inequalities. -/
def isOrdering : Operator → Bool
  | lt | le | gt | ge => true
  | _ => false

/-- The three operators that look for one text in another. -/
def isSubstring : Operator → Bool
  | contains | startsWith | endsWith => true
  | _ => false

/-- The six operators that the order of two values decides. -/
def isRelational : Operator → Bool
  | eq | ne | lt | le | gt | ge => true
  | _ => false

/-- Whether the operator holds of two values in the given order; the other operators never do. -/
def holds : Operator → Ordering → Bool
  | eq, o => o == .eq
  | ne, o => o != .eq
  | lt, o => o == .lt
  | le, o => o != .gt
  | gt, o => o == .gt
  | ge, o => o != .lt
  | _, _ => false

/-- The types whose values have an order that filters may ask about. -/
def comparesType : FieldType → Bool
  | .string | .int | .uint | .float | .timestamp | .uuid => true
  | _ => false

/-- Whether a filter may use the operator on a field of the type. -/
def supports (op : Operator) (type : FieldType) : Bool :=
  if op.isSubstring then type == .string
  else if op.isOrdering then comparesType type
  else type.isScalar

end Operator
end RecordQuery
