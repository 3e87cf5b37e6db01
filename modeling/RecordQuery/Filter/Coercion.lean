import RecordQuery.Calendar.TimestampReader
import RecordQuery.Filter.Node
import RecordQuery.Schema.Catalog
import RecordQuery.Schema.Error
import RecordQuery.Value.Basic

/-!
# `RecordQuery.Filter.Coercion` — literals as values of declared types

A number literal is read in the declared kind of number, so a fraction fits a `float` only. A string
literal may stand for a text, a point in time, an identifier or a member of an enumeration.
-/

namespace RecordQuery.Filter

/-- The value of the declared type that a literal stands for. -/
def Literal.coerce? : Literal → FieldType → Option Scalar
  | .number text, .int => (Text.readInt? text.toList).bind fun n => (Number.ofInt? n).map .number
  | .number text, .uint =>
    (Text.readPlusNat? text.toList).bind fun n => (Number.ofNat? n).map .number
  | .number text, .float =>
    ((Binary64.read? text.toList).filter Binary64.isFinite).map fun x => .number (.float x)
  | .string s, .string => some (.string s)
  | .string s, .timestamp => (Timestamp.read? s.toList).map .timestamp
  | .string s, .uuid => (Uuid.read? s.toList).map .uuid
  | .string s, .enum variants => (Member.find? variants s).map .enum
  | .boolean b, .bool => some (.bool b)
  | _, _ => none

/-- The error that a literal does not fit the type of a property. -/
def Literal.mismatch (catalog : Catalog) (literal : Literal) (type : FieldType) (path : String) :
    SchemaError :=
  .conversion literal.text (type.text catalog) path

/-- The value that a literal stands for, or the error that there is none. -/
def Literal.coerce (catalog : Catalog) (literal : Literal) (type : FieldType) (path : String) :
    Except SchemaError Scalar :=
  match literal.coerce? type with
  | some value => .ok value
  | none => .error (literal.mismatch catalog type path)

end RecordQuery.Filter
