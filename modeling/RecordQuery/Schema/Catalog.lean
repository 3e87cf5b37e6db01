import RecordQuery.Path
import RecordQuery.Schema.FieldType
import RecordQuery.Text.Escaped

/-!
# `RecordQuery.Schema.Catalog` — schemas and where they are found

A schema lists the fields of one record type; a catalog holds the schemas that refer to each other
by their places. A place without a schema stands for a record type without fields.
-/

namespace RecordQuery

structure Field where
  name : String
  type : FieldType
  nullable : Bool
deriving DecidableEq, Inhabited

structure Schema where
  name : String
  fields : List Field
deriving DecidableEq, Inhabited

/-- The field of that name; of equal names the first counts. -/
def Schema.field? (schema : Schema) (name : String) : Option Field :=
  schema.fields.find? (·.name == name)

structure Catalog where
  schemas : List Schema
deriving DecidableEq, Inhabited

/-- The schema at a place. -/
def Catalog.schema (catalog : Catalog) (place : Nat) : Schema :=
  catalog.schemas[place]?.getD ⟨"", []⟩

/-- The first schema, which is that of the records themselves. -/
def Catalog.root (catalog : Catalog) : Schema := catalog.schema 0

/-- A type as messages call it. -/
def FieldType.text (catalog : Catalog) : FieldType → String
  | bool => "bool"
  | int => "int"
  | uint => "uint"
  | float => "float"
  | string => "string"
  | timestamp => "timestamp"
  | uuid => "uuid"
  | enum _ => "enum"
  | record place => (catalog.schema place).name
  | list element => "list of " ++ element.text catalog

/-- A type with the variants of its enumerations. -/
def FieldType.inspect (catalog : Catalog) : FieldType → String
  | enum variants => "Enum([" ++ String.intercalate ", " (variants.map Text.escaped) ++ "])"
  | list element => "List(" ++ element.inspect catalog ++ ")"
  | other => other.text catalog

end RecordQuery
