import RecordQuery.Schema.Catalog
import RecordQuery.Schema.Error
import RecordQuery.Text.Blank

/-!
# `RecordQuery.Schema.ResolvedPath` — paths whose fields were looked up in a schema

Filters and orderings look paths up by one walk each: `Catalog.property` for a filter, which may end
at any field and says why the walk stops, and `Catalog.key` for an ordering, which must end at a
scalar.
-/

namespace RecordQuery

/-- The record fields that a path goes through, and the field that it ends at. -/
structure ResolvedPath where
  through : List Field
  last : Field
deriving DecidableEq, Inhabited

namespace ResolvedPath

def path (p : ResolvedPath) : Path := p.through.map (·.name) ++ [p.last.name]

def text (p : ResolvedPath) : String := p.path.text

/-- Whether the field may read as null, because it or a record on the way may be. -/
def nullable (p : ResolvedPath) : Bool := p.through.any (·.nullable) || p.last.nullable

/-- The paths of the fields that may be null, in the order of the list; `walked` leads to it. -/
def nullablePaths (walked : Path) : List Field → List Path
  | [] => []
  | field :: fields =>
    let here := walked ++ [field.name]
    if field.nullable then here :: nullablePaths here fields else nullablePaths here fields

/-- The paths of the records on the way that may be null, outermost first. -/
def nullableRecords (p : ResolvedPath) : List Path := nullablePaths [] p.through

end ResolvedPath

namespace Catalog

variable (catalog : Catalog)

/-- The field of a schema, or the error that there is none. -/
def lookUp (schema : Schema) (name : String) : Except SchemaError Field :=
  match schema.field? name with
  | some field => .ok field
  | none => .error (.unknownProperty schema.name name)

/-- Looks up the names of a path in a filter, `walked` being the names before them. -/
def propertyFrom (walked : Path) (schema : Schema) : Path → Except SchemaError ResolvedPath
  | [] => .error (.unknownProperty schema.name "")
  | [name] => do
    let field ← lookUp schema name
    .ok ⟨[], field⟩
  | name :: next :: rest => do
    let field ← lookUp schema name
    let walked := walked ++ [name]
    match field.type with
    | .record place =>
      let inner ← propertyFrom walked (catalog.schema place) (next :: rest)
      .ok { inner with through := field :: inner.through }
    | .list _ => .error (.navigateThroughCollection (Path.text walked))
    | _ => .error (.notARecord (Path.text walked) next)

/-- Looks up a path in a filter. -/
def property (schema : Schema) (path : Path) : Except SchemaError ResolvedPath :=
  catalog.propertyFrom [] schema path

/-- Looks up the names of an ordering key; `whole` is its text. -/
def keyFrom (whole : String) (schema : Schema) : Path → Except SchemaError ResolvedPath
  | [] => .error (.invalidOrderingKey whole)
  | [name] => do
    let field ← lookUp schema name
    if field.type.isScalar then .ok ⟨[], field⟩ else .error (.invalidOrderingKey whole)
  | name :: next :: rest => do
    let field ← lookUp schema name
    match field.type with
    | .record place =>
      let inner ← keyFrom whole (catalog.schema place) (next :: rest)
      .ok { inner with through := field :: inner.through }
    | _ => .error (.invalidOrderingKey whole)

/-- Looks up an ordering key, written with dots between its names. -/
def key (schema : Schema) (text : String) : Except SchemaError ResolvedPath :=
  catalog.keyFrom text schema ((Text.splitWhere (· == '.') text.toList).map String.ofList)

end Catalog
end RecordQuery
