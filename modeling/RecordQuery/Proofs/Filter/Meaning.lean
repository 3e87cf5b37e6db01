import RecordQuery.Filter.Coercion
import RecordQuery.Proofs.Schema.Conformance
import RecordQuery.Text.LowerCase

/-!
# `Proofs.Filter.Meaning` — what a filter says about a record

`Node.Holds` reads a filter off its tree: connectives are the classical ones, a comparison looks its
field up and compares what it finds, and a quantifier ranges over the elements of a collection. It
knows nothing of predicates, null tests or the order of tests.

- A comparison of a path is false where a record on the way is absent.
- Null is only ever unequal; it is a member of the lists that hold null.
- A count is false, `any` is false and `all` is true where there is no collection to look at.
-/

namespace RecordQuery

/-! ## Operators -/

/-- What an operator says about two texts. -/
def Operator.RelatesTexts (op : Operator) (a b : String) : Prop :=
  match op with
  | .contains => b.toList <:+: a.toList
  | .startsWith => b.toList <+: a.toList
  | .endsWith => b.toList <:+ a.toList
  | .oneOf => a = b
  | op => op.holds (compare a b) = true

/-- What an operator says about two scalars that are not null. Values that do not compare, such as
    `nan` with anything, are only ever unequal. -/
def Operator.Relates (op : Operator) (ignoreCase : Bool) : Scalar → Scalar → Prop
  | .string a, .string b =>
    if ignoreCase then op.RelatesTexts (Text.lower a) (Text.lower b) else op.RelatesTexts a b
  | a, b =>
    match a.compare? b with
    | some order => op.holds order = true
    | none => op = .ne

/-! ## Looking up -/

/-- The field at the end of a path. -/
def Catalog.fieldAt? (catalog : Catalog) : Schema → Path → Option Field
  | _, [] => none
  | schema, [name] => schema.field? name
  | schema, name :: next :: rest =>
    match schema.field? name with
    | some ⟨_, .record place, _⟩ => catalog.fieldAt? (catalog.schema place) (next :: rest)
    | _ => none

/-- The schema of the records in the list at the end of a path. -/
def Catalog.elementSchemaAt? (catalog : Catalog) (schema : Schema) (path : Path) : Option Schema :=
  match catalog.fieldAt? schema path with
  | some ⟨_, .list (.record place), _⟩ => some (catalog.schema place)
  | _ => none

/-- The elements of the list at the end of a path, if it and every record on the way are there. -/
def Path.elements? (path : Path) (record : Record) : Option (List Value) :=
  match path.terminal? record with
  | some (.list items) => some items
  | _ => none

namespace Filter

/-! ## Comparisons -/

/-- What a comparison says about a value of a type. -/
def ValueMeets (type : FieldType) (value : Value) (op : Operator) (ignoreCase : Bool)
    (right : Literal) : Prop :=
  match right, op with
  | .null, .eq => value = .null
  | .null, .ne => value ≠ .null
  | .null, _ => False
  | .list items, .oneOf =>
    (value = .null ∧ .null ∈ items) ∨
      ∃ s, value = .scalar s ∧ s ≠ .null ∧
        ∃ item ∈ items, ∃ other, item.coerce? type = some other ∧
          Operator.eq.Relates ignoreCase s other
  | literal, op =>
    (value = .null ∧ op = .ne) ∨
      ∃ s, value = .scalar s ∧ s ≠ .null ∧
        ∃ other, literal.coerce? type = some other ∧ op.Relates ignoreCase s other

/-- The count that a literal stands for. -/
def Literal.count? (literal : Literal) : Option Nat :=
  match literal.coerce? .uint with
  | some (.number (.uint n)) => some n.toNat
  | _ => none

/-- What a comparison says about the length of a list. -/
def LengthMeets (length : Nat) (op : Operator) (right : Literal) : Prop :=
  match right, op with
  | .list items, .oneOf => ∃ item ∈ items, item.count? = some length
  | literal, op => ∃ n, literal.count? = some n ∧ op.holds (compare length n) = true

/-! ## Filters -/

namespace Node

mutual

/-- The filter holds of a record of the schema. -/
def Holds (catalog : Catalog) : Schema → Record → Node → Prop
  | schema, record, .logical .and terms => AllHold catalog schema record terms
  | schema, record, .logical .or terms => AnyHolds catalog schema record terms
  | schema, record, .not inner => ¬Holds catalog schema record inner
  | schema, record, .comparison (.path names) op ignoreCase right =>
    ∃ field value, catalog.fieldAt? schema names = some field ∧
      names.terminal? record = some value ∧ ValueMeets field.type value op ignoreCase right
  | _, record, .comparison (.count names) op _ right =>
    ∃ items, names.elements? record = some items ∧ LengthMeets items.length op right
  | _, record, .quantified .any source none =>
    ∃ items, source.elements? record = some items ∧ items ≠ []
  | _, _, .quantified .all _ none => True
  | schema, record, .quantified .any source (some body) =>
    ∃ items inner, source.elements? record = some items ∧
      catalog.elementSchemaAt? schema source = some inner ∧
      ∃ fields, .record fields ∈ items ∧ Holds catalog inner fields body
  | schema, record, .quantified .all source (some body) =>
    ∀ items inner, source.elements? record = some items →
      catalog.elementSchemaAt? schema source = some inner →
      ∀ fields, .record fields ∈ items → Holds catalog inner fields body

/-- Every one of the filters holds. -/
def AllHold (catalog : Catalog) : Schema → Record → List Node → Prop
  | _, _, [] => True
  | schema, record, term :: terms =>
    Holds catalog schema record term ∧ AllHold catalog schema record terms

/-- One of the filters holds. -/
def AnyHolds (catalog : Catalog) : Schema → Record → List Node → Prop
  | _, _, [] => False
  | schema, record, term :: terms =>
    Holds catalog schema record term ∨ AnyHolds catalog schema record terms

end

end Node
end Filter
end RecordQuery
