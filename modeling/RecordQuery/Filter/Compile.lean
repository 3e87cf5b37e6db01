import RecordQuery.Filter.Coercion
import RecordQuery.Filter.Grammar
import RecordQuery.Predicate.Basic
import RecordQuery.Schema.ResolvedPath
import RecordQuery.Text.LowerCase

/-!
# `RecordQuery.Filter.Compile` — filters as predicates

Compiling checks every name and every literal of a filter against a schema. With null guards, what a
path says about a record behind a null is false, and what `all` says about a collection behind a
null is true; without them, evaluating such a predicate on such a record is an error.
-/

namespace RecordQuery.Filter

structure CompileOptions where
  /-- Whether records and collections that may be null are tested first. -/
  nullGuards : Bool := true
  /-- Whether the values of the predicate are parameters. -/
  parameterizeValues : Bool := false
deriving DecidableEq, Inhabited

namespace CompileOptions

variable (options : CompileOptions)

/-- The predicate behind the paths that may be null. -/
def guard (paths : List Path) (predicate : Predicate) : Predicate :=
  if !options.nullGuards || paths.isEmpty then predicate
  else .conjunction (paths.map Predicate.isNotNull ++ [predicate])

def bound (value : Scalar) : Bound := ⟨value, options.parameterizeValues⟩

end CompileOptions

/-- A text in lower case if case is ignored. -/
def foldCase (ignoreCase : Bool) : Scalar → Scalar
  | .string s => if ignoreCase then .string (Text.lower s) else .string s
  | other => other

/-- The left side of a comparison, looked up. -/
structure Target where
  path : Path
  operand : Operand
  type : FieldType
  /-- Whether the field itself may be null; the records on the way do not count. -/
  nullable : Bool
  /-- The paths that may be null and are read before the operand has a value. -/
  guards : List Path

section Compile

variable (catalog : Catalog) (options : CompileOptions)

/-- Looks up the left side of a comparison: a scalar, or a collection to count. -/
def Subject.target (schema : Schema) : Subject → Except SchemaError Target
  | .path names => do
    let p ← catalog.property schema names
    if p.last.type.isScalar then
      .ok ⟨p.path, .field p.path, p.last.type, p.last.nullable, p.nullableRecords⟩
    else .error (.notComparable p.text (p.last.type.text catalog))
  | .count names => do
    let p ← catalog.property schema names
    if p.last.type.isCollection then
      let guards := p.nullableRecords ++ (if p.last.nullable then [p.path] else [])
      .ok ⟨p.path, .count p.path, .uint, false, guards⟩
    else .error (.notACollection p.text "count")

/-- The values of a list that are not null. -/
def listBounds (type : FieldType) (ignoreCase : Bool) (path : String) :
    List Literal → Except SchemaError (List Bound)
  | [] => .ok []
  | .null :: items => listBounds type ignoreCase path items
  | item :: items => do
    let value ← item.coerce catalog type path
    let bounds ← listBounds type ignoreCase path items
    .ok (options.bound (foldCase ignoreCase value) :: bounds)

def Literal.isNull : Literal → Bool
  | .null => true
  | _ => false

/-- The test for membership in a list. A null in it stands for a null field. -/
def membership (target : Target) (ignoreCase : Bool) (items : List Literal) :
    Except SchemaError Predicate := do
  let bounds ← listBounds catalog options target.type ignoreCase target.path.text items
  let values := if bounds.isEmpty then [] else [.oneOf target.operand bounds ignoreCase]
  let nulls :=
    match target.operand with
    | .field path =>
      if target.nullable && items.any Literal.isNull then [.isNull path] else []
    | .count _ => []
  .ok (.disjunction (values ++ nulls))

/-- The test that a comparison stands for, without guards. -/
def bareComparison (target : Target) (op : Operator) (ignoreCase : Bool) (right : Literal) :
    Except SchemaError Predicate :=
  match right, op with
  | .null, op =>
    match target.operand, op with
    | .count _, _ => .error (.nullNotAllowed target.path.text)
    | .field _, .eq => .ok (.isNull target.path)
    | .field _, .ne => .ok (.isNotNull target.path)
    | .field _, op => .error (.nullOperator op.text)
  | .list items, .oneOf => membership catalog options target ignoreCase items
  | .list items, _ => .error ((Literal.list items).mismatch catalog target.type target.path.text)
  | literal, .oneOf => .error (literal.mismatch catalog target.type target.path.text)
  | literal, op =>
    if op.supports target.type then do
      let value ← literal.coerce catalog target.type target.path.text
      .ok (.compare target.operand op (options.bound (foldCase ignoreCase value)) ignoreCase)
    else .error (.unsupportedOperator op.text (target.type.text catalog) target.path.text)

/-- Compiles a comparison. -/
def compileComparison (schema : Schema) (left : Subject) (op : Operator) (ignoreCase : Bool)
    (right : Literal) : Except SchemaError Predicate := do
  let target ← left.target catalog schema
  if ignoreCase && target.type != .string then
    .error (.caseInsensitiveNonString target.path.text (target.type.text catalog))
  else
    let predicate ← bareComparison catalog options target op ignoreCase right
    .ok (options.guard target.guards predicate)

/-- The schema of a collection's elements, which a quantifier with a body needs. -/
def elementSchema (p : ResolvedPath) (element : FieldType) : Except SchemaError Schema :=
  match element.place? with
  | some place => .ok (catalog.schema place)
  | none => .error (.scalarElements p.text)

/-- The collection of a quantifier, and the type of its elements. -/
def quantifiedSource (schema : Schema) (quantifier : Quantifier) (source : Path) :
    Except SchemaError (ResolvedPath × FieldType) := do
  let p ← catalog.property schema source
  match p.last.type.element? with
  | some element => .ok (p, element)
  | none => .error (.notACollection p.text quantifier.text)

/-- The test that a quantifier stands for. -/
def quantifierTest (quantifier : Quantifier) (p : ResolvedPath) (body : Option Predicate) :
    Except SchemaError Predicate :=
  let guards := p.nullableRecords ++ (if p.last.nullable then [p.path] else [])
  match quantifier, body with
  | .any, none => .ok (options.guard guards (.nonempty p.path))
  | .any, some inner => .ok (options.guard guards (.any p.path inner))
  | .all, some inner =>
    let test := Predicate.all p.path inner
    if options.nullGuards then .ok (.disjunction (guards.map .isNull ++ [test])) else .ok test
  | .all, none => .error (.scalarElements p.text)

mutual

/-- Compiles a filter for the records of a schema. -/
def compile (schema : Schema) : Node → Except SchemaError Predicate
  | .logical connective terms => do
    let terms ← compileAll schema terms
    match connective with
    | .and => .ok (.conjunction terms)
    | .or => .ok (.disjunction terms)
  | .not inner => do
    let inner ← compile schema inner
    .ok inner.negate
  | .comparison left op ignoreCase right =>
    compileComparison catalog options schema left op ignoreCase right
  | .quantified quantifier source none => do
    let (p, _) ← quantifiedSource catalog schema quantifier source
    quantifierTest options quantifier p none
  | .quantified quantifier source (some body) => do
    let (p, element) ← quantifiedSource catalog schema quantifier source
    let inner ← compile (← elementSchema catalog p element) body
    quantifierTest options quantifier p (some inner)

/-- Compiles terms in their order. -/
def compileAll (schema : Schema) : List Node → Except SchemaError (List Predicate)
  | [] => .ok []
  | term :: terms => do
    let predicate ← compile schema term
    let predicates ← compileAll schema terms
    .ok (predicate :: predicates)

end

end Compile

/-- Why a text gives no predicate. -/
inductive FilterError where
  | parse (error : ParseError)
  | schema (error : SchemaError)
deriving DecidableEq, Inhabited

/-- Reads a filter and compiles it for the records of a catalog. -/
def compileText (catalog : Catalog) (options : CompileOptions) (text : String) :
    Except FilterError Predicate :=
  match parse text with
  | .error e => .error (.parse e)
  | .ok node =>
    match compile catalog options catalog.root node with
    | .error e => .error (.schema e)
    | .ok predicate => .ok predicate

end RecordQuery.Filter
