import RecordQuery.Operator
import RecordQuery.Path
import RecordQuery.Value.Text

/-!
# `RecordQuery.Predicate.Basic` — conditions on records

A predicate is plain data: compiled filters and seeks are predicates, and a provider of records may
walk one to put it into a query language of its own. Paths start at the record that is tested or,
inside `any` and `all`, at the element of the collection.

`conjunction`, `disjunction` and `negate` build predicates without redundant layers.
-/

namespace RecordQuery

/-- What a predicate compares: a field, or the number of elements of a collection. -/
inductive Operand where
  | field (path : Path)
  | count (path : Path)
deriving DecidableEq, Inhabited

def Operand.path : Operand → Path
  | field path | count path => path

/-- A value in a predicate; a parameter is one that a provider should pass on its own. -/
structure Bound where
  value : Scalar
  parameter : Bool
deriving DecidableEq, Inhabited

inductive Predicate where
  | const (value : Bool)
  | and (terms : List Predicate)
  | or (terms : List Predicate)
  | not (inner : Predicate)
  | isNull (path : Path)
  | compare (operand : Operand) (op : Operator) (bound : Bound) (ignoreCase : Bool)
  | oneOf (operand : Operand) (bounds : List Bound) (ignoreCase : Bool)
  /-- The collection has an element. -/
  | nonempty (collection : Path)
  | any (collection : Path) (inner : Predicate)
  | all (collection : Path) (inner : Predicate)
deriving Inhabited

namespace Predicate

/-! ## Building predicates -/

/-- The terms of a conjunction, spliced; nothing if one of them is `FALSE`. -/
def conjuncts? : List Predicate → Option (List Predicate)
  | [] => some []
  | .const true :: rest => conjuncts? rest
  | .const false :: _ => none
  | .and terms :: rest => (conjuncts? rest).map (terms ++ ·)
  | term :: rest => (conjuncts? rest).map (term :: ·)

/-- The terms of a disjunction, spliced; nothing if one of them is `TRUE`. -/
def disjuncts? : List Predicate → Option (List Predicate)
  | [] => some []
  | .const false :: rest => disjuncts? rest
  | .const true :: _ => none
  | .or terms :: rest => (disjuncts? rest).map (terms ++ ·)
  | term :: rest => (disjuncts? rest).map (term :: ·)

/-- All of the terms. Constants go, conjunctions among the terms are spliced in, and a single term
stands for itself. -/
def conjunction (terms : List Predicate) : Predicate :=
  match conjuncts? terms with
  | none => .const false
  | some [] => .const true
  | some [only] => only
  | some flat => .and flat

/-- One of the terms. Constants go, disjunctions among the terms are spliced in, and a single term
stands for itself. -/
def disjunction (terms : List Predicate) : Predicate :=
  match disjuncts? terms with
  | none => .const true
  | some [] => .const false
  | some [only] => only
  | some flat => .or flat

/-- The opposite; a negation loses its `not`. -/
def negate : Predicate → Predicate
  | .not inner => inner
  | .const b => .const !b
  | other => .not other

def isNotNull (path : Path) : Predicate := (isNull path).negate

/-- Compares a field with a constant. -/
def compareField (path : Path) (op : Operator) (value : Scalar) : Predicate :=
  .compare (.field path) op ⟨value, false⟩ false

/-! ## Text -/

end Predicate

def Operand.text : Operand → String
  | field path => path.text
  | count path => "COUNT(" ++ path.text ++ ")"

/-- An operand, in lower case if case is ignored. -/
def Operand.casedText (operand : Operand) (ignoreCase : Bool) : String :=
  if ignoreCase then "LOWER(" ++ operand.text ++ ")" else operand.text

def Bound.text (bound : Bound) : String :=
  if bound.parameter then "param(" ++ bound.value.text ++ ")" else bound.value.text

namespace Predicate

mutual

/-- A predicate in the notation that the messages and tests of providers use. -/
def text : Predicate → String
  | .const true => "TRUE"
  | .const false => "FALSE"
  | .and terms => "(" ++ String.intercalate " AND " (texts terms) ++ ")"
  | .or terms => "(" ++ String.intercalate " OR " (texts terms) ++ ")"
  | .not (.isNull path) => path.text ++ " IS NOT NULL"
  | .not inner => "NOT " ++ inner.text
  | .isNull path => path.text ++ " IS NULL"
  | .compare operand op bound ignoreCase =>
    operand.casedText ignoreCase ++ " " ++ op.symbol ++ " " ++ bound.text
  | .oneOf operand bounds ignoreCase =>
    operand.casedText ignoreCase ++ " IN (" ++
      String.intercalate ", " (bounds.map Bound.text) ++ ")"
  | .nonempty collection => "EXISTS(" ++ collection.text ++ ")"
  | .any collection inner => "ANY(" ++ collection.text ++ " WHERE " ++ inner.text ++ ")"
  | .all collection inner => "ALL(" ++ collection.text ++ " WHERE " ++ inner.text ++ ")"

def texts : List Predicate → List String
  | [] => []
  | term :: terms => term.text :: texts terms

end

/-! ## Equality -/

mutual

/-- Whether two predicates are built alike, with equal values. -/
def same : Predicate → Predicate → Bool
  | .const a, .const b => a == b
  | .and as, .and bs => sameAll as bs
  | .or as, .or bs => sameAll as bs
  | .not a, .not b => a.same b
  | .isNull a, .isNull b => a == b
  | .compare o op v c, .compare o' op' v' c' =>
    o == o' && op == op' && v.value.same v'.value && v.parameter == v'.parameter && c == c'
  | .oneOf o vs c, .oneOf o' vs' c' => o == o' && sameBounds vs vs' && c == c'
  | .nonempty a, .nonempty b => a == b
  | .any p a, .any q b => p == q && a.same b
  | .all p a, .all q b => p == q && a.same b
  | _, _ => false

def sameAll : List Predicate → List Predicate → Bool
  | [], [] => true
  | a :: as, b :: bs => a.same b && sameAll as bs
  | _, _ => false

def sameBounds : List Bound → List Bound → Bool
  | [], [] => true
  | a :: as, b :: bs => a.value.same b.value && a.parameter == b.parameter && sameBounds as bs
  | _, _ => false

end
end Predicate
end RecordQuery
