import RecordQuery.Predicate.Basic
import RecordQuery.Text.LowerCase
import RecordQuery.Text.Search
import RecordQuery.Value.Read

/-!
# `RecordQuery.Predicate.Evaluate` — testing a record

Terms and elements are tested from left to right, and the first that decides, or that cannot be
tested, ends the test.
-/

namespace RecordQuery

/-- Compares two texts. -/
def Operator.holdsOfTexts (op : Operator) (a b : String) : Bool :=
  match op with
  | .contains => Text.containsRun b.toList a.toList
  | .startsWith => b.toList.isPrefixOf a.toList
  | .endsWith => b.toList.isSuffixOf a.toList
  | .oneOf => a == b
  | op => op.holds (compare a b)

/-- Whether a value meets a comparison with a scalar. Null is only ever unequal, two texts may be
compared without regard to case, and what does not compare is unequal. -/
def Operator.holdsOf (op : Operator) (actual : Value) (expected : Scalar) (ignoreCase : Bool) :
    Bool :=
  match actual, expected with
  | .scalar .null, _ => op == .ne
  | .scalar (.string a), .string b =>
    if ignoreCase then op.holdsOfTexts (Text.lower a) (Text.lower b) else op.holdsOfTexts a b
  | actual, expected =>
    if op.isRelational then
      match actual.compare? (.scalar expected) with
      | some order => op.holds order
      | none => op == .ne
    else false

/-- The elements of a collection. -/
def Path.readList (path : Path) (record : Record) : Except EvalError (List Value) :=
  match path.read record with
  | .error e => .error e
  | .ok (.list items) => .ok items
  | .ok (.scalar .null) => .error (.nullReference path.text)
  | .ok other => .error (.shape path.text "list" other.kind)

/-- What an operand is on a record. -/
def Operand.read (operand : Operand) (record : Record) : Except EvalError Value :=
  match operand with
  | .field path => path.read record
  | .count path =>
    (path.readList record).map fun items => .scalar (.number (.uint (.ofNat items.length)))

/-- An element of a collection as a record. -/
def Path.elementRecord (path : Path) : Value → Except EvalError Record
  | .record fields => .ok fields
  | other => .error (.shape path.text "record element" other.kind)

namespace Predicate

/-- Whether some element passes a test. -/
def someElement (test : Record → Except EvalError Bool) (path : Path) :
    List Value → Except EvalError Bool
  | [] => .ok false
  | item :: items => do
    if ← test (← path.elementRecord item) then .ok true else someElement test path items

/-- Whether every element passes a test. -/
def everyElement (test : Record → Except EvalError Bool) (path : Path) :
    List Value → Except EvalError Bool
  | [] => .ok true
  | item :: items => do
    if ← test (← path.elementRecord item) then everyElement test path items else .ok false

mutual

/-- Whether a record meets a predicate. -/
def evaluate : Predicate → Record → Except EvalError Bool
  | .const b, _ => .ok b
  | .and terms, record => evaluateAll terms record
  | .or terms, record => evaluateAny terms record
  | .not inner, record => (inner.evaluate record).map (!·)
  | .isNull path, record => (path.read record).map Value.isNull
  | .compare operand op bound ignoreCase, record =>
    (operand.read record).map fun actual => op.holdsOf actual bound.value ignoreCase
  | .oneOf operand bounds ignoreCase, record =>
    (operand.read record).map fun actual =>
      !actual.isNull &&
        bounds.any fun bound => Operator.eq.holdsOf actual bound.value ignoreCase
  | .nonempty collection, record => (collection.readList record).map (!·.isEmpty)
  | .any collection inner, record => do
    someElement (fun element => inner.evaluate element) collection (← collection.readList record)
  | .all collection inner, record => do
    everyElement (fun element => inner.evaluate element) collection (← collection.readList record)

/-- Whether a record meets every one of the terms. -/
def evaluateAll : List Predicate → Record → Except EvalError Bool
  | [], _ => .ok true
  | term :: terms, record => do
    if ← term.evaluate record then evaluateAll terms record else .ok false

/-- Whether a record meets one of the terms. -/
def evaluateAny : List Predicate → Record → Except EvalError Bool
  | [], _ => .ok false
  | term :: terms, record => do
    if ← term.evaluate record then .ok true else evaluateAny terms record

end
end Predicate
end RecordQuery
