import RecordQuery.Cursor.Token
import RecordQuery.Predicate.Basic

/-!
# `RecordQuery.Ordering.Seek` — the records that come after a cursor

For keys `k₀ … kₙ` and values `v₀ … vₙ` these are the records with `k₀` after `v₀`, or with `k₀`
equal to `v₀` and `k₁` after `v₁`, and so on. A key behind a record that is null counts as null.
-/

namespace RecordQuery.Seek

/-- Compares a key with a value that is not null; records on the way have to be there. -/
def compare (parameter : Bool) (key : ResolvedPath) (op : Operator) (value : Scalar) : Predicate :=
  .conjunction
    (key.nullableRecords.map Predicate.isNotNull ++
      [.compare (.field key.path) op ⟨value, parameter⟩ false])

/-- The paths that may make a key null. -/
def nullSources (key : ResolvedPath) : List Path := key.nullableRecords ++ [key.path]

def isNull (key : ResolvedPath) : Predicate :=
  if key.nullable then .disjunction ((nullSources key).map .isNull) else .const false

def isNotNull (key : ResolvedPath) : Predicate :=
  if key.nullable then .conjunction ((nullSources key).map Predicate.isNotNull) else .const true

/-- The key is the value. -/
def equal (parameter : Bool) (key : ResolvedPath) (value : Scalar) : Predicate :=
  if value.isNull then isNull key else compare parameter key .eq value

/-- The key comes after the value. -/
def after (parameter : Bool) (key : SortKey) (value : Scalar) : Predicate :=
  match key.direction, value.isNull with
  | .asc, true => isNotNull key.path
  | .asc, false => compare parameter key.path .gt value
  | .desc, true => .const false
  | .desc, false => .disjunction [compare parameter key.path .lt value, isNull key.path]

/-- For each key: it comes after its value, and the keys before it are their values. `ties` says the
latter of the keys before the list. -/
def steps (parameter : Bool) (ties : List Predicate) : List (SortKey × Scalar) → List Predicate
  | [] => []
  | (key, value) :: rest =>
    .conjunction (ties ++ [after parameter key value]) ::
      steps parameter (ties ++ [equal parameter key.path value]) rest

/-- The records that come after the values of a cursor. -/
def predicate (keys : SortOrder) (values : List Scalar) (parameter : Bool) :
    Except CursorError Predicate :=
  if keys.length = values.length then .ok (.disjunction (steps parameter [] (keys.zip values)))
  else .error (.arity keys.length values.length)

end RecordQuery.Seek
