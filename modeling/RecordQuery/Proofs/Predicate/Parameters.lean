import RecordQuery.Ordering.Seek
import RecordQuery.Predicate.Evaluate
import RecordQuery.Proofs.Predicate.NormalForm

/-!
# `Proofs.Predicate.Parameters` — values that are passed as parameters

Whether a value is a parameter is for the provider of the records: no test looks at it, and neither
do the builders of predicates. So the mark can be set before or after a predicate is built, and a
seek with parameters is the seek without them, marked.

## Contents
- `Predicate.parameterized`: every value of a predicate is a parameter.
- `evaluate_parameterized`: tests do not look at the mark.
- `parameterized_connect`, `parameterized_negate`: the builders do not either.
- `Seek.predicate_parameterized`: seeks, by induction on the keys.
-/

namespace RecordQuery

open RecordQuery.Filter (Connective)

/-- The value as a parameter. -/
def Bound.parameterized (bound : Bound) : Bound := { bound with parameter := true }

namespace Predicate

mutual

/-- The predicate with each of its values as a parameter. -/
def parameterized : Predicate → Predicate
  | .const value => .const value
  | .and terms => .and (parameterizedAll terms)
  | .or terms => .or (parameterizedAll terms)
  | .not inner => .not inner.parameterized
  | .isNull path => .isNull path
  | .compare operand op bound ignoreCase => .compare operand op bound.parameterized ignoreCase
  | .oneOf operand bounds ignoreCase => .oneOf operand (bounds.map .parameterized) ignoreCase
  | .nonempty collection => .nonempty collection
  | .any collection inner => .any collection inner.parameterized
  | .all collection inner => .all collection inner.parameterized

def parameterizedAll : List Predicate → List Predicate
  | [] => []
  | term :: terms => term.parameterized :: parameterizedAll terms

end

theorem parameterizedAll_eq_map (terms : List Predicate) :
    parameterizedAll terms = terms.map parameterized := by
  induction terms with
  | nil => rfl
  | cons term terms ih => rw [parameterizedAll, ih, List.map_cons]

/-! ## Evaluation -/

mutual

/-- **A test gives the same whether or not the values are parameters.** By induction on the
predicate; the elements of a collection are tested with the same inner predicate. -/
theorem evaluate_parameterized (p : Predicate) (record : Record) :
    p.parameterized.evaluate record = p.evaluate record := by
  match p with
  | .const value => rfl
  | .and terms => exact evaluate_chain_parameterized .and terms record
  | .or terms => exact evaluate_chain_parameterized .or terms record
  | .not inner => rw [parameterized, evaluate, evaluate, evaluate_parameterized inner]
  | .isNull path => rfl
  | .compare operand op bound ignoreCase => rfl
  | .oneOf operand bounds ignoreCase =>
      simp only [parameterized, evaluate, List.any_map]
      rfl
  | .nonempty collection => rfl
  | .any collection inner =>
      simp only [parameterized, evaluate, fun element => evaluate_parameterized inner element]
  | .all collection inner =>
      simp only [parameterized, evaluate, fun element => evaluate_parameterized inner element]

theorem evaluate_chain_parameterized (connective : Connective) (terms : List Predicate)
    (record : Record) :
    (chain connective (parameterizedAll terms)).evaluate record =
      (chain connective terms).evaluate record := by
  match terms with
  | [] => rfl
  | term :: terms =>
      rw [parameterizedAll, evaluate_chain_cons, evaluate_chain_cons, evaluate_parameterized term,
        evaluate_chain_parameterized connective terms]

end

/-! ## Builders -/

theorem share?_parameterized (connective : Connective) (term : Predicate) :
    share? connective term.parameterized = (share? connective term).map (·.map parameterized) := by
  cases term with
  | const value =>
      simp only [parameterized, share?]
      split
      · rfl
      · rfl
  | and terms =>
      simp only [parameterized, share?, parameterizedAll_eq_map]
      split
      · rfl
      · rw [Option.map_some, List.map_singleton, parameterized, parameterizedAll_eq_map]
  | or terms =>
      simp only [parameterized, share?, parameterizedAll_eq_map]
      split
      · rfl
      · rw [Option.map_some, List.map_singleton, parameterized, parameterizedAll_eq_map]
  | _ => rfl

theorem collect?_parameterized (connective : Connective) (terms : List Predicate) :
    collect? connective (terms.map parameterized) =
      (collect? connective terms).map (·.map parameterized) := by
  induction terms with
  | nil => rfl
  | cons term terms ih =>
      rw [List.map_cons, collect?, collect?, share?_parameterized, ih]
      cases share? connective term with
      | none => rfl
      | some front =>
          cases collect? connective terms with
          | none => rfl
          | some back => exact congrArg some List.map_append.symm

theorem pack_parameterized (connective : Connective) (flat : Option (List Predicate)) :
    pack connective (flat.map (·.map parameterized)) = (pack connective flat).parameterized := by
  match flat with
  | none => rfl
  | some [] => rfl
  | some [only] => rfl
  | some (first :: second :: rest) =>
      have hchain : (chain connective (first :: second :: rest)).parameterized =
          chain connective ((first :: second :: rest).map parameterized) := by
        cases connective with
        | and => exact congrArg Predicate.and (parameterizedAll_eq_map _)
        | or => exact congrArg Predicate.or (parameterizedAll_eq_map _)
      exact hchain.symm

/-- **A connective of marked terms is the marked connective.** -/
theorem parameterized_connect (connective : Connective) (terms : List Predicate) :
    (connect connective terms).parameterized = connect connective (terms.map parameterized) := by
  rw [connect_eq, connect_eq, collect?_parameterized, pack_parameterized]

theorem parameterized_negate (p : Predicate) : p.negate.parameterized = p.parameterized.negate := by
  cases p <;> rfl

/-- Null tests have no values. -/
theorem map_parameterized {test : Path → Predicate}
    (htest : ∀ path, (test path).parameterized = test path) (paths : List Path) :
    (paths.map test).map parameterized = paths.map test := by
  rw [List.map_map]
  exact List.map_congr_left fun path _ => htest path

theorem parameterized_isNull (path : Path) : (isNull path).parameterized = isNull path := rfl

theorem parameterized_isNotNull (path : Path) :
    (isNotNull path).parameterized = isNotNull path := rfl

/-- Behind null tests only the last term is marked. -/
theorem parameterized_connect_behind (connective : Connective) {test : Path → Predicate}
    (htest : ∀ path, (test path).parameterized = test path) (paths : List Path)
    (last : Predicate) :
    (connect connective (paths.map test ++ [last])).parameterized =
      connect connective (paths.map test ++ [last.parameterized]) := by
  rw [parameterized_connect, List.map_append, map_parameterized htest, List.map_singleton]

end Predicate

/-! ## Seeks -/

namespace Seek

open Predicate (parameterized)

theorem compare_parameterized (key : ResolvedPath) (op : Operator) (value : Scalar) :
    compare true key op value = (compare false key op value).parameterized :=
  (Predicate.parameterized_connect_behind .and Predicate.parameterized_isNotNull
    key.nullableRecords (.compare (.field key.path) op ⟨value, false⟩ false)).symm

theorem isNull_parameterized (key : ResolvedPath) : (isNull key).parameterized = isNull key := by
  unfold isNull
  split
  · refine (Predicate.parameterized_connect .or _).trans ?_
    rw [Predicate.map_parameterized Predicate.parameterized_isNull]
    rfl
  · rfl

theorem isNotNull_parameterized (key : ResolvedPath) :
    (isNotNull key).parameterized = isNotNull key := by
  unfold isNotNull
  split
  · refine (Predicate.parameterized_connect .and _).trans ?_
    rw [Predicate.map_parameterized Predicate.parameterized_isNotNull]
    rfl
  · rfl

theorem equal_parameterized (key : ResolvedPath) (value : Scalar) :
    equal true key value = (equal false key value).parameterized := by
  unfold equal
  split
  · exact (isNull_parameterized key).symm
  · exact compare_parameterized key .eq value

theorem after_parameterized (key : SortKey) (value : Scalar) :
    after true key value = (after false key value).parameterized := by
  unfold after
  split
  · exact (isNotNull_parameterized key.path).symm
  · exact compare_parameterized key.path .gt value
  · rfl
  · refine Eq.trans ?_ (Predicate.parameterized_connect .or _).symm
    rw [List.map_cons, List.map_singleton, ← compare_parameterized, isNull_parameterized]
    rfl

/-- One step for each key: the ties of the keys before it grow along the list, marked like it. -/
theorem steps_parameterized (ties : List Predicate) (pairs : List (SortKey × Scalar)) :
    steps true (ties.map parameterized) pairs = (steps false ties pairs).map parameterized := by
  induction pairs generalizing ties with
  | nil => rfl
  | cons pair pairs ih =>
      obtain ⟨key, value⟩ := pair
      have hstep : Predicate.conjunction (ties.map parameterized ++ [after true key value]) =
          (Predicate.conjunction (ties ++ [after false key value])).parameterized := by
        refine Eq.trans ?_ (Predicate.parameterized_connect .and _).symm
        rw [List.map_append, List.map_singleton, ← after_parameterized]
        rfl
      have hties : ties.map parameterized ++ [equal true key.path value] =
          (ties ++ [equal false key.path value]).map parameterized := by
        rw [List.map_append, List.map_singleton, ← equal_parameterized]
      rw [steps, steps, List.map_cons, hstep, hties, ih]

/-- **A seek with parameters is the seek without them, marked.** -/
theorem predicate_parameterized (keys : SortOrder) (values : List Scalar) :
    predicate keys values true = (predicate keys values false).map parameterized := by
  unfold predicate
  split
  · refine congrArg Except.ok (Eq.trans ?_ (Predicate.parameterized_connect .or _).symm)
    rw [← steps_parameterized]
    rfl
  · rfl

end Seek
end RecordQuery
