import RecordQuery.Proofs.Filter.Correctness
import RecordQuery.Proofs.Ordering.Seek
import RecordQuery.Proofs.Predicate.NormalForm

/-!
# `Proofs.Filter.CompiledForm` — what filters and seeks are compiled to

Every predicate that stands for a filter or for a seek comes from the builders, and so it is in
normal form. Providers that translate predicates meet no other ones, and a filter that is negated
twice is the filter itself.

## Contents
- `Seek.isNormal_predicate`: seeks.
- `isNormal_bareComparison`, `isNormal_quantifierTest`: the parts of a filter that are no chain.
- `isNormal_compile`: compiled filters, by induction on the tree.
- `compile_not_not`: compiling a filter that is negated twice.
- `normal_form_and_double_negation`: **all of it.**
-/

namespace RecordQuery

open Predicate (isNormal_isNotNull isNormal_connect_map)

/-! ## Seeks -/

namespace Seek

theorem isNormal_compare (parameter : Bool) (key : ResolvedPath) (op : Operator) (value : Scalar) :
    (compare parameter key op value).IsNormal :=
  (Predicate.IsNormal.compare _ op _ false).connect_behind .and isNormal_isNotNull
    key.nullableRecords

theorem isNormal_isNull (key : ResolvedPath) : (isNull key).IsNormal := by
  unfold isNull
  split
  · exact isNormal_connect_map .or .isNull (nullSources key)
  · exact .const false

theorem isNormal_isNotNull (key : ResolvedPath) : (isNotNull key).IsNormal := by
  unfold isNotNull
  split
  · exact isNormal_connect_map .and Predicate.isNormal_isNotNull (nullSources key)
  · exact .const true

theorem isNormal_equal (parameter : Bool) (key : ResolvedPath) (value : Scalar) :
    (equal parameter key value).IsNormal := by
  unfold equal
  split
  · exact isNormal_isNull key
  · exact isNormal_compare parameter key .eq value

theorem isNormal_after (parameter : Bool) (key : SortKey) (value : Scalar) :
    (after parameter key value).IsNormal := by
  unfold after
  split
  · exact isNormal_isNotNull key.path
  · exact isNormal_compare parameter key.path .gt value
  · exact .const false
  · refine .connect .or (List.forall_mem_cons.mpr ⟨?_, List.forall_mem_singleton.mpr ?_⟩)
    · exact isNormal_compare parameter key.path .lt value
    · exact isNormal_isNull key.path

/-- One step for each key: the ties of the keys before it grow along the list. -/
theorem isNormal_steps (parameter : Bool) {ties : List Predicate}
    (hties : ∀ tie ∈ ties, tie.IsNormal) (pairs : List (SortKey × Scalar)) :
    ∀ step ∈ steps parameter ties pairs, step.IsNormal := by
  induction pairs generalizing ties with
  | nil => exact fun step hstep => absurd hstep List.not_mem_nil
  | cons pair pairs ih =>
      obtain ⟨key, value⟩ := pair
      have hsnoc {last : Predicate} (hlast : last.IsNormal) :
          ∀ term ∈ ties ++ [last], term.IsNormal :=
        List.forall_mem_append.mpr ⟨hties, List.forall_mem_singleton.mpr hlast⟩
      refine List.forall_mem_cons.mpr ⟨?_, ?_⟩
      · exact .connect .and (hsnoc (isNormal_after parameter key value))
      · exact ih (hsnoc (isNormal_equal parameter key.path value))

/-- **A seek is in normal form.** -/
theorem isNormal_predicate {keys : SortOrder} {values : List Scalar} {parameter : Bool}
    {p : Predicate} (h : predicate keys values parameter = .ok p) : p.IsNormal := by
  unfold predicate at h
  split at h
  · cases h
    exact .connect .or (isNormal_steps parameter (List.forall_mem_nil _) (keys.zip values))
  · cases h

end Seek

/-! ## Compiled filters -/

namespace Filter

variable {catalog : Catalog} {options : CompileOptions} {schema : Schema}

theorem isNormal_guard (paths : List Path) {p : Predicate} (h : p.IsNormal) :
    (options.guard paths p).IsNormal := by
  unfold CompileOptions.guard
  split
  · exact h
  · exact h.connect_behind .and isNormal_isNotNull paths

/-- A list without values other than null is no list of values any more. -/
theorem isNormal_membership {target : Target} {ignoreCase : Bool} {items : List Literal}
    {p : Predicate} (h : membership catalog options target ignoreCase items = .ok p) :
    p.IsNormal := by
  simp only [membership, bind, Except.bind] at h
  split at h
  · cases h
  rename_i bounds _
  cases h
  refine .connect .or (List.forall_mem_append.mpr ⟨?_, ?_⟩)
  · split
    · exact fun term hterm => absurd hterm List.not_mem_nil
    · rename_i hbounds
      refine List.forall_mem_singleton.mpr (.oneOf _ ?_ ignoreCase)
      rintro rfl
      exact hbounds rfl
  · split
    · split
      · exact List.forall_mem_singleton.mpr (.isNull _)
      · exact fun term hterm => absurd hterm List.not_mem_nil
    · exact fun term hterm => absurd hterm List.not_mem_nil

theorem isNormal_bareComparison {target : Target} {op : Operator} {ignoreCase : Bool}
    {right : Literal} {p : Predicate}
    (h : bareComparison catalog options target op ignoreCase right = .ok p) : p.IsNormal := by
  unfold bareComparison at h
  split at h
  · split at h
    · cases h
    · cases h
      exact .isNull target.path
    · cases h
      exact isNormal_isNotNull target.path
    · cases h
  · exact isNormal_membership h
  · cases h
  · cases h
  · split at h
    · simp only [bind, Except.bind] at h
      split at h <;> cases h
      exact .compare _ _ _ _
    · cases h

theorem isNormal_quantifierTest {quantifier : Quantifier} {p : ResolvedPath}
    {body : Option Predicate} {test : Predicate} (hbody : ∀ inner ∈ body, inner.IsNormal)
    (h : quantifierTest options quantifier p body = .ok test) : test.IsNormal := by
  cases body with
  | none =>
      cases quantifier with
      | any =>
          cases h
          exact isNormal_guard _ (.nonempty p.path)
      | all => cases h
  | some inner =>
      have hinner := hbody inner rfl
      cases quantifier with
      | any =>
          cases h
          exact isNormal_guard _ (.any p.path hinner)
      | all =>
          have hall : (Predicate.all p.path inner).IsNormal := .all p.path hinner
          simp only [quantifierTest] at h
          split at h
          · cases h
            exact hall.connect_behind .or .isNull _
          · cases h
            exact hall

mutual

/-- **A compiled filter is in normal form.** By induction on the filter, for every schema: the body
of a quantifier is compiled for the schema of the elements. -/
theorem isNormal_compile {schema : Schema} (node : Node) {p : Predicate}
    (h : compile catalog options schema node = .ok p) : p.IsNormal := by
  match node with
  | .logical connective terms =>
      obtain ⟨predicates, hterms, rfl⟩ := compile_logical h
      exact .connect connective (isNormal_compileAll terms hterms)
  | .not inner =>
      obtain ⟨q, hq, rfl⟩ := compile_not h
      exact (isNormal_compile inner hq).negate
  | .comparison left op ignoreCase right =>
      obtain ⟨target, bare, -, -, hbare, rfl⟩ := compileComparison_ok h
      exact isNormal_guard target.guards (isNormal_bareComparison hbare)
  | .quantified quantifier source none =>
      simp only [compile, bind, Except.bind] at h
      split at h
      · cases h
      · exact isNormal_quantifierTest (fun _ hinner => by cases hinner) h
  | .quantified quantifier source (some body) =>
      obtain ⟨resolved, element, inner, q, -, -, hq, htest⟩ := compile_quantified h
      refine isNormal_quantifierTest ?_ htest
      rintro _ ⟨⟩
      exact isNormal_compile body hq

theorem isNormal_compileAll {schema : Schema} (terms : List Node) {predicates : List Predicate}
    (h : compileAll catalog options schema terms = .ok predicates) :
    ∀ p ∈ predicates, p.IsNormal := by
  match terms with
  | [] =>
      cases h
      exact fun p hp => absurd hp List.not_mem_nil
  | term :: terms =>
      obtain ⟨p, rest, hp, hrest, rfl⟩ := compileAll_cons h
      exact List.forall_mem_cons.mpr ⟨isNormal_compile term hp, isNormal_compileAll terms hrest⟩

end

/-! ## Double negation -/

theorem compile_not_eq (node : Node) :
    compile catalog options schema (.not node) =
      (compile catalog options schema node).map Predicate.negate := by
  rw [compile]
  cases compile catalog options schema node <;> rfl

/-- **A filter that is negated twice compiles like the filter**, to the same predicate or to the
same error. -/
theorem compile_not_not (node : Node) :
    compile catalog options schema (.not (.not node)) = compile catalog options schema node := by
  rw [compile_not_eq, compile_not_eq]
  cases h : compile catalog options schema node with
  | error e => rfl
  | ok p => exact congrArg Except.ok (isNormal_compile node h).negate_negate

/-- **Compiled filters and seeks are in normal form**, so that a negation of one of them is taken
back by another one; and a filter negated twice compiles to what the filter compiles to. -/
theorem normal_form_and_double_negation :
    (∀ (catalog : Catalog) (options : CompileOptions) (schema : Schema) (node : Node)
      (p : Predicate), compile catalog options schema node = .ok p →
      p.IsNormal ∧ p.negate.negate = p) ∧
    (∀ (keys : SortOrder) (values : List Scalar) (parameter : Bool) (p : Predicate),
      Seek.predicate keys values parameter = .ok p → p.IsNormal ∧ p.negate.negate = p) ∧
    ∀ (catalog : Catalog) (options : CompileOptions) (schema : Schema) (node : Node),
      compile catalog options schema (.not (.not node)) = compile catalog options schema node := by
  refine ⟨?_, ?_, fun catalog options schema node => compile_not_not node⟩
  · intro catalog options schema node p hcompile
    have hnormal := isNormal_compile node hcompile
    exact ⟨hnormal, hnormal.negate_negate⟩
  · intro keys values parameter p hseek
    have hnormal := Seek.isNormal_predicate hseek
    exact ⟨hnormal, hnormal.negate_negate⟩

theorem normal_form_and_double_negation_homeless :
    (∃ p, compile people {} people.root homeless = .ok p ∧ p.IsNormal ∧ p.negate.negate = p) ∧
    (∃ p, Seek.predicate Seek.byCity [.null, .number (.int 5)] true = .ok p ∧ p.IsNormal ∧
      p.negate.negate = p) ∧
    compile people {} people.root (.not (.not homeless)) =
      compile people {} people.root homeless := by
  refine ⟨⟨_, rfl, ?_⟩, ⟨_, rfl, ?_⟩, ?_⟩
  · exact normal_form_and_double_negation.1 people {} people.root homeless _ rfl
  · exact normal_form_and_double_negation.2.1 Seek.byCity [.null, .number (.int 5)] true _ rfl
  · exact normal_form_and_double_negation.2.2 people {} people.root homeless

end Filter
end RecordQuery
