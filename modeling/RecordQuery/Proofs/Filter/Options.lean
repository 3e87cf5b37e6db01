import Mathlib.Data.List.Forall2
import RecordQuery.Page.Paginator
import RecordQuery.Proofs.Filter.CompiledForm
import RecordQuery.Proofs.Predicate.Parameters
import RecordQuery.Proofs.Query.MemoryQuery

/-!
# `Proofs.Filter.Options` — settings change only what they are for

A filter is compiled under two settings side by side. Nothing that is checked depends on a setting,
so both end with the same error or both succeed; and a relation between predicates that compiling
keeps to holds of what comes out. One induction serves for two relations: the one that always holds
gives the verdicts, the one between a predicate and its parameterized form the predicates.

## Contents
- `Alike`: two results with the same error, or related ones.
- `Respected`: a relation between predicates that compiling keeps to.
- `compile_alike`: two settings side by side, by induction on the filter.
- `respected_true`, `respected_parameterized`: the two relations.
- `paginate_parameterized`: pages do not depend on parameters.
- `options_frame`: **all of it.**
-/

namespace RecordQuery

/-! ## Two results -/

section Alike

variable {ε α β γ δ : Type} {R : α → β → Prop} {S : γ → δ → Prop} {a : Except ε α} {b : Except ε β}

/-- Both ended with the same error, or both gave something and the relation holds of the two. -/
def Alike (R : α → β → Prop) : Except ε α → Except ε β → Prop
  | .ok x, .ok y => R x y
  | .error e, .error e' => e = e'
  | _, _ => False

theorem Alike.results (h : Alike R a b) :
    (∃ e, a = .error e ∧ b = .error e) ∨ ∃ x y, a = .ok x ∧ b = .ok y ∧ R x y := by
  cases a with
  | error e =>
      cases b with
      | error e' =>
          cases h
          exact Or.inl ⟨e, rfl, rfl⟩
      | ok y => exact h.elim
  | ok x =>
      cases b with
      | error e' => exact h.elim
      | ok y => exact Or.inr ⟨x, y, rfl, rfl, h⟩

theorem Alike.bind {f : α → Except ε γ} {g : β → Except ε δ} (h : Alike R a b)
    (hfg : ∀ x y, R x y → Alike S (f x) (g y)) : Alike S (a.bind f) (b.bind g) := by
  rcases h.results with ⟨e, rfl, rfl⟩ | ⟨x, y, rfl, rfl, hxy⟩
  · rfl
  · exact hfg x y hxy

theorem Alike.map {f : α → γ} {g : β → δ} (h : Alike R a b)
    (hfg : ∀ x y, R x y → S (f x) (g y)) : Alike S (a.map f) (b.map g) := by
  rcases h.results with ⟨e, rfl, rfl⟩ | ⟨x, y, rfl, rfl, hxy⟩
  · rfl
  · exact hfg x y hxy

theorem Alike.map_right {S : α → δ → Prop} {g : β → δ} (h : Alike R a b)
    (hg : ∀ x y, R x y → S x (g y)) : Alike S a (b.map g) := by
  have hmap : Alike S (a.map id) (b.map g) := h.map hg
  cases a <;> exact hmap

/-- Results that are alike succeed or fail together, and fail with the same error. -/
theorem Alike.verdict (h : Alike R a b) :
    ((∃ x, a = .ok x) ↔ ∃ y, b = .ok y) ∧ ∀ e, a = .error e ↔ b = .error e := by
  rcases h.results with ⟨e, rfl, rfl⟩ | ⟨x, y, rfl, rfl, -⟩
  · simp
  · simp

theorem Alike.eq_map {f : α → β} (h : Alike (fun x y => y = f x) a b) : b = a.map f := by
  rcases h.results with ⟨e, rfl, rfl⟩ | ⟨x, y, rfl, rfl, rfl⟩
  · rfl
  · rfl

end Alike

namespace Filter

variable {catalog : Catalog} {options other : CompileOptions} {R : Predicate → Predicate → Prop}

/-! ## Two settings side by side -/

/-- A relation between predicates that holds of the same test under two settings and that is kept by
whatever compiling builds of tests. -/
structure Respected (options other : CompileOptions) (R : Predicate → Predicate → Prop) : Prop where
  isNull : ∀ path, R (.isNull path) (.isNull path)
  nonempty : ∀ collection, R (.nonempty collection) (.nonempty collection)
  compare : ∀ operand op value ignoreCase,
    R (.compare operand op (options.bound value) ignoreCase)
      (.compare operand op (other.bound value) ignoreCase)
  oneOf : ∀ operand (values : List Scalar) ignoreCase,
    R (.oneOf operand (values.map options.bound) ignoreCase)
      (.oneOf operand (values.map other.bound) ignoreCase)
  any : ∀ collection {p q : Predicate}, R p q → R (.any collection p) (.any collection q)
  all : ∀ collection {p q : Predicate}, R p q → R (.all collection p) (.all collection q)
  negate : ∀ {p q : Predicate}, R p q → R p.negate q.negate
  connect : ∀ connective {ps qs : List Predicate}, List.Forall₂ R ps qs →
    R (.connect connective ps) (.connect connective qs)
  guard : ∀ (paths : List Path) {p q : Predicate}, R p q →
    R (options.guard paths p) (other.guard paths q)
  /-- The null tests that `all` is excused by. -/
  excuse : ∀ (paths : List Path) {p q : Predicate}, R p q →
    R (if options.nullGuards then .disjunction (paths.map .isNull ++ [p]) else p)
      (if other.nullGuards then .disjunction (paths.map .isNull ++ [q]) else q)

theorem listBounds_value {type : FieldType} {ignoreCase : Bool} {path : String} {item : Literal}
    {items : List Literal} (hnull : item ≠ .null) :
    listBounds catalog options type ignoreCase path (item :: items) =
      (item.coerce catalog type path).bind fun value =>
        (listBounds catalog options type ignoreCase path items).map
          (options.bound (foldCase ignoreCase value) :: ·) := by
  have hcons : listBounds catalog options type ignoreCase path (item :: items) =
      (item.coerce catalog type path).bind fun value =>
        (listBounds catalog options type ignoreCase path items).bind fun bounds =>
          .ok (options.bound (foldCase ignoreCase value) :: bounds) := by
    cases item with
    | null => exact absurd rfl hnull
    | _ => rfl
  rw [hcons]
  cases listBounds catalog options type ignoreCase path items <;> rfl

/-- The values of a list are the same, whatever becomes of them. -/
theorem listBounds_alike (type : FieldType) (ignoreCase : Bool) (path : String)
    (items : List Literal) :
    Alike (fun bounds bounds' => ∃ values : List Scalar,
        bounds = values.map options.bound ∧ bounds' = values.map other.bound)
      (listBounds catalog options type ignoreCase path items)
      (listBounds catalog other type ignoreCase path items) := by
  induction items with
  | nil => exact ⟨[], rfl, rfl⟩
  | cons item items ih =>
      by_cases hnull : item = .null
      · subst hnull
        exact ih
      · rw [listBounds_value hnull, listBounds_value hnull]
        cases item.coerce catalog type path with
        | error e => rfl
        | ok value =>
            apply Alike.map ih
            rintro _ _ ⟨values, rfl, rfl⟩
            exact ⟨foldCase ignoreCase value :: values, rfl, rfl⟩

theorem membership_alike (h : Respected options other R) (target : Target) (ignoreCase : Bool)
    (items : List Literal) :
    Alike R (membership catalog options target ignoreCase items)
      (membership catalog other target ignoreCase items) := by
  apply Alike.bind (listBounds_alike target.type ignoreCase target.path.text items)
  rintro _ _ ⟨values, rfl, rfl⟩
  apply h.connect .or
  apply List.rel_append
  · cases values with
    | nil => exact .nil
    | cons value values => exact .cons (h.oneOf target.operand (value :: values) ignoreCase) .nil
  · cases target.operand with
    | count path => exact .nil
    | field path =>
        dsimp only
        split
        · exact .cons (h.isNull path) .nil
        · exact .nil

theorem bareComparison_alike (h : Respected options other R) (target : Target) (op : Operator)
    (ignoreCase : Bool) (right : Literal) :
    Alike R (bareComparison catalog options target op ignoreCase right)
      (bareComparison catalog other target op ignoreCase right) := by
  unfold bareComparison
  split
  · split
    · rfl
    · exact h.isNull target.path
    · exact h.negate (h.isNull target.path)
    · rfl
  · exact membership_alike h target ignoreCase _
  · rfl
  · rfl
  · split
    · cases right.coerce catalog target.type target.path.text with
      | error e => rfl
      | ok value => exact h.compare target.operand op (foldCase ignoreCase value) ignoreCase
    · rfl

theorem compileComparison_alike (h : Respected options other R) (schema : Schema) (left : Subject)
    (op : Operator) (ignoreCase : Bool) (right : Literal) :
    Alike R (compileComparison catalog options schema left op ignoreCase right)
      (compileComparison catalog other schema left op ignoreCase right) := by
  unfold compileComparison
  cases left.target catalog schema with
  | error e => rfl
  | ok target =>
      simp only [bind, Except.bind]
      split
      · rfl
      · apply Alike.bind (bareComparison_alike h target op ignoreCase right)
        intro p q hpq
        exact h.guard target.guards hpq

/-- The test of a quantifier that has a body. -/
theorem quantifierTest_alike (h : Respected options other R) (quantifier : Quantifier)
    (resolved : ResolvedPath) {p q : Predicate} (hpq : R p q) :
    Alike R (quantifierTest options quantifier resolved (some p))
      (quantifierTest other quantifier resolved (some q)) := by
  cases quantifier with
  | any => exact h.guard _ (h.any resolved.path hpq)
  | all =>
      simp only [quantifierTest, ← apply_ite Except.ok]
      exact h.excuse (collectionGuards resolved) (h.all resolved.path hpq)

mutual

/-- **Two settings side by side.** By induction on the filter, for every schema. -/
theorem compile_alike (h : Respected options other R) (schema : Schema) (node : Node) :
    Alike R (compile catalog options schema node) (compile catalog other schema node) := by
  match node with
  | .logical connective terms =>
      rw [compile_logical_eq, compile_logical_eq]
      apply Alike.map (compileAll_alike h schema terms)
      intro ps qs hterms
      exact h.connect connective hterms
  | .not inner =>
      rw [compile_not_eq, compile_not_eq]
      apply Alike.map (compile_alike h schema inner)
      intro p q hpq
      exact h.negate hpq
  | .comparison left op ignoreCase right =>
      rw [compile, compile]
      exact compileComparison_alike h schema left op ignoreCase right
  | .quantified quantifier source none =>
      rw [compile, compile]
      cases quantifiedSource catalog schema quantifier source with
      | error e => rfl
      | ok found =>
          cases quantifier with
          | any => exact h.guard _ (h.nonempty found.1.path)
          | all => rfl
  | .quantified quantifier source (some body) =>
      rw [compile, compile]
      cases quantifiedSource catalog schema quantifier source with
      | error e => rfl
      | ok found =>
          simp only [bind, Except.bind]
          cases elementSchema catalog found.1 found.2 with
          | error e => rfl
          | ok elements =>
              apply Alike.bind (compile_alike h elements body)
              intro p q hpq
              exact quantifierTest_alike h quantifier found.1 hpq

theorem compileAll_alike (h : Respected options other R) (schema : Schema) (terms : List Node) :
    Alike (List.Forall₂ R) (compileAll catalog options schema terms)
      (compileAll catalog other schema terms) := by
  match terms with
  | [] =>
      rw [compileAll, compileAll]
      exact .nil
  | term :: terms =>
      rw [compileAll, compileAll]
      apply Alike.bind (compile_alike h schema term)
      intro p q hpq
      apply Alike.bind (compileAll_alike h schema terms)
      intro ps qs hterms
      exact .cons hpq hterms

end

/-! ## The two relations -/

theorem respected_true : Respected options other fun _ _ => True := by
  constructor <;> intros <;> trivial

/-- A predicate is marked with what it is made of. -/
theorem respected_parameterized (guards : Bool) :
    Respected ⟨guards, false⟩ ⟨guards, true⟩ fun p q => q = p.parameterized where
  isNull _ := rfl
  nonempty _ := rfl
  compare _ _ _ _ := rfl
  oneOf operand values ignoreCase := by
    simp only [Predicate.parameterized, List.map_map]
    rfl
  any _ _ _ h := by rw [h, Predicate.parameterized]
  all _ _ _ h := by rw [h, Predicate.parameterized]
  negate h := by rw [h, Predicate.parameterized_negate]
  connect connective ps qs h := by
    have hterms : qs = ps.map .parameterized := by
      induction h with
      | nil => rfl
      | cons hterm _ ih => rw [hterm, ih, List.map_cons]
    rw [hterms, Predicate.parameterized_connect]
  guard paths p q h := by
    subst h
    unfold CompileOptions.guard
    split
    · rfl
    · exact (Predicate.parameterized_connect_behind .and Predicate.parameterized_isNotNull paths
        p).symm
  excuse paths p q h := by
    subst h
    dsimp only
    split
    · exact (Predicate.parameterized_connect_behind .or Predicate.parameterized_isNull paths
        p).symm
    · rfl

/-- **Compiling with parameters marks what compiling without them gives.** -/
theorem compile_parameterized (guards : Bool) (schema : Schema) (node : Node) :
    compile catalog ⟨guards, true⟩ schema node =
      (compile catalog ⟨guards, false⟩ schema node).map .parameterized :=
  (compile_alike (respected_parameterized guards) schema node).eq_map

end Filter

/-! ## Pages -/

namespace Paginator

variable {α : Type} {catalog : Catalog}

/-- The records past a cursor are the same ones, or the cursor is refused for the same reason. -/
theorem pastCursor_alike (limits : PageLimits) (state : PageState) (effective : SortOrder)
    (query : MemoryQuery α) :
    Alike (fun past past' => ∀ count, (past.take count).run = (past'.take count).run)
      ((⟨limits, true⟩ : Paginator).pastCursor catalog state effective query)
      ((⟨limits, false⟩ : Paginator).pastCursor catalog state effective query) := by
  unfold pastCursor
  cases state.position.cursor? with
  | none => exact fun _ => rfl
  | some token =>
      dsimp only [bind, Except.bind]
      cases Cursor.decode catalog token state.ordering.keyTypes with
      | error e => rfl
      | ok values =>
          simp only [Seek.predicate_parameterized]
          cases Seek.predicate effective values false with
          | error e => rfl
          | ok seek => exact MemoryQuery.run_filter_congr (Predicate.evaluate_parameterized seek)

/-- The queries for a page give the same items, or there is neither. -/
theorem prepare_alike (limits : PageLimits) (source : MemoryQuery α) (state : PageState)
    (size : Nat) :
    Alike (fun query query' => query.run = query'.run)
      ((⟨limits, true⟩ : Paginator).prepare catalog source state size)
      ((⟨limits, false⟩ : Paginator).prepare catalog source state size) := by
  have hsize : (⟨limits, true⟩ : Paginator).checkSize size =
      (⟨limits, false⟩ : Paginator).checkSize size := rfl
  unfold prepare
  rw [hsize]
  cases (⟨limits, false⟩ : Paginator).checkSize size with
  | error e => rfl
  | ok _ =>
      dsimp only [bind, Except.bind]
      generalize (if state.position.isBackward then state.ordering.reversed else state.ordering) =
        effective
      cases source.orderByAll? effective with
      | none => rfl
      | some query =>
          dsimp only
          rcases (@pastCursor_alike α catalog limits state effective query).results with
            ⟨e, hpast, hpast'⟩ | ⟨past, past', hpast, hpast', hrun⟩
          · rw [hpast, hpast']
            rfl
          · rw [hpast, hpast']
            exact hrun _

/-- **Pages do not depend on whether the values of cursors are parameters.** -/
theorem paginate_parameterized (limits : PageLimits) (source : MemoryQuery α) (state : PageState)
    (size : Nat) :
    (⟨limits, true⟩ : Paginator).paginate catalog source state size runQuery =
      (⟨limits, false⟩ : Paginator).paginate catalog source state size runQuery := by
  have hprepare := @prepare_alike α catalog limits source state size
  unfold paginate
  rcases hprepare.results with ⟨e, hquery, hquery'⟩ | ⟨query, query', hquery, hquery', hrun⟩
  · rw [hquery, hquery']
  · rw [hquery, hquery']
    simp only [bind, Except.bind, runQuery, hrun]

end Paginator

/-- **Settings change only what they are for.** Whether a filter compiles, and which error it has if
not, is the same under all settings. Parameters mark every value of a compiled filter and of a seek
and change nothing else; a marked predicate gives the same answer, or the same error, on every
record; and so a paginator with parameters makes the same page of a source, or has the same error,
as one without. -/
theorem options_frame (catalog : Catalog) :
    (∀ (options other : Filter.CompileOptions) (schema : Schema) (node : Filter.Node),
      ((∃ p, Filter.compile catalog options schema node = .ok p) ↔
        ∃ q, Filter.compile catalog other schema node = .ok q) ∧
      ∀ e, Filter.compile catalog options schema node = .error e ↔
        Filter.compile catalog other schema node = .error e) ∧
    (∀ (guards : Bool) (schema : Schema) (node : Filter.Node),
      Filter.compile catalog ⟨guards, true⟩ schema node =
        (Filter.compile catalog ⟨guards, false⟩ schema node).map .parameterized) ∧
    (∀ (keys : SortOrder) (values : List Scalar),
      Seek.predicate keys values true = (Seek.predicate keys values false).map .parameterized) ∧
    (∀ (p : Predicate) (record : Record), p.parameterized.evaluate record = p.evaluate record) ∧
    ∀ {α : Type} (limits : PageLimits) (source : MemoryQuery α) (state : PageState) (size : Nat),
      (⟨limits, true⟩ : Paginator).paginate catalog source state size Paginator.runQuery =
        (⟨limits, false⟩ : Paginator).paginate catalog source state size Paginator.runQuery := by
  refine ⟨?_, ?_, Seek.predicate_parameterized, Predicate.evaluate_parameterized, ?_⟩
  · intro options other schema node
    exact (Filter.compile_alike Filter.respected_true schema node).verdict
  · exact Filter.compile_parameterized
  · exact Paginator.paginate_parameterized

end RecordQuery
