import RecordQuery.Proofs.Filter.Correctness
import RecordQuery.Proofs.Predicate.Typing

/-!
# `Proofs.Filter.Typing` — the compiler checks exactly the types

A filter is **well typed** for a schema if its names lead to fields, its operators suit them and its
literals stand for values of their types. `Node.WellTyped` says so rule by rule, without an order in
which things are looked at. The compiler accepts just the well-typed filters, and what it makes of
them are well-typed predicates.

## Contents
- `Literal.Fits`, `RightSide`, `Node.WellTyped`: the typing of filters.
- `coerce?_isValueOf`: a literal stands for a value in the very form of the type.
- `target_typed`, `bareComparison_wellTyped`, `compile_wellTyped`: a compiled filter was well
  typed, and so is the predicate.
- `exists_target`, `exists_bareComparison`, `WellTyped.exists_compile`: a well-typed filter compiles.
-/

namespace RecordQuery.Filter

/-! ## Typing -/

/-- What the left side of a comparison is in a predicate. -/
def Subject.operand : Subject → Operand
  | .path names => .field names
  | .count names => .count names

/-- The literal stands for a value of the type. Null and lists stand for none. -/
def Literal.Fits (literal : Literal) (type : FieldType) : Prop :=
  ∃ s, literal.coerce? type = some s

/-- The operator and the right side suit a left side of the type. -/
inductive RightSide (type : FieldType) : Subject → Operator → Literal → Prop
  | null {names : Path} {op : Operator} (h : op = .eq ∨ op = .ne) : RightSide type (.path names) op .null
  | list {left : Subject} {items : List Literal}
      (h : ∀ item ∈ items, item = .null ∨ item.Fits type) :
      RightSide type left .oneOf (.list items)
  | value {left : Subject} {op : Operator} {right : Literal} (binary : op ≠ .oneOf)
      (supports : op.supports type = true) (fits : right.Fits type) : RightSide type left op right

/-- The filter fits the records of the schema. -/
inductive Node.WellTyped (catalog : Catalog) : Schema → Node → Prop
  | logical {schema : Schema} {connective : Connective} {terms : List Node}
      (typed : ∀ term ∈ terms, WellTyped catalog schema term) :
      WellTyped catalog schema (.logical connective terms)
  | not {schema : Schema} {inner : Node} (typed : WellTyped catalog schema inner) :
      WellTyped catalog schema (.not inner)
  | comparison {schema : Schema} {left : Subject} {op : Operator} {ignoreCase : Bool}
      {right : Literal} {type : FieldType} (subject : left.operand.HasType catalog schema type)
      (text : ignoreCase = true → type = .string) (suits : RightSide type left op right) :
      WellTyped catalog schema (.comparison left op ignoreCase right)
  /-- Only `any` does without a body, and its elements may be of any type. -/
  | nonempty {schema : Schema} {source : Path} {field : Field} {element : FieldType}
      (at_end : catalog.fieldAt? schema source = some field) (list : field.type = .list element) :
      WellTyped catalog schema (.quantified .any source none)
  | quantified {schema : Schema} {quantifier : Quantifier} {source : Path} {field : Field}
      {place : Nat} {body : Node} (at_end : catalog.fieldAt? schema source = some field)
      (list : field.type = .list (.record place))
      (typed : WellTyped catalog (catalog.schema place) body) :
      WellTyped catalog schema (.quantified quantifier source (some body))

variable {catalog : Catalog} {options : CompileOptions} {schema : Schema}

/-! ## Literals -/

/-- **What a literal stands for is a value in the very form of the type.** -/
theorem coerce?_isValueOf {literal : Literal} {type : FieldType} {s : Scalar}
    (h : literal.coerce? type = some s) : s.IsValueOf type := by
  unfold Literal.coerce? at h
  split at h
  · -- an integer of either kind is one of that kind
    obtain ⟨n, -, h⟩ := Option.bind_eq_some_iff.mp h
    obtain ⟨m, hm, rfl⟩ := Option.map_eq_some_iff.mp h
    obtain ⟨-, hm⟩ := Option.ite_none_right_eq_some.mp hm
    cases hm
    trivial
  · obtain ⟨n, -, h⟩ := Option.bind_eq_some_iff.mp h
    obtain ⟨m, hm, rfl⟩ := Option.map_eq_some_iff.mp h
    obtain ⟨-, hm⟩ := Option.ite_none_right_eq_some.mp hm
    cases hm
    trivial
  · obtain ⟨x, hx, rfl⟩ := Option.map_eq_some_iff.mp h
    exact (Option.filter_eq_some_iff.mp hx).2
  · cases h
    trivial
  · obtain ⟨t, ht, rfl⟩ := Option.map_eq_some_iff.mp h
    exact Timestamp.read?_isRepresentable ht
  · obtain ⟨u, -, rfl⟩ := Option.map_eq_some_iff.mp h
    trivial
  · obtain ⟨m, hm, rfl⟩ := Option.map_eq_some_iff.mp h
    exact Member.getElem?_of_find? hm
  · cases h
    trivial
  · cases h

theorem isValueOf_foldCase {type : FieldType} {s : Scalar} (ignoreCase : Bool)
    (h : s.IsValueOf type) : (foldCase ignoreCase s).IsValueOf type := by
  cases s with
  | string value =>
      cases ignoreCase
      · exact h
      · cases type <;> first | exact h.elim | trivial
  | _ => exact h

theorem exists_coerce (catalog : Catalog) {literal : Literal} {type : FieldType} (path : String)
    (h : literal.Fits type) : ∃ s, literal.coerce catalog type path = .ok s := by
  obtain ⟨s, hs⟩ := h
  refine ⟨s, ?_⟩
  rw [Literal.coerce, hs]

/-! ## What compiles is well typed -/

/-- The items of a list literal that compiles, and the bounds that they give. -/
theorem listBounds_typed {type : FieldType} {ignoreCase : Bool} {path : String}
    {items : List Literal} {bounds : List Bound}
    (h : listBounds catalog options type ignoreCase path items = .ok bounds) :
    (∀ item ∈ items, item = .null ∨ item.Fits type) ∧
      ∀ bound ∈ bounds, bound.value.IsValueOf type := by
  induction items generalizing bounds with
  | nil =>
      cases h
      simp
  | cons item items ih =>
      by_cases hnull : item = .null
      · subst hnull
        obtain ⟨hitems, hbounds⟩ := ih h
        refine ⟨?_, hbounds⟩
        intro item hi
        rcases List.mem_cons.mp hi with rfl | hi
        · exact Or.inl rfl
        · exact hitems item hi
      · obtain ⟨value, rest, hvalue, hrest, rfl⟩ := listBounds_cons hnull h
        obtain ⟨hitems, hbounds⟩ := ih hrest
        constructor
        · intro item hi
          rcases List.mem_cons.mp hi with rfl | hi
          · exact Or.inr ⟨value, hvalue⟩
          · exact hitems item hi
        · intro bound hb
          rcases List.mem_cons.mp hb with rfl | hb
          · exact isValueOf_foldCase ignoreCase (coerce?_isValueOf hvalue)
          · exact hbounds bound hb

/-- A left side that is found has the type that was found for it, and the records on its way and the
    collection that it counts are fields of the schema. -/
structure Target.Typed (catalog : Catalog) (schema : Schema) (left : Subject) (target : Target) :
    Prop where
  operand : target.operand = left.operand
  path : target.path = left.names
  hasType : left.operand.HasType catalog schema target.type
  guards : ∀ path ∈ target.guards, ∃ field, catalog.fieldAt? schema path = some field

theorem collectionGuards_typed {p : ResolvedPath} (route : catalog.Route schema p.through p.last) :
    ∀ path ∈ collectionGuards p, ∃ field, catalog.fieldAt? schema path = some field := by
  intro path hp
  rcases List.mem_append.mp hp with hp | hp
  · obtain ⟨-, field, hfield, -⟩ := route.fieldAt?_of_mem hp
    exact ⟨field, hfield⟩
  · split at hp
    · rw [List.mem_singleton.mp hp]
      exact ⟨p.last, route.fieldAt?⟩
    · cases hp

theorem target_typed {left : Subject} {target : Target}
    (h : left.target catalog schema = .ok target) : target.Typed catalog schema left := by
  cases left with
  | path names =>
      obtain ⟨p, route, rfl, hscalar, rfl⟩ := target_path h
      refine ⟨rfl, rfl, .field route.fieldAt? hscalar, ?_⟩
      intro path hp
      obtain ⟨-, field, hfield, -⟩ := route.fieldAt?_of_mem hp
      exact ⟨field, hfield⟩
  | count names =>
      obtain ⟨p, element, route, rfl, htype, rfl⟩ := target_count h
      exact ⟨rfl, rfl, .count route.fieldAt? htype, collectionGuards_typed route⟩

theorem isNull_wellTyped {names : Path} {type : FieldType}
    (h : (Operand.field names).HasType catalog schema type) :
    (Predicate.isNull names).WellTyped catalog schema := by
  cases h with
  | field at_end _ => exact .isNull at_end

theorem membership_wellTyped {left : Subject} {target : Target} {ignoreCase : Bool}
    {items : List Literal} {p : Predicate} (ht : target.Typed catalog schema left)
    (text : ignoreCase = true → target.type = .string)
    (h : membership catalog options target ignoreCase items = .ok p) :
    (∀ item ∈ items, item = .null ∨ item.Fits target.type) ∧ p.WellTyped catalog schema := by
  have hleft := ht.hasType
  rw [← ht.operand] at hleft
  simp only [membership, bind, Except.bind] at h
  split at h
  · cases h
  · rename_i bounds hbounds
    cases h
    obtain ⟨hitems, hvalues⟩ := listBounds_typed hbounds
    refine ⟨hitems, .connect .or ?_⟩
    intro term hterm
    rcases List.mem_append.mp hterm with hterm | hterm
    · split at hterm
      · cases hterm
      · rename_i hsome
        rw [List.mem_singleton.mp hterm]
        exact .oneOf hleft (by simpa using hsome) hvalues text
    · -- a null stands for a null field, and the field is there
      split at hterm
      · rename_i path hoperand
        split at hterm
        · rw [List.mem_singleton.mp hterm]
          rw [hoperand] at hleft
          exact isNull_wellTyped hleft
        · cases hterm
      · cases hterm

/-- **A comparison that compiles has a right side that suits the left.** -/
theorem bareComparison_wellTyped {left : Subject} {target : Target} {op : Operator}
    {ignoreCase : Bool} {right : Literal} {p : Predicate} (ht : target.Typed catalog schema left)
    (text : ignoreCase = true → target.type = .string)
    (h : bareComparison catalog options target op ignoreCase right = .ok p) :
    RightSide target.type left op right ∧ p.WellTyped catalog schema := by
  -- a left side that is a field in the predicate was a path
  have hpath {q : Path} (hq : target.operand = .field q) :
      ∃ names, left = .path names ∧ (Predicate.isNull target.path).WellTyped catalog schema := by
    have htype := ht.hasType
    rw [ht.operand] at hq
    rw [ht.path]
    cases left with
    | path names => exact ⟨names, rfl, isNull_wellTyped htype⟩
    | count names => cases hq
  unfold bareComparison at h
  split at h
  · split at h
    · cases h
    · rename_i hq
      cases h
      obtain ⟨names, rfl, typed⟩ := hpath hq
      exact ⟨.null (Or.inl rfl), typed⟩
    · rename_i hq
      cases h
      obtain ⟨names, rfl, typed⟩ := hpath hq
      exact ⟨.null (Or.inr rfl), typed.negate⟩
    · cases h
  · obtain ⟨hitems, typed⟩ := membership_wellTyped ht text h
    exact ⟨.list hitems, typed⟩
  · cases h
  · cases h
  · rename_i hbinary _
    split at h
    · rename_i hsupports
      simp only [bind, Except.bind] at h
      split at h
      · cases h
      · rename_i value hvalue
        cases h
        have hvalue := coerce_ok hvalue
        have hleft := ht.hasType
        rw [← ht.operand] at hleft
        exact ⟨.value hbinary hsupports ⟨value, hvalue⟩, .compare hleft hbinary hsupports
          (isValueOf_foldCase ignoreCase (coerce?_isValueOf hvalue)) text⟩
    · cases h

theorem guard_wellTyped {paths : List Path} {p : Predicate}
    (hpaths : ∀ path ∈ paths, ∃ field, catalog.fieldAt? schema path = some field)
    (h : p.WellTyped catalog schema) : (options.guard paths p).WellTyped catalog schema := by
  unfold CompileOptions.guard
  split
  · exact h
  · exact .connect_behind .and hpaths h

theorem compileComparison_wellTyped {left : Subject} {op : Operator} {ignoreCase : Bool}
    {right : Literal} {p : Predicate}
    (h : compileComparison catalog options schema left op ignoreCase right = .ok p) :
    (Node.comparison left op ignoreCase right).WellTyped catalog schema ∧
      p.WellTyped catalog schema := by
  obtain ⟨target, bare, htarget, text, hbare, rfl⟩ := compileComparison_ok h
  have ht := target_typed htarget
  obtain ⟨suits, typed⟩ := bareComparison_wellTyped ht text hbare
  exact ⟨.comparison ht.hasType text suits, guard_wellTyped ht.guards typed⟩

/-- The test of a quantifier whose body, if it has one, is well typed for the elements. -/
theorem quantifierTest_wellTyped {quantifier : Quantifier} {p : ResolvedPath} {element : FieldType}
    {body : Option Predicate} {test : Predicate} (route : catalog.Route schema p.through p.last)
    (ht : p.last.type = .list element)
    (hbody : ∀ inner ∈ body, ∃ place, element = .record place ∧
      inner.WellTyped catalog (catalog.schema place))
    (h : quantifierTest options quantifier p body = .ok test) : test.WellTyped catalog schema := by
  have hguards := collectionGuards_typed route
  cases body with
  | none =>
      cases quantifier with
      | any =>
          cases h
          exact guard_wellTyped hguards (.nonempty route.fieldAt? ht)
      | all => cases h
  | some inner =>
      obtain ⟨place, rfl, typed⟩ := hbody inner rfl
      cases quantifier with
      | any =>
          cases h
          exact guard_wellTyped hguards (.any route.fieldAt? ht typed)
      | all =>
          have hall : (Predicate.all p.path inner).WellTyped catalog schema :=
            .all route.fieldAt? ht typed
          simp only [quantifierTest] at h
          split at h
          · cases h
            exact .connect_behind .or hguards hall
          · cases h
            exact hall

mutual

/-- **What compiles is well typed, and so is what it compiles to.** By induction on the filter, for
    every schema: the body of a quantifier is compiled for the schema of the elements. -/
theorem compile_wellTyped {schema : Schema} (node : Node) {p : Predicate}
    (h : compile catalog options schema node = .ok p) :
    node.WellTyped catalog schema ∧ p.WellTyped catalog schema := by
  match node with
  | .logical connective terms =>
      obtain ⟨predicates, hterms, rfl⟩ := compile_logical h
      obtain ⟨hnodes, hpredicates⟩ := compileAll_wellTyped terms hterms
      exact ⟨.logical hnodes, .connect connective hpredicates⟩
  | .not inner =>
      obtain ⟨q, hq, rfl⟩ := compile_not h
      obtain ⟨hinner, typed⟩ := compile_wellTyped inner hq
      exact ⟨.not hinner, typed.negate⟩
  | .comparison left op ignoreCase right => exact compileComparison_wellTyped h
  | .quantified quantifier source none =>
      simp only [compile, bind, Except.bind] at h
      split at h
      · cases h
      · rename_i found hfound
        obtain ⟨resolved, element⟩ := found
        obtain ⟨route, rfl, htype⟩ := quantifiedSource_ok hfound
        have typed := quantifierTest_wellTyped route htype (fun _ hi => by cases hi) h
        cases quantifier with
        | any => exact ⟨.nonempty route.fieldAt? htype, typed⟩
        | all => cases h
  | .quantified quantifier source (some body) =>
      obtain ⟨resolved, element, inner, q, hsource, hinner, hq, htest⟩ := compile_quantified h
      obtain ⟨route, rfl, htype⟩ := quantifiedSource_ok hsource
      obtain ⟨place, rfl, rfl⟩ := elementSchema_ok hinner
      obtain ⟨hbody, typed⟩ := compile_wellTyped body hq
      refine ⟨.quantified route.fieldAt? htype hbody,
        quantifierTest_wellTyped route htype ?_ htest⟩
      rintro _ ⟨⟩
      exact ⟨place, rfl, typed⟩

theorem compileAll_wellTyped {schema : Schema} (terms : List Node) {predicates : List Predicate}
    (h : compileAll catalog options schema terms = .ok predicates) :
    (∀ term ∈ terms, term.WellTyped catalog schema) ∧
      ∀ p ∈ predicates, p.WellTyped catalog schema := by
  match terms with
  | [] =>
      cases h
      simp
  | term :: terms =>
      obtain ⟨p, rest, hp, hrest, rfl⟩ := compileAll_cons h
      obtain ⟨hterm, typed⟩ := compile_wellTyped term hp
      obtain ⟨hterms, hpredicates⟩ := compileAll_wellTyped terms hrest
      exact ⟨List.forall_mem_cons.mpr ⟨hterm, hterms⟩,
        List.forall_mem_cons.mpr ⟨typed, hpredicates⟩⟩

end

/-! ## What is well typed compiles -/

theorem exists_target {left : Subject} {type : FieldType}
    (h : left.operand.HasType catalog schema type) :
    ∃ target, left.target catalog schema = .ok target ∧ target.type = type ∧
      target.operand = left.operand := by
  cases left with
  | path names =>
      cases h with
      | field at_end scalar =>
          obtain ⟨p, hp, -, rfl, rfl⟩ := Catalog.route_of_fieldAt? at_end
          refine ⟨⟨p.path, .field p.path, p.last.type, p.last.nullable, p.nullableRecords⟩, ?_, rfl,
            rfl⟩
          simp only [Subject.target, hp, bind, Except.bind, scalar, if_true]
  | count names =>
      cases h with
      | count at_end list =>
          obtain ⟨p, hp, -, rfl, rfl⟩ := Catalog.route_of_fieldAt? at_end
          refine ⟨⟨p.path, .count p.path, .uint, false, collectionGuards p⟩, ?_, rfl, rfl⟩
          simp only [Subject.target, hp, bind, Except.bind, list, FieldType.isCollection, if_true]
          rfl

theorem exists_listBounds (catalog : Catalog) (options : CompileOptions) {type : FieldType}
    (ignoreCase : Bool) (path : String) {items : List Literal}
    (h : ∀ item ∈ items, item = .null ∨ item.Fits type) :
    ∃ bounds, listBounds catalog options type ignoreCase path items = .ok bounds := by
  induction items with
  | nil => exact ⟨[], rfl⟩
  | cons item items ih =>
      obtain ⟨rest, hrest⟩ := ih fun item hi => h item (List.mem_cons_of_mem _ hi)
      rcases h item List.mem_cons_self with rfl | hfits
      · exact ⟨rest, hrest⟩
      · obtain ⟨value, hvalue⟩ := exists_coerce catalog path hfits
        refine ⟨options.bound (foldCase ignoreCase value) :: rest, ?_⟩
        have hnull : item ≠ .null := by
          rintro rfl
          obtain ⟨s, hs⟩ := hfits
          cases hs
        simp only [listBounds, hvalue, hrest, bind, Except.bind]

theorem exists_bareComparison (catalog : Catalog) (options : CompileOptions) {left : Subject}
    {target : Target} {op : Operator} (ignoreCase : Bool) {right : Literal}
    (hleft : target.operand = left.operand) (h : RightSide target.type left op right) :
    ∃ p, bareComparison catalog options target op ignoreCase right = .ok p := by
  cases h with
  | null hop =>
      have hleft : target.operand = .field _ := hleft
      rcases hop with rfl | rfl
      · exact ⟨.isNull target.path, by simp only [bareComparison, hleft]⟩
      · exact ⟨.isNotNull target.path, by simp only [bareComparison, hleft]⟩
  | list hitems =>
      obtain ⟨bounds, hbounds⟩ := exists_listBounds catalog options ignoreCase target.path.text hitems
      simp only [bareComparison, membership, hbounds, bind, Except.bind]
      exact ⟨_, rfl⟩
  | value hbinary hsupports hfits =>
      obtain ⟨value, hvalue⟩ := exists_coerce catalog target.path.text hfits
      refine ⟨.compare target.operand op (options.bound (foldCase ignoreCase value)) ignoreCase, ?_⟩
      -- neither null nor a list stands for a value
      cases right with
      | null =>
          obtain ⟨s, hs⟩ := hfits
          cases hs
      | list items =>
          obtain ⟨s, hs⟩ := hfits
          cases hs
      | _ => cases op <;> first
          | exact absurd rfl hbinary
          | simp only [bareComparison, hsupports, hvalue, bind, Except.bind, if_true]

theorem exists_compileAll {terms : List Node}
    (h : ∀ term ∈ terms, ∃ p, compile catalog options schema term = .ok p) :
    ∃ predicates, compileAll catalog options schema terms = .ok predicates := by
  induction terms with
  | nil => exact ⟨[], by rw [compileAll]⟩
  | cons term terms ih =>
      obtain ⟨p, hp⟩ := h term List.mem_cons_self
      obtain ⟨rest, hrest⟩ := ih fun term ht => h term (List.mem_cons_of_mem _ ht)
      exact ⟨p :: rest, by simp only [compileAll, hp, hrest, bind, Except.bind]⟩

theorem exists_quantifiedSource (quantifier : Quantifier) {source : Path} {field : Field}
    {element : FieldType} (at_end : catalog.fieldAt? schema source = some field)
    (list : field.type = .list element) :
    ∃ resolved, quantifiedSource catalog schema quantifier source = .ok (resolved, element) := by
  obtain ⟨p, hp, -, -, rfl⟩ := Catalog.route_of_fieldAt? at_end
  exact ⟨p, quantifiedSource_iff.mpr ⟨hp, list⟩⟩

theorem exists_quantifierTest (options : CompileOptions) (quantifier : Quantifier)
    (p : ResolvedPath) (inner : Predicate) :
    ∃ test, quantifierTest options quantifier p (some inner) = .ok test := by
  cases quantifier with
  | any => exact ⟨_, rfl⟩
  | all =>
      simp only [quantifierTest]
      split
      · exact ⟨_, rfl⟩
      · exact ⟨_, rfl⟩

/-- **What is well typed compiles.** By induction on the typing. -/
theorem Node.WellTyped.exists_compile {node : Node} (h : node.WellTyped catalog schema)
    (options : CompileOptions) : ∃ p, compile catalog options schema node = .ok p := by
  induction h with
  | @logical schema connective terms _ ih =>
      obtain ⟨predicates, hpredicates⟩ := exists_compileAll ih
      cases connective with
      | and => exact ⟨.conjunction predicates, by
          simp only [compile, hpredicates, bind, Except.bind]⟩
      | or => exact ⟨.disjunction predicates, by
          simp only [compile, hpredicates, bind, Except.bind]⟩
  | not _ ih =>
      obtain ⟨q, hq⟩ := ih
      exact ⟨q.negate, by simp only [compile, hq, bind, Except.bind]⟩
  | @comparison schema left op ignoreCase right type subject text suits =>
      obtain ⟨target, htarget, rfl, hleft⟩ := exists_target subject
      obtain ⟨bare, hbare⟩ := exists_bareComparison catalog options ignoreCase hleft suits
      refine ⟨options.guard target.guards bare, ?_⟩
      have htext : (ignoreCase && target.type != .string) = false := by
        cases ignoreCase with
        | false => rfl
        | true =>
            rw [text rfl]
            rfl
      simp only [compile, compileComparison, htarget, hbare, htext, bind, Except.bind,
        Bool.false_eq_true, if_false]
  | nonempty at_end list =>
      obtain ⟨resolved, hresolved⟩ := exists_quantifiedSource .any at_end list
      refine ⟨options.guard (collectionGuards resolved) (.nonempty resolved.path), ?_⟩
      simp only [compile, hresolved, bind, Except.bind]
      rfl
  | @quantified schema quantifier source field place body at_end list _ ih =>
      obtain ⟨resolved, hresolved⟩ := exists_quantifiedSource quantifier at_end list
      obtain ⟨inner, hinner⟩ := ih
      obtain ⟨test, htest⟩ := exists_quantifierTest options quantifier resolved inner
      refine ⟨test, ?_⟩
      simp only [compile, hresolved, elementSchema, FieldType.place?, hinner, htest, bind,
        Except.bind]

/-- **The compiler checks exactly the types.** A filter compiles if and only if it is well typed, and
    then the predicate is well typed too. -/
theorem compile_iff_wellTyped (catalog : Catalog) (options : CompileOptions) (schema : Schema)
    (node : Node) :
    ((∃ p, compile catalog options schema node = .ok p) ↔ node.WellTyped catalog schema) ∧
      ∀ p, compile catalog options schema node = .ok p → p.WellTyped catalog schema := by
  refine ⟨⟨?_, fun h => h.exists_compile options⟩, fun p h => (compile_wellTyped node h).2⟩
  rintro ⟨p, h⟩
  exact (compile_wellTyped node h).1

theorem compile_iff_wellTyped_homeless :
    homeless.WellTyped people people.root ∧
      ∃ p, compile people {} people.root homeless = .ok p ∧ p.WellTyped people people.root := by
  obtain ⟨hiff, htyped⟩ := compile_iff_wellTyped people {} people.root homeless
  exact ⟨hiff.mp ⟨_, rfl⟩, _, rfl, htyped _ rfl⟩

end RecordQuery.Filter
