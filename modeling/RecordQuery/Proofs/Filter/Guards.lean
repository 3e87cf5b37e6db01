import RecordQuery.Proofs.Filter.Typing

/-!
# `Proofs.Filter.Guards` — what null guards change

Without null guards a compiled filter may end in an error on a record with nulls, namely that of a
path behind a null. Where it has an answer, that is the answer with guards: both say whether the
filter holds. A filter that no null can stop has no guards, so that there both predicates are one.

## Contents
- `compile_partly`: an unguarded filter, by induction on the tree. A constant may hide the error of
  another term, so that constants are looked at by themselves.
- `Node.NeedsNoGuard`, `NeedsNoGuard.compile_eq`: filters that no null can stop.
- `guards_refine`: all of it.
-/

namespace RecordQuery

open RecordQuery.Filter (Connective)

namespace Predicate

/-- A connective of terms none of which can be tested. -/
theorem connect_partly_of_errors {record : Record} {terms : List Predicate}
    (connective : Connective) (h : ∀ term ∈ terms, ∃ e, term.evaluate record = .error e) :
    Partly ((connect connective terms).evaluate record) (connective.neutral = true) := by
  apply connect_partly
  · cases terms with
    | nil =>
        rw [evaluate_chain_nil]
        exact (answers_ok _).partly
    | cons term terms =>
        obtain ⟨e, he⟩ := h term List.mem_cons_self
        rw [evaluate_chain_cons, he]
        exact partly_error
  · -- a constant can be tested
    intro hconst
    obtain ⟨e, he⟩ := h _ hconst
    cases he

end Predicate

namespace Filter

variable {catalog : Catalog} {options : CompileOptions} {schema : Schema} {record : Record}

/-! ## Unguarded filters -/

theorem guard_off (h : options.nullGuards = false) (paths : List Path) (p : Predicate) :
    options.guard paths p = p := by
  simp [CompileOptions.guard, h]

/-- A comparison whose left side cannot be read fails, unless it is false of every value. -/
theorem bareComparison_partly_of_error {target : Target} {op : Operator} {ignoreCase : Bool}
    {right : Literal} {p : Predicate} {e : EvalError}
    (h : bareComparison catalog options target op ignoreCase right = .ok p)
    (read : target.operand.read record = .error e)
    (hop : target.operand = .field target.path ∨ target.operand = .count target.path) :
    Partly (p.evaluate record) False := by
  have hread {q : Path} (hq : target.operand = .field q) : q.read record = .error e := by
    rw [hq] at read
    exact read
  have hpath {q : Path} (hq : target.operand = .field q) :
      target.path.read record = .error e := by
    rcases hop with hop | hop
    · exact hread hop
    · rw [hq] at hop
      cases hop
  unfold bareComparison at h
  split at h
  · split at h
    · cases h
    · rename_i hq
      cases h
      simp only [Predicate.evaluate, hpath hq, Except.map]
      exact partly_error
    · rename_i hq
      cases h
      rw [Predicate.isNotNull, Predicate.evaluate_negate]
      simp only [Predicate.evaluate, hpath hq, Except.map]
      exact partly_error
    · cases h
  · simp only [membership, bind, Except.bind] at h
    split at h
    · cases h
    · cases h
      -- without values and without a null the test is false, as it is of every value
      refine (Predicate.connect_partly_of_errors .or ?_).congr (by simp)
      intro term hterm
      refine ⟨e, ?_⟩
      rcases List.mem_append.mp hterm with hterm | hterm
      · split at hterm
        · cases hterm
        · rw [List.mem_singleton.mp hterm]
          simp only [Predicate.evaluate, read, Except.map]
      · split at hterm
        · rename_i q hq
          split at hterm
          · rw [List.mem_singleton.mp hterm]
            simp only [Predicate.evaluate, hread hq, Except.map]
          · cases hterm
        · cases hterm
  · cases h
  · cases h
  · split at h
    · simp only [bind, Except.bind] at h
      split at h
      · cases h
      · cases h
        simp only [Predicate.evaluate, read, Except.map]
        exact partly_error
    · cases h

theorem pathComparison_partly {names : Path} {op : Operator} {ignoreCase : Bool} {right : Literal}
    {p : Predicate} (hg : options.nullGuards = false)
    (h : compileComparison catalog options schema (.path names) op ignoreCase right = .ok p)
    (hr : record.Conforms catalog schema) :
    Partly (p.evaluate record)
      (Node.Holds catalog schema record (.comparison (.path names) op ignoreCase right)) := by
  obtain ⟨target, bare, htarget, -, hbare, rfl⟩ := compileComparison_ok h
  obtain ⟨resolved, hroute, rfl, hscalar, rfl⟩ := target_path htarget
  have hfield := hroute.fieldAt?
  rw [guard_off hg]
  rcases Catalog.read_or_blocked hfield hr with ⟨v, hadmits, hterminal, hread⟩ |
      ⟨q, -, hterminal, hread⟩
  · have hv := hadmits.exists_scalar hscalar
    refine (bareComparison_answers hbare hread hv (Or.inl rfl)).partly.congr ?_
    simp [Node.Holds, hterminal, hfield]
  · refine (bareComparison_partly_of_error hbare hread (Or.inl rfl)).congr ?_
    simp [Node.Holds, hterminal]

theorem countComparison_partly {names : Path} {op : Operator} {ignoreCase : Bool} {right : Literal}
    {p : Predicate} (hg : options.nullGuards = false)
    (h : compileComparison catalog options schema (.count names) op ignoreCase right = .ok p)
    (hr : record.Conforms catalog schema) :
    Partly (p.evaluate record)
      (Node.Holds catalog schema record (.comparison (.count names) op ignoreCase right)) := by
  obtain ⟨target, bare, htarget, -, hbare, rfl⟩ := compileComparison_ok h
  obtain ⟨resolved, element, hroute, rfl, htype, rfl⟩ := target_count htarget
  rw [guard_off hg]
  rcases Catalog.readList_or_blocked hroute.fieldAt? htype hr with
      ⟨items, elements, hread, short, -⟩ | ⟨q, -, elements, hread⟩
  · have hcount : (Operand.count resolved.path).read record =
        .ok (.scalar (.number (.uint (.ofNat items.length)))) := by
      simp only [Operand.read, hread, Except.map]
    have hanswers := bareComparison_answers hbare hcount
      (Or.inr ⟨_, rfl, fun h => Scalar.noConfusion h⟩) (Or.inr ⟨rfl, rfl⟩)
    refine hanswers.partly.congr ?_
    rw [valueMeets_length short (bareComparison_count_ne_null hbare)]
    simp [Node.Holds, elements]
  · have hcount : (Operand.count resolved.path).read record = .error (.nullReference q.text) := by
      simp only [Operand.read, hread, Except.map]
    refine (bareComparison_partly_of_error hbare hcount (Or.inr rfl)).congr ?_
    simp [Node.Holds, elements]

theorem quantifierTest_off {quantifier : Quantifier} {p : ResolvedPath} {inner test : Predicate}
    (hg : options.nullGuards = false)
    (h : quantifierTest options quantifier p (some inner) = .ok test) :
    test = .quantified quantifier.connective p.path inner := by
  cases quantifier with
  | any =>
      cases h
      exact guard_off hg _ _
  | all =>
      simp only [quantifierTest, hg, Bool.false_eq_true, if_false] at h
      cases h
      rfl

/-- A quantifier without guards tests the elements, or fails where there are none to look at. -/
theorem quantifierTest_partly {quantifier : Quantifier} {p : ResolvedPath} {place : Nat}
    {body : Node} {inner test : Predicate} (hg : options.nullGuards = false)
    (h : quantifierTest options quantifier p (some inner) = .ok test)
    (route : catalog.Route schema p.through p.last) (ht : p.last.type = .list (.record place))
    (hr : record.Conforms catalog schema)
    (hinner : ∀ fields : Record, fields.Conforms catalog (catalog.schema place) →
      Partly (inner.evaluate fields) (Node.Holds catalog (catalog.schema place) fields body)) :
    Partly (test.evaluate record)
      (Node.Holds catalog schema record (.quantified quantifier p.path (some body))) := by
  have hschema := Catalog.elementSchemaAt?_of_fieldAt? route.fieldAt? ht
  rw [quantifierTest_off hg h]
  rcases Catalog.readList_or_blocked route.fieldAt? ht hr with
      ⟨items, elements, hread, -, typed⟩ | ⟨q, -, -, hread⟩
  · obtain ⟨records, rfl, hrecords⟩ := Catalog.exists_records typed
    rw [Node.holds_quantified elements hschema]
    exact Predicate.quantified_partly quantifier.connective hread fun fields hfields =>
      hinner fields (hrecords fields hfields)
  · rw [Predicate.evaluate_quantified_eq, hread]
    exact partly_error

mutual

/-- **An unguarded filter says what its tree says, if it says anything.** By induction on the filter,
    for every schema and record. -/
theorem compile_partly (hg : options.nullGuards = false) {schema : Schema} {record : Record}
    (node : Node) {p : Predicate} (h : compile catalog options schema node = .ok p)
    (hr : record.Conforms catalog schema) :
    Partly (p.evaluate record) (node.Holds catalog schema record) := by
  match node with
  | .logical connective terms =>
      obtain ⟨predicates, hterms, rfl⟩ := compile_logical h
      obtain ⟨hchain, hdecided⟩ := compileAll_partly hg connective terms hterms hr
      rw [Node.holds_logical]
      exact Predicate.connect_partly connective hchain hdecided
  | .not inner =>
      obtain ⟨q, hq, rfl⟩ := compile_not h
      rw [Predicate.evaluate_negate, Node.Holds]
      exact (compile_partly hg inner hq hr).not
  | .comparison (.path names) op ignoreCase right => exact pathComparison_partly hg h hr
  | .comparison (.count names) op ignoreCase right => exact countComparison_partly hg h hr
  | .quantified quantifier source none =>
      simp only [compile, bind, Except.bind] at h
      split at h
      · cases h
      · rename_i found hfound
        obtain ⟨resolved, element⟩ := found
        obtain ⟨route, rfl, htype⟩ := quantifiedSource_ok hfound
        cases quantifier with
        | all => cases h
        | any =>
            cases h
            rw [guard_off hg]
            simp only [Predicate.evaluate]
            rcases Catalog.readList_or_blocked route.fieldAt? htype hr with
                ⟨items, elements, hread, -, -⟩ | ⟨q, -, -, hread⟩
            · rw [hread]
              rintro _ ⟨⟩
              simp [Node.Holds, elements]
            · rw [hread]
              exact partly_error
  | .quantified quantifier source (some body) =>
      obtain ⟨resolved, element, inner, q, hsource, hinner, hq, htest⟩ := compile_quantified h
      obtain ⟨route, rfl, htype⟩ := quantifiedSource_ok hsource
      obtain ⟨place, rfl, rfl⟩ := elementSchema_ok hinner
      exact quantifierTest_partly hg htest route htype hr
        fun fields hfields => compile_partly hg body hq hfields

/-- The terms of a chain, and the deciding constant if it is among them. -/
theorem compileAll_partly (hg : options.nullGuards = false) {schema : Schema} {record : Record}
    (connective : Connective) (terms : List Node) {predicates : List Predicate}
    (h : compileAll catalog options schema terms = .ok predicates)
    (hr : record.Conforms catalog schema) :
    Partly ((Predicate.chain connective predicates).evaluate record)
        (Node.ChainHolds catalog schema record connective terms) ∧
      (.const (!connective.neutral) ∈ predicates →
        ((!connective.neutral) = true ↔ Node.ChainHolds catalog schema record connective terms)) := by
  match terms with
  | [] =>
      cases h
      refine ⟨?_, fun hmem => absurd hmem List.not_mem_nil⟩
      rw [Predicate.evaluate_chain_nil]
      exact ((answers_ok _).congr Node.chainHolds_nil.symm).partly
  | term :: terms =>
      obtain ⟨p, rest, hp, hrest, rfl⟩ := compileAll_cons h
      have hterm := compile_partly hg term hp hr
      obtain ⟨hchain, hdecided⟩ := compileAll_partly hg connective terms hrest hr
      rw [Predicate.evaluate_chain_cons, Node.chainHolds_cons]
      refine ⟨Connective.combine_partly hterm hchain, fun hmem => ?_⟩
      rcases List.mem_cons.mp hmem with rfl | hmem
      · exact Connective.joined_of_ne_neutral (by simp) (hterm _ rfl)
      · have hrest := hdecided hmem
        cases connective <;> simp_all

end

/-! ## Filters that no null can stop -/

/-- The filter looks at nothing behind a field that may be null, and at no collection that may be
    null. -/
inductive Node.NeedsNoGuard (catalog : Catalog) : Schema → Node → Prop
  | logical {schema : Schema} {connective : Connective} {terms : List Node}
      (each : ∀ term ∈ terms, NeedsNoGuard catalog schema term) :
      NeedsNoGuard catalog schema (.logical connective terms)
  | not {schema : Schema} {inner : Node} (one : NeedsNoGuard catalog schema inner) :
      NeedsNoGuard catalog schema (.not inner)
  | path {schema : Schema} {names : Path} {op : Operator} {ignoreCase : Bool} {right : Literal}
      (unbroken : catalog.Unbroken schema names) :
      NeedsNoGuard catalog schema (.comparison (.path names) op ignoreCase right)
  | count {schema : Schema} {names : Path} {op : Operator} {ignoreCase : Bool} {right : Literal}
      (present : catalog.Present schema names) :
      NeedsNoGuard catalog schema (.comparison (.count names) op ignoreCase right)
  | nonempty {schema : Schema} {quantifier : Quantifier} {source : Path}
      (present : catalog.Present schema source) :
      NeedsNoGuard catalog schema (.quantified quantifier source none)
  | quantified {schema : Schema} {quantifier : Quantifier} {source : Path} {body : Node}
      (present : catalog.Present schema source)
      (one : ∀ inner, catalog.elementSchemaAt? schema source = some inner →
        NeedsNoGuard catalog inner body) :
      NeedsNoGuard catalog schema (.quantified quantifier source (some body))

theorem nullableRecords_eq_nil {p : ResolvedPath} (route : catalog.Route schema p.through p.last)
    (h : catalog.Unbroken schema p.path) : p.nullableRecords = [] := by
  cases hrecords : p.nullableRecords with
  | nil => rfl
  | cons path rest =>
      have hmem : path ∈ p.nullableRecords := by
        rw [hrecords]
        exact List.mem_cons_self
      obtain ⟨⟨back, hback, hpath⟩, field, hfield, hnull⟩ := route.fieldAt?_of_mem hmem
      have hfalse := h path back hpath hback field hfield
      rw [hnull] at hfalse
      cases hfalse

theorem collectionGuards_eq_nil {p : ResolvedPath} (route : catalog.Route schema p.through p.last)
    (h : catalog.Present schema p.path) : collectionGuards p = [] := by
  obtain ⟨hunbroken, hlast⟩ := h
  simp [collectionGuards, nullableRecords_eq_nil route hunbroken, hlast p.last route.fieldAt?]

/-! What is compiled between the guards depends on the parameters only. -/

section Parameters

variable {other : CompileOptions}

theorem listBounds_congr (h : options.parameterizeValues = other.parameterizeValues)
    (type : FieldType) (ignoreCase : Bool) (path : String) (items : List Literal) :
    listBounds catalog options type ignoreCase path items =
      listBounds catalog other type ignoreCase path items := by
  induction items with
  | nil => rfl
  | cons item items ih =>
      cases item <;> simp only [listBounds, CompileOptions.bound, ih, h]

theorem bareComparison_congr (h : options.parameterizeValues = other.parameterizeValues)
    (target : Target) (op : Operator) (ignoreCase : Bool) (right : Literal) :
    bareComparison catalog options target op ignoreCase right =
      bareComparison catalog other target op ignoreCase right := by
  simp only [bareComparison, membership, listBounds_congr h, CompileOptions.bound, h]

theorem compileAll_congr {terms : List Node}
    (h : ∀ term ∈ terms, compile catalog options schema term = compile catalog other schema term) :
    compileAll catalog options schema terms = compileAll catalog other schema terms := by
  induction terms with
  | nil => rw [compileAll, compileAll]
  | cons term terms ih =>
      rw [compileAll, compileAll, h term List.mem_cons_self,
        ih fun term ht => h term (List.mem_cons_of_mem _ ht)]

theorem compileComparison_congr {left : Subject} {op : Operator} {ignoreCase : Bool}
    {right : Literal} (h : options.parameterizeValues = other.parameterizeValues)
    (hguards : ∀ target, left.target catalog schema = .ok target → target.guards = []) :
    compileComparison catalog options schema left op ignoreCase right =
      compileComparison catalog other schema left op ignoreCase right := by
  unfold compileComparison
  cases htarget : left.target catalog schema with
  | error e => rfl
  | ok target =>
      simp only [bind, Except.bind, bareComparison_congr h, hguards target htarget, guard_nil]

theorem quantifierTest_congr {quantifier : Quantifier} {p : ResolvedPath}
    (hguards : collectionGuards p = []) (body : Option Predicate) :
    quantifierTest options quantifier p body = quantifierTest other quantifier p body := by
  have hall (options : CompileOptions) (inner : Predicate) :
      quantifierTest options .all p (some inner) = .ok (.all p.path inner) := by
    show (if options.nullGuards then Except.ok (Predicate.disjunction
      ((collectionGuards p).map .isNull ++ [.all p.path inner])) else .ok (.all p.path inner)) = _
    rw [hguards]
    split
    · rfl
    · rfl
  have hany (options : CompileOptions) (test : Predicate) :
      options.guard (collectionGuards p) test = test := by
    rw [hguards, guard_nil]
  cases quantifier with
  | any =>
      cases body with
      | none =>
          show Except.ok (options.guard (collectionGuards p) _) =
            .ok (other.guard (collectionGuards p) _)
          rw [hany, hany]
      | some inner =>
          show Except.ok (options.guard (collectionGuards p) _) =
            .ok (other.guard (collectionGuards p) _)
          rw [hany, hany]
  | all =>
      cases body with
      | none => rfl
      | some inner => rw [hall, hall]

/-- **A filter that no null can stop has no guards.** By induction on why it needs none. -/
theorem Node.NeedsNoGuard.compile_eq {node : Node} (hnode : node.NeedsNoGuard catalog schema)
    (h : options.parameterizeValues = other.parameterizeValues) :
    compile catalog options schema node = compile catalog other schema node := by
  induction hnode with
  | logical _ ih => rw [compile, compile, compileAll_congr ih]
  | not _ ih => rw [compile, compile, ih]
  | path unbroken =>
      rw [compile, compile]
      apply compileComparison_congr h
      intro target htarget
      obtain ⟨p, route, rfl, -, rfl⟩ := target_path htarget
      exact nullableRecords_eq_nil route unbroken
  | count present =>
      rw [compile, compile]
      apply compileComparison_congr h
      intro target htarget
      obtain ⟨p, element, route, rfl, -, rfl⟩ := target_count htarget
      exact collectionGuards_eq_nil route present
  | @nonempty schema quantifier source present =>
      rw [compile, compile]
      cases hsource : quantifiedSource catalog schema quantifier source with
      | error e => rfl
      | ok found =>
          obtain ⟨p, element⟩ := found
          obtain ⟨route, rfl, -⟩ := quantifiedSource_ok hsource
          exact quantifierTest_congr (collectionGuards_eq_nil route present) none
  | @quantified schema quantifier source body present _ ih =>
      rw [compile, compile]
      cases hsource : quantifiedSource catalog schema quantifier source with
      | error e => rfl
      | ok found =>
          obtain ⟨p, element⟩ := found
          obtain ⟨route, rfl, htype⟩ := quantifiedSource_ok hsource
          simp only [bind, Except.bind]
          cases hschema : elementSchema catalog p element with
          | error e => rfl
          | ok inner =>
              obtain ⟨place, rfl, rfl⟩ := elementSchema_ok hschema
              simp only [ih _ (Catalog.elementSchemaAt?_of_fieldAt? route.fieldAt? htype)]
              cases compile catalog other (catalog.schema place) body with
              | error e => rfl
              | ok inner =>
                  exact quantifierTest_congr (collectionGuards_eq_nil route present) (some inner)

end Parameters

/-! ## Guards or none -/

/-- **Guards only take errors away.** A filter that compiles does so with guards and without. On a
    conforming record an answer without guards is the answer with them, and an error without guards
    names a nullable field that is null, on the record or on an element that the test came to. If no
    null can stop the filter, the two predicates are one. -/
theorem guards_refine {options : CompileOptions} {node : Node} {p : Predicate}
    (h : compile catalog options schema node = .ok p) :
    ∃ guarded unguarded,
      compile catalog { options with nullGuards := true } schema node = .ok guarded ∧
      compile catalog { options with nullGuards := false } schema node = .ok unguarded ∧
      (∀ record : Record, record.Conforms catalog schema →
        (∀ b, unguarded.evaluate record = .ok b → guarded.evaluate record = .ok b) ∧
        ∀ e, unguarded.evaluate record = .error e → ∃ path : Path,
          unguarded.MeetsNull catalog schema record path ∧ e = .nullReference path.text) ∧
      (node.NeedsNoGuard catalog schema → guarded = unguarded) := by
  have typed := (compile_wellTyped node h).1
  obtain ⟨guarded, hguarded⟩ := typed.exists_compile { options with nullGuards := true }
  obtain ⟨unguarded, hunguarded⟩ := typed.exists_compile { options with nullGuards := false }
  refine ⟨guarded, unguarded, hguarded, hunguarded, ?_, ?_⟩
  · intro record hr
    constructor
    · intro b hb
      -- both say whether the filter holds
      obtain ⟨b', hb', hholds'⟩ := compile_answers rfl node hguarded hr
      have hholds := compile_partly rfl node hunguarded hr b hb
      rw [hb', Bool.eq_iff_iff.mpr (hholds'.trans hholds.symm)]
    · intro e he
      rcases (compile_wellTyped node hunguarded).2.settles hr with ⟨b, hb⟩ | ⟨path, hmeets, hpath⟩
      · rw [he] at hb
        cases hb
      · rw [he] at hpath
        cases hpath
        exact ⟨path, hmeets, rfl⟩
  · intro hnode
    have heq : compile catalog { options with nullGuards := true } schema node =
        compile catalog { options with nullGuards := false } schema node :=
      hnode.compile_eq rfl
    rw [hguarded, hunguarded] at heq
    cases heq
    rfl

theorem guards_refine_wanderer :
    ∃ guarded unguarded, compile people {} people.root homeless = .ok guarded ∧
      compile people { nullGuards := false } people.root homeless = .ok unguarded ∧
      guarded.evaluate wanderer = .ok true ∧
      unguarded.evaluate wanderer = .error (.nullReference "home") ∧
      ∃ path : Path, unguarded.MeetsNull people people.root wanderer path ∧ path.text = "home" := by
  obtain ⟨guarded, unguarded, hguarded, hunguarded, hrefine, -⟩ :=
    @guards_refine people people.root {} homeless _ rfl
  refine ⟨guarded, unguarded, hguarded, hunguarded, ?_⟩
  cases hguarded
  cases hunguarded
  obtain ⟨-, herror⟩ := hrefine wanderer wanderer_conforms
  obtain ⟨path, hmeets, hpath⟩ := herror (.nullReference "home") rfl
  injection hpath with hpath
  exact ⟨rfl, rfl, path, hmeets, hpath.symm⟩

end Filter
end RecordQuery
