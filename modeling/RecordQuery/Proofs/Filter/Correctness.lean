import RecordQuery.Filter.Compile
import RecordQuery.Proofs.Predicate.Connectives
import RecordQuery.Proofs.Schema.Lookup
import RecordQuery.Proofs.Text.LowerCase

/-!
# `Proofs.Filter.Correctness` — compiled filters mean what they say

With null guards a compiled filter can be tested on every conforming record, and the answer is
`Node.Holds` (`evaluate_compile`). The proof has one lemma for each part of the compiler:

- `holdsOf_iff`, `relates_foldCase`: one comparison of two scalars, the literal lowered beforehand.
- `target_path`, `target_count`: the left side of a comparison, and which guards stand for it.
- `bareComparison_answers`: a comparison whose left side is there.
- `guard_clear`, `guard_blocked`: guards in front of a predicate.
- `compile_answers`: the induction over the tree; the scope changes at a quantifier.
-/

namespace RecordQuery

/-! ## Operators -/

theorem Operator.holdsOfTexts_iff {op : Operator} {a b : String} :
    op.holdsOfTexts a b = true ↔ op.RelatesTexts a b := by
  cases op with
  | contains =>
      simp only [holdsOfTexts, RelatesTexts, Text.containsRun_iff]
      constructor
      · rintro ⟨front, back, h⟩; exact ⟨front, back, h.symm⟩
      · rintro ⟨front, back, h⟩; exact ⟨front, back, h.symm⟩
  | startsWith => simp [holdsOfTexts, RelatesTexts]
  | endsWith => simp [holdsOfTexts, RelatesTexts]
  | oneOf => simp [holdsOfTexts, RelatesTexts]
  | _ => rfl

/-- Testing a value that is not null is comparing it. -/
theorem Operator.holdsOf_iff {op : Operator} {ignoreCase : Bool} {s other : Scalar}
    (hs : s ≠ .null) :
    op.holdsOf (.scalar s) other ignoreCase = true ↔ op.Relates ignoreCase s other := by
  cases s with
  | null => exact absurd rfl hs
  | string a =>
      cases other with
      | string b =>
          -- only two texts are compared as texts
          simp only [holdsOf, Relates]
          cases ignoreCase
          · exact holdsOfTexts_iff
          · exact holdsOfTexts_iff
      | _ =>
          simp only [holdsOf, Relates, Value.compare?]
          cases Scalar.compare? _ _ <;> cases op <;> simp [isRelational, holds]
  | _ =>
      simp only [holdsOf, Relates, Value.compare?]
      cases Scalar.compare? _ _ <;> cases op <;> simp [isRelational, holds]

/-- A literal that was lowered beforehand compares as it stands. -/
theorem Operator.relates_foldCase {op : Operator} {ignoreCase : Bool} {s other : Scalar} :
    op.Relates ignoreCase s (Filter.foldCase ignoreCase other) ↔ op.Relates ignoreCase s other := by
  cases other with
  | string b =>
      cases ignoreCase
      · rfl
      · cases s <;> simp [Filter.foldCase, Relates, Text.lower_lower, Scalar.compare?]
  | _ => rfl

namespace Filter

variable {catalog : Catalog} {options : CompileOptions} {schema : Schema} {record : Record}

/-! ## Guards -/

theorem guard_nil (p : Predicate) : options.guard [] p = p := by
  simp [CompileOptions.guard]

theorem guard_clear {paths : List Path} {p : Predicate} {P : Prop} (hc : Clear record paths)
    (h : Answers (p.evaluate record) P) : Answers ((options.guard paths p).evaluate record) P := by
  unfold CompileOptions.guard
  split
  · exact h
  · exact Predicate.behind_clear_answers .and hc h

theorem guard_blocked {paths : List Path} (p : Predicate) (hg : options.nullGuards = true)
    (hb : Blocked record paths) : Answers ((options.guard paths p).evaluate record) False := by
  unfold CompileOptions.guard
  split
  · rename_i hpaths
    cases paths with
    | nil => exact hb.elim
    | cons path paths => simp [hg] at hpaths
  · have hfalse := Predicate.evaluate_behind_blocked .and hb p
    exact ⟨false, hfalse, by simp⟩

/-! ## The left side -/

theorem target_path {names : Path} {target : Target}
    (h : (Subject.path names).target catalog schema = .ok target) :
    ∃ p : ResolvedPath, catalog.Route schema p.through p.last ∧ p.path = names ∧
      p.last.type.isScalar = true ∧
      target = ⟨p.path, .field p.path, p.last.type, p.last.nullable, p.nullableRecords⟩ := by
  simp only [Subject.target, bind, Except.bind] at h
  split at h
  · cases h
  · rename_i p hp
    split at h
    · rename_i hs
      cases h
      obtain ⟨hroute, hpath⟩ := Catalog.property_route hp
      exact ⟨p, hroute, hpath, hs, rfl⟩
    · cases h

/-- What is read before the elements of a collection are. -/
def collectionGuards (p : ResolvedPath) : List Path :=
  p.nullableRecords ++ (if p.last.nullable then [p.path] else [])

theorem target_count {names : Path} {target : Target}
    (h : (Subject.count names).target catalog schema = .ok target) :
    ∃ (p : ResolvedPath) (element : FieldType), catalog.Route schema p.through p.last ∧
      p.path = names ∧ p.last.type = .list element ∧
      target = ⟨p.path, .count p.path, .uint, false, collectionGuards p⟩ := by
  simp only [Subject.target, bind, Except.bind] at h
  split at h
  · cases h
  · rename_i p hp
    split at h
    · rename_i hs
      cases h
      obtain ⟨hroute, hpath⟩ := Catalog.property_route hp
      cases htype : p.last.type with
      | list element => exact ⟨p, element, hroute, hpath, htype, rfl⟩
      | _ => simp [htype, FieldType.isCollection] at hs
    · cases h

/-- What a collection is on a record: its elements, with nothing before them null, or nothing, with
    a null before them. -/
inductive Collection (catalog : Catalog) (record : Record) (p : ResolvedPath) (element : FieldType) :
    Prop
  | items (items : List Value) (elements : p.path.elements? record = some items)
      (read : p.path.readList record = .ok items) (short : items.length < 2 ^ 64)
      (typed : ∀ item ∈ items, item.HasType catalog element)
      (clear : Clear record (collectionGuards p))
  | absent (elements : p.path.elements? record = none)
      (blocked : Blocked record (collectionGuards p))

theorem collection_of_route {p : ResolvedPath} {element : FieldType}
    (route : catalog.Route schema p.through p.last) (ht : p.last.type = .list element)
    (hr : record.Conforms catalog schema) : Collection catalog record p element := by
  cases route.reach hr with
  | absent terminal _ blocked =>
      exact .absent (by simp [Path.elements?, terminal]) (blocked_append_left _ blocked)
  | value v admits terminal read _ clear =>
      rcases admits with ⟨hnull, rfl⟩ | htype
      · -- the records on the way are there, the list itself is not
        refine .absent (by simp [Path.elements?, terminal]) (blocked_append_right clear ?_)
        rw [hnull]
        exact Or.inl read
      · rw [ht] at htype
        obtain ⟨items, rfl, short, typed⟩ := htype.exists_list
        refine .items items (by simp [Path.elements?, terminal]) (by simp [Path.readList, read]) short
          typed (clear_append clear ?_)
        intro q hq
        split at hq
        · rw [List.mem_singleton.mp hq]
          exact ⟨_, read, rfl⟩
        · cases hq

/-! ## Comparisons -/

theorem coerce_ok {literal : Literal} {type : FieldType} {path : String} {other : Scalar}
    (h : literal.coerce catalog type path = .ok other) : literal.coerce? type = some other := by
  unfold Literal.coerce at h
  split at h
  · rename_i hc
    cases h
    exact hc
  · cases h

/-- Testing an operand against a literal, lowered beforehand, is comparing its value. -/
theorem holdsOf_value {v : Value} {op : Operator} {ignoreCase : Bool} {other : Scalar}
    (hv : v = .null ∨ ∃ s, v = .scalar s ∧ s ≠ .null) :
    op.holdsOf v (foldCase ignoreCase other) ignoreCase = true ↔
      (v = .null ∧ op = .ne) ∨
        ∃ s, v = .scalar s ∧ s ≠ .null ∧ op.Relates ignoreCase s other := by
  rcases hv with rfl | ⟨s, rfl, hs⟩
  · simp [Operator.holdsOf]
  · rw [Operator.holdsOf_iff hs, Operator.relates_foldCase]
    simp [hs]

theorem compare_answers {target : Target} {v : Value} {op : Operator} {ignoreCase : Bool}
    {literal : Literal} {other : Scalar} (read : target.operand.read record = .ok v)
    (hv : v = .null ∨ ∃ s, v = .scalar s ∧ s ≠ .null)
    (hc : literal.coerce? target.type = some other) :
    Answers ((Predicate.compare target.operand op (options.bound (foldCase ignoreCase other))
        ignoreCase).evaluate record)
      ((v = .null ∧ op = .ne) ∨
        ∃ s, v = .scalar s ∧ s ≠ .null ∧
          ∃ other, literal.coerce? target.type = some other ∧ op.Relates ignoreCase s other) := by
  simp only [Predicate.evaluate, read, Except.map]
  refine (answers_ok _).congr ((holdsOf_value hv).trans ?_)
  simp [hc]

theorem listBounds_cons {type : FieldType} {ignoreCase : Bool} {path : String} {item : Literal}
    {items : List Literal} {bounds : List Bound} (hnull : item ≠ .null)
    (h : listBounds catalog options type ignoreCase path (item :: items) = .ok bounds) :
    ∃ value rest, item.coerce? type = some value ∧
      listBounds catalog options type ignoreCase path items = .ok rest ∧
      bounds = options.bound (foldCase ignoreCase value) :: rest := by
  simp only [listBounds, bind, Except.bind] at h
  split at h
  · cases h
  · rename_i value hvalue
    split at h
    · cases h
    · rename_i rest hrest
      cases h
      exact ⟨value, rest, coerce_ok hvalue, hrest, rfl⟩

/-- The values of a list literal that are not null, lowered beforehand. -/
theorem listBounds_any {type : FieldType} {ignoreCase : Bool} {path : String} {items : List Literal}
    {bounds : List Bound} (h : listBounds catalog options type ignoreCase path items = .ok bounds)
    {s : Scalar} (hs : s ≠ .null) :
    (bounds.any fun bound => Operator.eq.holdsOf (.scalar s) bound.value ignoreCase) = true ↔
      ∃ item ∈ items, ∃ other, item.coerce? type = some other ∧
        Operator.eq.Relates ignoreCase s other := by
  induction items generalizing bounds with
  | nil =>
      cases h
      simp
  | cons item items ih =>
      by_cases hnull : item = .null
      · -- null has no value of its own in the list; `nulls_answers` is about it
        subst hnull
        rw [ih h]
        simp [Literal.coerce?]
      · obtain ⟨other, rest, hother, hrest, rfl⟩ := listBounds_cons hnull h
        rw [List.any_cons, Bool.or_eq_true, ih hrest, CompileOptions.bound,
          Operator.holdsOf_iff hs, Operator.relates_foldCase]
        simp [hother]

theorem isNull_iff {v : Value} : v.isNull = true ↔ v = .null := by
  cases v with
  | scalar s => cases s <;> simp [Value.isNull, Scalar.isNull]
  | _ => simp [Value.isNull]

theorem any_isNull {items : List Literal} : items.any Literal.isNull = true ↔ .null ∈ items := by
  rw [List.any_eq_true]
  constructor
  · rintro ⟨item, hi, hn⟩
    cases item <;> simp_all [Literal.isNull]
  · exact fun h => ⟨.null, h, rfl⟩

/-- The test of the values that are not null. -/
theorem values_answers {operand : Operand} {v : Value} {type : FieldType} {ignoreCase : Bool}
    {path : String} {items : List Literal} {bounds : List Bound}
    (hb : listBounds catalog options type ignoreCase path items = .ok bounds)
    (read : operand.read record = .ok v) (hv : v = .null ∨ ∃ s, v = .scalar s ∧ s ≠ .null) :
    Answers ((Predicate.chain .or
        (if bounds.isEmpty then [] else [.oneOf operand bounds ignoreCase])).evaluate record)
      (∃ s, v = .scalar s ∧ s ≠ .null ∧
        ∃ item ∈ items, ∃ other, item.coerce? type = some other ∧
          Operator.eq.Relates ignoreCase s other) := by
  have htest : Answers ((Predicate.oneOf operand bounds ignoreCase).evaluate record)
      (∃ s, v = .scalar s ∧ s ≠ .null ∧
        ∃ item ∈ items, ∃ other, item.coerce? type = some other ∧
          Operator.eq.Relates ignoreCase s other) := by
    simp only [Predicate.evaluate, read, Except.map]
    refine (answers_ok _).congr ?_
    rcases hv with rfl | ⟨s, rfl, hs⟩
    · simp [Value.isNull, Scalar.isNull]
    · have hn : (Value.scalar s).isNull = false := by cases s <;> simp_all [Value.isNull, Scalar.isNull]
      rw [hn, Bool.not_false, Bool.true_and, listBounds_any hb hs]
      simp [hs]
  split
  · rename_i hempty
    obtain ⟨b, hb, hp⟩ := htest
    rw [List.isEmpty_iff.mp hempty] at hb
    simp only [Predicate.evaluate, read, Except.map, List.any_nil, Bool.and_false] at hb
    exact ⟨b, hb, hp⟩
  · rw [Predicate.evaluate_chain_singleton]
    exact htest

/-- The test of a null in the list, which only a field that may be null has. -/
theorem nulls_answers {target : Target} {v : Value} {items : List Literal}
    (read : target.operand.read record = .ok v)
    (hv : (target.nullable = true ∧ v = .null) ∨ ∃ s, v = .scalar s ∧ s ≠ .null)
    (hop : (∃ path, target.operand = .field path) ∨ target.nullable = false) :
    Answers ((Predicate.chain .or
        (match target.operand with
          | .field path =>
            if target.nullable && items.any Literal.isNull then [.isNull path] else []
          | .count _ => [])).evaluate record)
      (v = .null ∧ .null ∈ items) := by
  have hnone (h : ¬(target.nullable = true ∧ .null ∈ items)) :
      Answers ((Predicate.chain .or []).evaluate record) (v = .null ∧ .null ∈ items) := by
    -- a field that may not be null is not, so that no test is needed
    refine (answers_ok false).congr ⟨fun h => Bool.noConfusion h, ?_⟩
    rintro ⟨rfl, hmem⟩
    rcases hv with ⟨hn, -⟩ | ⟨s, hs, hne⟩
    · exact absurd ⟨hn, hmem⟩ h
    · cases hs
      exact absurd rfl hne
  cases hop' : target.operand with
  | count path =>
      apply hnone
      intro h
      rcases hop with ⟨q, hq⟩ | hn
      · rw [hq] at hop'
        cases hop'
      · rw [hn] at h
        exact Bool.noConfusion h.1
  | field path =>
      rw [hop'] at read
      dsimp only
      split
      · rename_i hcond
        rw [Bool.and_eq_true, any_isNull] at hcond
        rw [Predicate.evaluate_chain_singleton, Predicate.evaluate_isNull read]
        refine (answers_ok _).congr ?_
        simp only [hcond.2, and_true]
        exact isNull_iff
      · rename_i hcond
        rw [Bool.and_eq_true, any_isNull] at hcond
        exact hnone hcond

/-- Membership: the values of the list are looked at in one test, a null in another. -/
theorem membership_answers {target : Target} {v : Value} {ignoreCase : Bool} {items : List Literal}
    {p : Predicate} (h : membership catalog options target ignoreCase items = .ok p)
    (read : target.operand.read record = .ok v)
    (hv : (target.nullable = true ∧ v = .null) ∨ ∃ s, v = .scalar s ∧ s ≠ .null)
    (hop : (∃ path, target.operand = .field path) ∨ target.nullable = false) :
    Answers (p.evaluate record)
      ((v = .null ∧ .null ∈ items) ∨
        ∃ s, v = .scalar s ∧ s ≠ .null ∧
          ∃ item ∈ items, ∃ other, item.coerce? target.type = some other ∧
            Operator.eq.Relates ignoreCase s other) := by
  simp only [membership, bind, Except.bind] at h
  split at h
  · cases h
  · rename_i bounds hbounds
    cases h
    refine Predicate.connect_answers .or ?_
    exact (Predicate.chain_append_answers (values_answers hbounds read (hv.imp (fun h => h.2) id))
      (nulls_answers read hv hop)).congr or_comm

/-- A literal that is neither null nor a list is compared with the value. -/
theorem valueMeets_literal {type : FieldType} {v : Value} {op : Operator} {ignoreCase : Bool}
    {right : Literal} (hnull : right ≠ .null) (hlist : ∀ items, right ≠ .list items) :
    ValueMeets type v op ignoreCase right ↔
      (v = .null ∧ op = .ne) ∨
        ∃ s, v = .scalar s ∧ s ≠ .null ∧
          ∃ other, right.coerce? type = some other ∧ op.Relates ignoreCase s other := by
  cases right with
  | null => exact absurd rfl hnull
  | list items => exact absurd rfl (hlist items)
  | _ => cases op <;> rfl

/-- A comparison with a literal that is not null needs a value of the type. -/
theorem bareComparison_value {target : Target} {op : Operator} {ignoreCase : Bool}
    {literal : Literal} (hop : op ≠ .oneOf) (hsupports : op.supports target.type = true)
    (hnull : literal ≠ .null) :
    bareComparison catalog options target op ignoreCase literal =
      (literal.coerce catalog target.type target.path.text).map fun value =>
        .compare target.operand op (options.bound (foldCase ignoreCase value)) ignoreCase := by
  cases literal with
  | null => exact absurd rfl hnull
  | list items =>
      cases op with
      | oneOf => exact absurd rfl hop
      | _ => rfl
  | _ =>
      cases op with
      | oneOf => exact absurd rfl hop
      | _ =>
          simp only [bareComparison, hsupports, if_true]
          cases Literal.coerce catalog _ target.type target.path.text <;> rfl

/-- **A comparison whose left side is there** compares its value with the literal. -/
theorem bareComparison_answers {target : Target} {v : Value} {op : Operator} {ignoreCase : Bool}
    {right : Literal} {p : Predicate}
    (h : bareComparison catalog options target op ignoreCase right = .ok p)
    (read : target.operand.read record = .ok v)
    (hv : (target.nullable = true ∧ v = .null) ∨ ∃ s, v = .scalar s ∧ s ≠ .null)
    (hop : target.operand = .field target.path ∨
      target.operand = .count target.path ∧ target.nullable = false) :
    Answers (p.evaluate record) (ValueMeets target.type v op ignoreCase right) := by
  have hkind : (∃ path, target.operand = .field path) ∨ target.nullable = false :=
    hop.imp (fun h => ⟨_, h⟩) (fun h => h.2)
  have hread {q : Path} (hq : target.operand = .field q) : target.path.read record = .ok v := by
    rcases hop with hop | ⟨hop, -⟩
    · rw [hop] at read
      exact read
    · rw [hq] at hop
      cases hop
  unfold bareComparison at h
  split at h
  · -- a null literal goes with `==` and `!=`, and with a field
    split at h
    · cases h
    · rename_i hfield
      cases h
      rw [Predicate.evaluate_isNull (hread hfield)]
      exact (answers_ok _).congr isNull_iff
    · rename_i hfield
      cases h
      rw [Predicate.evaluate_isNotNull (hread hfield)]
      refine (answers_ok _).congr ?_
      rw [Bool.not_eq_true', ← Bool.not_eq_true, isNull_iff]
      rfl
    · cases h
  · exact membership_answers h read hv hkind
  · cases h
  · cases h
  · rename_i hnull hlist _ _
    split at h
    · simp only [bind, Except.bind] at h
      split at h
      · cases h
      · rename_i other hother
        cases h
        exact (compare_answers read (hv.imp (fun h => h.2) id) (coerce_ok hother)).congr
          (valueMeets_literal hnull hlist).symm
    · cases h

/-! ## Counts -/

theorem count?_eq_some {literal : Literal} {k : Nat} :
    literal.count? = some k ↔
      ∃ n, literal.coerce? .uint = some (.number (.uint n)) ∧ n.toNat = k := by
  unfold Literal.count?
  split
  · rename_i n hn
    simp [hn]
  · rename_i hnone
    constructor
    · intro h
      cases h
    · rintro ⟨n, hn, -⟩
      exact absurd hn (hnone n)

/-- The values of the type of counts. -/
theorem coerce?_uint {literal : Literal} {other : Scalar} (h : literal.coerce? .uint = some other) :
    ∃ n, other = .number (.uint n) := by
  cases literal with
  | number text =>
      simp only [Literal.coerce?, Option.bind_eq_some_iff, Option.map_eq_some_iff,
        Number.ofNat?] at h
      obtain ⟨m, -, number, hnumber, rfl⟩ := h
      split at hnumber
      · cases hnumber
        exact ⟨_, rfl⟩
      · cases hnumber
  | _ => simp [Literal.coerce?] at h

/-- The number that a count gives compares as the length does. -/
theorem relates_length {op : Operator} {ignoreCase : Bool} {length : Nat} {n : UInt64}
    (short : length < 2 ^ 64) :
    op.Relates ignoreCase (.number (.uint (.ofNat length))) (.number (.uint n)) ↔
      op.holds (compare length n.toNat) = true := by
  have hlength : (UInt64.ofNat length).toNat = length := by
    rw [UInt64.toNat_ofNat']
    exact Nat.mod_eq_of_lt short
  have hcompare : compare (length : Int) (n.toNat : Int) = compare length n.toNat := by
    simp only [compare, compareOfLessAndEq, Int.ofNat_lt, Int.ofNat_inj]
  simp only [Operator.Relates, Scalar.compare?, Number.compare?, Number.integer?, hlength, hcompare]

/-- One literal: what it says about the number is what it says about the length. -/
theorem exists_relates_length {op : Operator} {ignoreCase : Bool} {length : Nat} {literal : Literal}
    (short : length < 2 ^ 64) :
    (∃ other, literal.coerce? .uint = some other ∧
        op.Relates ignoreCase (.number (.uint (.ofNat length))) other) ↔
      ∃ n, literal.count? = some n ∧ op.holds (compare length n) = true := by
  constructor
  · rintro ⟨other, hother, hrel⟩
    obtain ⟨n, rfl⟩ := coerce?_uint hother
    exact ⟨n.toNat, count?_eq_some.mpr ⟨n, hother, rfl⟩, (relates_length short).mp hrel⟩
  · rintro ⟨k, hk, hrel⟩
    obtain ⟨n, hn, rfl⟩ := count?_eq_some.mp hk
    exact ⟨_, hn, (relates_length short).mpr hrel⟩

/-- The number that a count gives meets one literal as the length does. -/
theorem length_meets_literal {op : Operator} {ignoreCase : Bool} {length : Nat} {right : Literal}
    (short : length < 2 ^ 64) :
    ((Value.scalar (.number (.uint (.ofNat length))) = .null ∧ op = .ne) ∨
      ∃ s, Value.scalar (.number (.uint (.ofNat length))) = .scalar s ∧ s ≠ .null ∧
        ∃ other, right.coerce? .uint = some other ∧ op.Relates ignoreCase s other) ↔
      ∃ n, right.count? = some n ∧ op.holds (compare length n) = true := by
  rw [← @exists_relates_length op ignoreCase length right short]
  constructor
  · rintro (⟨h, -⟩ | ⟨s, h, -, hrel⟩)
    · cases h
    · cases h
      exact hrel
  · exact fun hrel => Or.inr ⟨_, rfl, fun h => Scalar.noConfusion h, hrel⟩

/-- Comparing the number that a count gives is comparing the length. -/
theorem valueMeets_length {op : Operator} {ignoreCase : Bool} {length : Nat} {right : Literal}
    (short : length < 2 ^ 64) (hright : right ≠ .null) :
    ValueMeets .uint (.scalar (.number (.uint (.ofNat length)))) op ignoreCase right ↔
      LengthMeets length op right := by
  cases right with
  | null => exact absurd rfl hright
  | list items =>
      have hitem (item : Literal) : (∃ other, item.coerce? .uint = some other ∧
          Operator.eq.Relates ignoreCase (.number (.uint (.ofNat length))) other) ↔
          item.count? = some length := by
        rw [exists_relates_length short]
        constructor
        · rintro ⟨n, hn, h⟩
          rw [hn, Nat.compare_eq_eq.mp (eq_of_beq h)]
        · exact fun h => ⟨length, h, by simp [Operator.holds]⟩
      cases op with
      | oneOf =>
          constructor
          · rintro (⟨h, -⟩ | ⟨s, h, -, item, hi, hrel⟩)
            · cases h
            · cases h
              exact ⟨item, hi, (hitem item).mp hrel⟩
          · rintro ⟨item, hi, h⟩
            exact Or.inr ⟨_, rfl, fun h => Scalar.noConfusion h, item, hi, (hitem item).mpr h⟩
      | _ => exact length_meets_literal short
  | _ => cases op <;> exact length_meets_literal short

/-! ## Guarded comparisons -/

theorem compile_comparison {left : Subject} {target : Target} {ignoreCase : Bool}
    (htarget : left.target catalog schema = .ok target)
    (htext : (ignoreCase && target.type != .string) = false) (op : Operator) (right : Literal) :
    compile catalog options schema (.comparison left op ignoreCase right) =
      (bareComparison catalog options target op ignoreCase right).map
        (options.guard target.guards) := by
  simp only [compile, compileComparison, htarget, htext, bind, Except.bind, Bool.false_eq_true,
    if_false]
  cases bareComparison catalog options target op ignoreCase right <;> rfl

theorem compileComparison_ok {left : Subject} {op : Operator} {ignoreCase : Bool} {right : Literal}
    {p : Predicate}
    (h : compileComparison catalog options schema left op ignoreCase right = .ok p) :
    ∃ target bare, left.target catalog schema = .ok target ∧
      (ignoreCase = true → target.type = .string) ∧
      bareComparison catalog options target op ignoreCase right = .ok bare ∧
      p = options.guard target.guards bare := by
  simp only [compileComparison, bind, Except.bind] at h
  split at h
  · cases h
  · rename_i target htarget
    split at h
    · cases h
    · rename_i htext
      split at h
      · cases h
      · rename_i bare hbare
        cases h
        exact ⟨target, bare, htarget, fun hcase => by simpa [hcase] using htext, hbare, rfl⟩

/-- A scalar field: a comparison is false behind an absent record. -/
theorem pathComparison_answers {names : Path} {op : Operator} {ignoreCase : Bool} {right : Literal}
    {p : Predicate} (hg : options.nullGuards = true)
    (h : compileComparison catalog options schema (.path names) op ignoreCase right = .ok p)
    (hr : record.Conforms catalog schema) :
    Answers (p.evaluate record)
      (Node.Holds catalog schema record (.comparison (.path names) op ignoreCase right)) := by
  obtain ⟨target, bare, htarget, -, hbare, rfl⟩ := compileComparison_ok h
  obtain ⟨resolved, hroute, rfl, hscalar, rfl⟩ := target_path htarget
  have hfield := hroute.fieldAt?
  cases hroute.reach hr with
  | absent terminal _ blocked =>
      refine (guard_blocked bare hg blocked).congr ?_
      simp [Node.Holds, terminal]
  | value v admits terminal read _ clear =>
      have hv := admits.exists_scalar hscalar
      refine (guard_clear clear (bareComparison_answers hbare read hv (Or.inl rfl))).congr ?_
      simp [Node.Holds, terminal, hfield]

theorem bareComparison_count_ne_null {path names : Path} {guards : List Path} {op : Operator}
    {ignoreCase : Bool} {right : Literal} {p : Predicate}
    (h : bareComparison catalog options ⟨path, .count names, .uint, false, guards⟩ op ignoreCase
      right = .ok p) : right ≠ .null := by
  rintro rfl
  simp [bareComparison] at h

/-- A count: a comparison is false where there is no collection. -/
theorem countComparison_answers {names : Path} {op : Operator} {ignoreCase : Bool} {right : Literal}
    {p : Predicate} (hg : options.nullGuards = true)
    (h : compileComparison catalog options schema (.count names) op ignoreCase right = .ok p)
    (hr : record.Conforms catalog schema) :
    Answers (p.evaluate record)
      (Node.Holds catalog schema record (.comparison (.count names) op ignoreCase right)) := by
  obtain ⟨target, bare, htarget, -, hbare, rfl⟩ := compileComparison_ok h
  obtain ⟨resolved, element, hroute, rfl, htype, rfl⟩ := target_count htarget
  cases collection_of_route hroute htype hr with
  | absent elements blocked =>
      refine (guard_blocked bare hg blocked).congr ?_
      simp [Node.Holds, elements]
  | items items elements read short _ clear =>
      have hread : (Operand.count resolved.path).read record =
          .ok (.scalar (.number (.uint (.ofNat items.length)))) := by
        simp only [Operand.read, read, Except.map]
      have hbare' := bareComparison_answers hbare hread
        (Or.inr ⟨_, rfl, fun h => Scalar.noConfusion h⟩) (Or.inr ⟨rfl, rfl⟩)
      refine (guard_clear clear hbare').congr ?_
      rw [valueMeets_length short (bareComparison_count_ne_null hbare)]
      simp [Node.Holds, elements]

/-! ## Quantifiers -/

theorem element?_eq_some {type element : FieldType} :
    type.element? = some element ↔ type = .list element := by
  cases type <;> simp [FieldType.element?]

/-- Which quantifier ranges over a list matters for the error only. -/
theorem quantifiedSource_iff {quantifier : Quantifier} {source : Path} {p : ResolvedPath}
    {element : FieldType} :
    quantifiedSource catalog schema quantifier source = .ok (p, element) ↔
      catalog.property schema source = .ok p ∧ p.last.type = .list element := by
  unfold quantifiedSource
  cases catalog.property schema source with
  | error e => simp [bind, Except.bind]
  | ok resolved =>
      simp only [bind, Except.bind, Except.ok.injEq]
      constructor
      · intro h
        split at h
        · rename_i inner hinner
          cases h
          exact ⟨rfl, element?_eq_some.mp hinner⟩
        · cases h
      · rintro ⟨rfl, htype⟩
        rw [htype]
        rfl

theorem quantifiedSource_ok {quantifier : Quantifier} {source : Path} {p : ResolvedPath}
    {element : FieldType}
    (h : quantifiedSource catalog schema quantifier source = .ok (p, element)) :
    catalog.Route schema p.through p.last ∧ p.path = source ∧ p.last.type = .list element := by
  obtain ⟨hproperty, htype⟩ := quantifiedSource_iff.mp h
  obtain ⟨hroute, hpath⟩ := Catalog.property_route hproperty
  exact ⟨hroute, hpath, htype⟩

theorem elementSchema_ok {p : ResolvedPath} {element : FieldType} {inner : Schema}
    (h : elementSchema catalog p element = .ok inner) :
    ∃ place, element = .record place ∧ inner = catalog.schema place := by
  unfold elementSchema at h
  cases element <;> simp only [FieldType.place?] at h <;> cases h
  exact ⟨_, rfl, rfl⟩

/-- The connective under which a quantifier tests the elements. -/
def Quantifier.connective : Quantifier → Connective
  | .any => .or
  | .all => .and

theorem Node.holds_quantified {quantifier : Quantifier} {path : Path} {inner : Schema} {body : Node}
    {records : List Record} (elements : path.elements? record = some (records.map .record))
    (hschema : catalog.elementSchemaAt? schema path = some inner) :
    Node.Holds catalog schema record (.quantified quantifier path (some body)) ↔
      quantifier.connective.across records fun fields => Node.Holds catalog inner fields body := by
  cases quantifier <;> simp [Node.Holds, elements, hschema, Quantifier.connective]

theorem Node.holds_quantified_absent {quantifier : Quantifier} {path : Path} {body : Node}
    (elements : path.elements? record = none) :
    Node.Holds catalog schema record (.quantified quantifier path (some body)) ↔
      quantifier.connective.neutral = true := by
  cases quantifier <;> simp [Node.Holds, elements, Quantifier.connective]

/-- A quantifier without a body asks whether there are elements. -/
theorem emptyTest_answers {quantifier : Quantifier} {p : ResolvedPath} {element : FieldType}
    {test : Predicate} (hg : options.nullGuards = true)
    (h : quantifierTest options quantifier p none = .ok test)
    (hc : Collection catalog record p element) :
    Answers (test.evaluate record)
      (Node.Holds catalog schema record (.quantified quantifier p.path none)) := by
  cases quantifier with
  | all => cases h
  | any =>
      cases h
      cases hc with
      | absent elements blocked =>
          refine (guard_blocked _ hg blocked).congr ?_
          simp [Node.Holds, elements]
      | items items elements read _ _ clear =>
          refine (guard_clear clear ⟨!items.isEmpty, ?_, Iff.rfl⟩).congr ?_
          · simp only [Predicate.evaluate, read, Except.map]
          · simp [Node.Holds, elements]

/-- A quantifier with a body tests the elements, which conform to the schema of their type. -/
theorem bodyTest_answers {quantifier : Quantifier} {p : ResolvedPath} {place : Nat} {body : Node}
    {inner test : Predicate} (hg : options.nullGuards = true)
    (h : quantifierTest options quantifier p (some inner) = .ok test)
    (hschema : catalog.elementSchemaAt? schema p.path = some (catalog.schema place))
    (hc : Collection catalog record p (.record place))
    (hinner : ∀ fields : Record, fields.Conforms catalog (catalog.schema place) →
      Answers (inner.evaluate fields) (Node.Holds catalog (catalog.schema place) fields body)) :
    Answers (test.evaluate record)
      (Node.Holds catalog schema record (.quantified quantifier p.path (some body))) := by
  cases hc with
  | absent elements blocked =>
      rw [Node.holds_quantified_absent elements]
      cases quantifier with
      | any =>
          cases h
          exact (guard_blocked _ hg blocked).congr (by simp [Quantifier.connective])
      | all =>
          simp only [quantifierTest, hg, if_true] at h
          cases h
          exact ⟨true, Predicate.evaluate_behind_blocked .or blocked _,
            by simp [Quantifier.connective]⟩
  | items items elements read _ typed clear =>
      obtain ⟨records, rfl, hrecords⟩ := Catalog.exists_records typed
      rw [Node.holds_quantified elements hschema]
      have htest := Predicate.quantified_answers quantifier.connective read
        fun fields hfields => hinner fields (hrecords fields hfields)
      cases quantifier with
      | any =>
          cases h
          exact guard_clear clear htest
      | all =>
          -- here the guards are null tests in front of the elements: one that is met decides
          simp only [quantifierTest, hg, if_true] at h
          cases h
          exact Predicate.behind_clear_answers .or clear htest

/-! ## Filters -/

/-- What a chain of the connective says of a record. -/
def Node.ChainHolds (catalog : Catalog) (schema : Schema) (record : Record) :
    Connective → List Node → Prop
  | .and => Node.AllHold catalog schema record
  | .or => Node.AnyHolds catalog schema record

theorem Node.holds_logical {connective : Connective} {terms : List Node} :
    Node.Holds catalog schema record (.logical connective terms) ↔
      Node.ChainHolds catalog schema record connective terms := by
  cases connective <;> simp only [Node.Holds, Node.ChainHolds]

theorem Node.chainHolds_nil {connective : Connective} :
    Node.ChainHolds catalog schema record connective [] ↔ connective.neutral = true := by
  cases connective <;> simp [Node.ChainHolds, Node.AllHold, Node.AnyHolds]

theorem Node.chainHolds_cons {connective : Connective} {term : Node} {terms : List Node} :
    Node.ChainHolds catalog schema record connective (term :: terms) ↔
      connective.joined (Node.Holds catalog schema record term)
        (Node.ChainHolds catalog schema record connective terms) := by
  cases connective <;> simp only [Node.ChainHolds, Node.AllHold, Node.AnyHolds, Connective.joined_and,
    Connective.joined_or]

theorem compile_not {inner : Node} {p : Predicate}
    (h : compile catalog options schema (.not inner) = .ok p) :
    ∃ q, compile catalog options schema inner = .ok q ∧ p = q.negate := by
  simp only [compile, bind, Except.bind] at h
  split at h
  · cases h
  · rename_i q hq
    cases h
    exact ⟨q, hq, rfl⟩

/-- A chain is compiled to the connective of its compiled terms. -/
theorem compile_logical_eq (connective : Connective) (terms : List Node) :
    compile catalog options schema (.logical connective terms) =
      (compileAll catalog options schema terms).map (Predicate.connect connective) := by
  rw [compile]
  cases compileAll catalog options schema terms with
  | error e => rfl
  | ok predicates => cases connective <;> rfl

theorem compile_logical {connective : Connective} {terms : List Node} {p : Predicate}
    (h : compile catalog options schema (.logical connective terms) = .ok p) :
    ∃ predicates, compileAll catalog options schema terms = .ok predicates ∧
      p = .connect connective predicates := by
  rw [compile_logical_eq] at h
  cases hterms : compileAll catalog options schema terms with
  | error e =>
      rw [hterms] at h
      cases h
  | ok predicates =>
      rw [hterms] at h
      cases h
      exact ⟨predicates, rfl, rfl⟩

theorem compile_quantified {quantifier : Quantifier} {source : Path} {body : Node} {p : Predicate}
    (h : compile catalog options schema (.quantified quantifier source (some body)) = .ok p) :
    ∃ resolved element inner q, quantifiedSource catalog schema quantifier source =
        .ok (resolved, element) ∧
      elementSchema catalog resolved element = .ok inner ∧
      compile catalog options inner body = .ok q ∧
      quantifierTest options quantifier resolved (some q) = .ok p := by
  simp only [compile, bind, Except.bind] at h
  split at h
  · cases h
  · rename_i source hsource
    obtain ⟨resolved, element⟩ := source
    dsimp only at h
    split at h
    · cases h
    · rename_i inner hinner
      split at h
      · cases h
      · rename_i q hq
        exact ⟨resolved, element, inner, q, hsource, hinner, hq, h⟩

theorem compileAll_cons {term : Node} {terms : List Node} {predicates : List Predicate}
    (h : compileAll catalog options schema (term :: terms) = .ok predicates) :
    ∃ p rest, compile catalog options schema term = .ok p ∧
      compileAll catalog options schema terms = .ok rest ∧ predicates = p :: rest := by
  simp only [compileAll, bind, Except.bind] at h
  split at h
  · cases h
  · rename_i p hp
    split at h
    · cases h
    · rename_i rest hrest
      cases h
      exact ⟨p, rest, hp, hrest, rfl⟩

mutual

/-- By induction on the filter, for every schema and record: the body of a quantifier is compiled
    for the schema of the elements and tested on each of them. -/
theorem compile_answers (hg : options.nullGuards = true) {schema : Schema} {record : Record}
    (node : Node) {p : Predicate} (h : compile catalog options schema node = .ok p)
    (hr : record.Conforms catalog schema) :
    Answers (p.evaluate record) (node.Holds catalog schema record) := by
  match node with
  | .logical connective terms =>
      obtain ⟨predicates, hterms, rfl⟩ := compile_logical h
      rw [Node.holds_logical]
      exact Predicate.connect_answers connective (compileAll_answers hg connective terms hterms hr)
  | .not inner =>
      obtain ⟨q, hq, rfl⟩ := compile_not h
      rw [Predicate.evaluate_negate, Node.Holds]
      exact (compile_answers hg inner hq hr).not
  | .comparison (.path names) op ignoreCase right => exact pathComparison_answers hg h hr
  | .comparison (.count names) op ignoreCase right => exact countComparison_answers hg h hr
  | .quantified quantifier source none =>
      simp only [compile, bind, Except.bind] at h
      split at h
      · cases h
      · rename_i found hfound
        obtain ⟨resolved, element⟩ := found
        obtain ⟨hroute, rfl, htype⟩ := quantifiedSource_ok hfound
        exact emptyTest_answers hg h (collection_of_route hroute htype hr)
  | .quantified quantifier source (some body) =>
      obtain ⟨resolved, element, inner, q, hsource, hinner, hq, htest⟩ := compile_quantified h
      obtain ⟨hroute, rfl, htype⟩ := quantifiedSource_ok hsource
      obtain ⟨place, rfl, rfl⟩ := elementSchema_ok hinner
      exact bodyTest_answers hg htest (Catalog.elementSchemaAt?_of_fieldAt? hroute.fieldAt? htype)
        (collection_of_route hroute htype hr)
        fun fields hfields => compile_answers hg body hq hfields

/-- The terms of a chain, one after the other. -/
theorem compileAll_answers (hg : options.nullGuards = true) {schema : Schema} {record : Record}
    (connective : Connective) (terms : List Node) {predicates : List Predicate}
    (h : compileAll catalog options schema terms = .ok predicates)
    (hr : record.Conforms catalog schema) :
    Answers ((Predicate.chain connective predicates).evaluate record)
      (Node.ChainHolds catalog schema record connective terms) := by
  match terms with
  | [] =>
      cases h
      exact ⟨connective.neutral, Predicate.evaluate_chain_nil connective record,
        Node.chainHolds_nil.symm⟩
  | term :: terms =>
      obtain ⟨p, rest, hp, hrest, rfl⟩ := compileAll_cons h
      rw [Node.chainHolds_cons]
      exact Predicate.chain_cons_answers (compile_answers hg term hp hr)
        (compileAll_answers hg connective terms hrest hr)

end

/-- **A compiled filter means what its tree says.** With null guards, evaluating it on a conforming
    record ends without an error, and the answer is whether the filter holds of the record. -/
theorem evaluate_compile {catalog : Catalog} {options : CompileOptions} {schema : Schema}
    {record : Record} {node : Node} {p : Predicate} (hg : options.nullGuards = true)
    (h : compile catalog options schema node = .ok p) (hr : record.Conforms catalog schema) :
    ∃ b, p.evaluate record = .ok b ∧ (b = true ↔ node.Holds catalog schema record) :=
  compile_answers hg node h hr

/-- `!(home.city ==:i 'OSLO') && friends:any(home.city != null || !(friends:count > 0))` -/
def homeless : Node :=
  .logical .and
    [.not (.comparison (.path ["home", "city"]) .eq true (.string "OSLO")),
      .quantified .any ["friends"] (some (.logical .or
        [.comparison (.path ["home", "city"]) .ne false .null,
          .not (.comparison (.count ["friends"]) .gt false (.number "0"))]))]

theorem evaluate_compile_wanderer :
    ∃ p, compile people {} people.root homeless = .ok p ∧ p.evaluate wanderer = .ok true ∧
      homeless.Holds people people.root wanderer := by
  refine ⟨_, rfl, rfl, ?_⟩
  obtain ⟨b, hb, hholds⟩ :=
    @evaluate_compile people {} people.root wanderer homeless _ rfl rfl wanderer_conforms
  cases hb
  exact hholds.mp rfl

end Filter
end RecordQuery
