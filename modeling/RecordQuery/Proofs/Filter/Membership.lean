import RecordQuery.Proofs.Filter.Duality
import RecordQuery.Proofs.Filter.Grouping
import RecordQuery.Proofs.Filter.Guards
import RecordQuery.Proofs.Filter.Options

/-!
# `Proofs.Filter.Membership` — membership is a disjunction of equalities

A list on the right of `in` has a way of its own through the compiler: its values are collected into
one test, its nulls become a null test, which a field that may not be null does without, and what is
left of a list may be nothing. All the same it stands for the equalities with its items: the same
lists compile, with the same error if they do not, and the two filters agree on conforming records.
Only a list of nothing but nulls differs without guards: no value is read for it if the field may
not be null, and so no null on the way is met.

## Contents
- `target_reach`: a left side has a value, or a guard in front of it is null.
- `items_alike`, `memberOf_alike`: what compiles, by induction on the list.
- `valueMeets_list`: what both filters say of a value.
- `memberOf_read`, `memberOf_blocked`, `memberOf_unread`: the three things a record can do.
- `membership_disjunction`: **the law.**
-/

namespace RecordQuery.Filter

/-! ## The two filters -/

/-- `left == item` -/
def equality (left : Subject) (ignoreCase : Bool) (item : Literal) : Node :=
  .comparison left .eq ignoreCase item

/-- `left in [item, …]` -/
def memberOf (left : Subject) (ignoreCase : Bool) (items : List Literal) : Node :=
  .comparison left .oneOf ignoreCase (.list items)

/-- `left == item || …` -/
def equalsOne (left : Subject) (ignoreCase : Bool) (items : List Literal) : Node :=
  .join .or (items.map (equality left ignoreCase))

variable {catalog : Catalog} {options : CompileOptions} {schema : Schema} {record : Record}
  {left : Subject} {target : Target} {ignoreCase : Bool} {items : List Literal}

/-! ## The left side -/

/-- A left side that was found is a scalar field, or the number of elements of a collection, which
is never null. -/
theorem target_kind (h : left.target catalog schema = .ok target) :
    target.type.isScalar = true ∧
      ((∃ names, left = .path names) ∧ target.operand = .field target.path ∨
        (∃ names, left = .count names) ∧ target.operand = .count target.path ∧
          target.nullable = false) := by
  cases left with
  | path names =>
      obtain ⟨p, -, -, hscalar, rfl⟩ := target_path h
      exact ⟨hscalar, Or.inl ⟨⟨names, rfl⟩, rfl⟩⟩
  | count names =>
      obtain ⟨p, element, -, -, -, rfl⟩ := target_count h
      exact ⟨rfl, Or.inr ⟨⟨names, rfl⟩, rfl, rfl⟩⟩

/-- **On a conforming record a left side has a value, none of its guards being null, or it cannot be
read, because of one of them.** -/
theorem target_reach (h : left.target catalog schema = .ok target)
    (hr : record.Conforms catalog schema) :
    (∃ v, target.operand.read record = .ok v ∧
      ((target.nullable = true ∧ v = .null) ∨ ∃ s, v = .scalar s ∧ s ≠ .null) ∧
      Clear record target.guards) ∨
    (∃ e, target.operand.read record = .error e) ∧ Blocked record target.guards := by
  cases left with
  | path names =>
      obtain ⟨p, route, -, hscalar, rfl⟩ := target_path h
      cases route.reach hr with
      | value v admits _ read _ clear =>
          exact Or.inl ⟨v, read, admits.exists_scalar hscalar, clear⟩
      | absent terminal _ blocked =>
          refine Or.inr ⟨?_, blocked⟩
          rcases Catalog.read_or_blocked route.fieldAt? hr with ⟨v, -, hterminal, -⟩ |
              ⟨q, -, -, hread⟩
          · rw [terminal] at hterminal
            cases hterminal
          · exact ⟨_, hread⟩
  | count names =>
      obtain ⟨p, element, route, -, htype, rfl⟩ := target_count h
      cases collection_of_route route htype hr with
      | items items _ read _ _ clear =>
          refine Or.inl ⟨.scalar (.number (.uint (.ofNat items.length))), ?_, ?_, clear⟩
          · simp only [Operand.read, read, Except.map]
          · exact Or.inr ⟨_, rfl, fun h => Scalar.noConfusion h⟩
      | absent elements blocked =>
          refine Or.inr ⟨?_, blocked⟩
          rcases Catalog.readList_or_blocked route.fieldAt? htype hr with ⟨items, helements, -⟩ |
              ⟨q, -, -, hread⟩
          · rw [elements] at helements
            cases helements
          · refine ⟨.nullReference q.text, ?_⟩
            simp only [Operand.read, hread, Except.map]

/-! ## What compiles -/

theorem bareComparison_null {path : Path} (hoperand : target.operand = .field path) :
    bareComparison catalog options target .eq ignoreCase .null = .ok (.isNull target.path) := by
  simp only [bareComparison, hoperand]

theorem compileAll_cons_eq (term : Node) (terms : List Node) :
    compileAll catalog options schema (term :: terms) =
      (compile catalog options schema term).bind fun p =>
        (compileAll catalog options schema terms).map (p :: ·) := by
  rw [compileAll]
  cases compile catalog options schema term with
  | error e => rfl
  | ok p => cases compileAll catalog options schema terms <;> rfl

/-- **The items of a list compile like the equalities with them**, up to the first one that does
not. -/
theorem items_alike (htarget : left.target catalog schema = .ok target)
    (htext : (ignoreCase && target.type != .string) = false)
    (hcount : ∀ names, left = .count names → .null ∉ items) :
    Alike (fun _ _ => True)
      (listBounds catalog options target.type ignoreCase target.path.text items)
      (compileAll catalog options schema (items.map (equality left ignoreCase))) := by
  obtain ⟨hscalar, hkind⟩ := target_kind htarget
  induction items with
  | nil =>
      rw [List.map_nil, compileAll]
      trivial
  | cons item items ih =>
      have ih := ih fun names hleft hmem => hcount names hleft (List.mem_cons_of_mem item hmem)
      rw [List.map_cons, compileAll_cons_eq, equality, compile_comparison htarget htext]
      by_cases hnull : item = .null
      · -- a null gives no value, and the equality with it compiles
        subst hnull
        rcases hkind with ⟨-, hoperand⟩ | ⟨⟨names, hleft⟩, -⟩
        · rw [bareComparison_null hoperand, listBounds]
          exact ih.map_right fun _ _ _ => trivial
        · exact absurd List.mem_cons_self (hcount names hleft)
      · have hbinary : Operator.eq ≠ .oneOf := by decide
        rw [listBounds_value hnull, bareComparison_value hbinary hscalar hnull]
        cases item.coerce catalog target.type target.path.text with
        | error e => rfl
        | ok value => exact ih.map fun _ _ _ => trivial

/-- **Membership compiles like the equalities one after the other**, with the first of their
errors. -/
theorem memberOf_alike (hne : items ≠ []) (hcount : ∀ names, left = .count names → .null ∉ items) :
    Alike (fun _ _ => True) (compile catalog options schema (memberOf left ignoreCase items))
      (compileAll catalog options schema (items.map (equality left ignoreCase))) := by
  obtain ⟨first, rest, rfl⟩ := List.exists_cons_of_ne_nil hne
  cases htarget : left.target catalog schema with
  | error e =>
      -- whatever the right side is, the left side comes first
      have hleft (op : Operator) (right : Literal) :
          compile catalog options schema (.comparison left op ignoreCase right) = .error e := by
        simp only [compile, compileComparison, htarget, bind, Except.bind]
      rw [List.map_cons, compileAll_cons_eq, memberOf, equality, hleft, hleft]
      rfl
  | ok target =>
      cases htext : (ignoreCase && target.type != .string) with
      | true =>
          have hleft (op : Operator) (right : Literal) :
              compile catalog options schema (.comparison left op ignoreCase right) =
                .error (.caseInsensitiveNonString target.path.text (target.type.text catalog)) := by
            simp only [compile, compileComparison, htarget, htext, bind, Except.bind, if_true]
          rw [List.map_cons, compileAll_cons_eq, memberOf, equality, hleft, hleft]
          rfl
      | false =>
          have hmember : compile catalog options schema
              (memberOf left ignoreCase (first :: rest)) =
              (membership catalog options target ignoreCase (first :: rest)).map
                (options.guard target.guards) := compile_comparison htarget htext .oneOf _
          rw [hmember, membership]
          rcases (items_alike htarget htext hcount).results with
            ⟨e, hbounds, hterms⟩ | ⟨bounds, terms, hbounds, hterms, -⟩
          · rw [hbounds, hterms]
            rfl
          · rw [hbounds, hterms]
            trivial

/-- What terms are compiled to are the predicates of the terms. -/
theorem compileAll_members {terms : List Node} {predicates : List Predicate}
    (h : compileAll catalog options schema terms = .ok predicates) :
    (∀ term ∈ terms, ∃ p ∈ predicates, compile catalog options schema term = .ok p) ∧
      ∀ p ∈ predicates, ∃ term ∈ terms, compile catalog options schema term = .ok p := by
  induction terms generalizing predicates with
  | nil =>
      cases h
      exact ⟨fun term hterm => absurd hterm List.not_mem_nil,
        fun p hp => absurd hp List.not_mem_nil⟩
  | cons term terms ih =>
      obtain ⟨p, rest, hp, hrest, rfl⟩ := compileAll_cons h
      obtain ⟨hterms, hpredicates⟩ := ih hrest
      constructor
      · refine List.forall_mem_cons.mpr ⟨⟨p, List.mem_cons_self, hp⟩, fun term hterm => ?_⟩
        obtain ⟨q, hmem, hq⟩ := hterms term hterm
        exact ⟨q, List.mem_cons_of_mem p hmem, hq⟩
      · refine List.forall_mem_cons.mpr ⟨⟨term, List.mem_cons_self, hp⟩, fun q hq => ?_⟩
        obtain ⟨other, hmem, hother⟩ := hpredicates q hq
        exact ⟨other, List.mem_cons_of_mem term hmem, hother⟩

/-- The first term that does not compile is the error of all. -/
theorem compileAll_error {before after : List Node} {term : Node} {e : SchemaError}
    (hbefore : ∀ earlier ∈ before, ∃ p, compile catalog options schema earlier = .ok p)
    (hterm : compile catalog options schema term = .error e) :
    compileAll catalog options schema (before ++ term :: after) = .error e := by
  obtain ⟨predicates, hpredicates⟩ := exists_compileAll hbefore
  rw [compileAll_append, hpredicates, compileAll, hterm]
  rfl

/-! ## What the filters say of a value -/

theorem valueMeets_value {type : FieldType} {v : Value} {item : Literal} (hnull : item ≠ .null) :
    ValueMeets type v .eq ignoreCase item ↔
      ∃ s, v = .scalar s ∧ s ≠ .null ∧
        ∃ other, item.coerce? type = some other ∧ Operator.eq.Relates ignoreCase s other := by
  have hmeets : ValueMeets type v .eq ignoreCase item ↔ (v = .null ∧ Operator.eq = .ne) ∨
      ∃ s, v = .scalar s ∧ s ≠ .null ∧
        ∃ other, item.coerce? type = some other ∧ Operator.eq.Relates ignoreCase s other := by
    cases item with
    | null => exact absurd rfl hnull
    | _ => rfl
  rw [hmeets]
  constructor
  · rintro (⟨-, h⟩ | h)
    · cases h
    · exact h
  · exact Or.inr

/-- **A value is in a list if it equals one of the items**, a null if one of them is null. -/
theorem valueMeets_list {type : FieldType} {v : Value} :
    ValueMeets type v .oneOf ignoreCase (.list items) ↔
      ∃ item ∈ items, ValueMeets type v .eq ignoreCase item := by
  constructor
  · rintro (⟨hv, hmem⟩ | ⟨s, hs, hne, item, hmem, other, hother, hrel⟩)
    · exact ⟨.null, hmem, hv⟩
    · have hnull : item ≠ .null := by
        rintro rfl
        cases hother
      exact ⟨item, hmem, (valueMeets_value hnull).mpr ⟨s, hs, hne, other, hother, hrel⟩⟩
  · rintro ⟨item, hmem, hmeets⟩
    by_cases hnull : item = .null
    · subst hnull
      exact Or.inl ⟨hmeets, hmem⟩
    · obtain ⟨s, hs, hne, other, hother, hrel⟩ := (valueMeets_value hnull).mp hmeets
      exact Or.inr ⟨s, hs, hne, item, hmem, other, hother, hrel⟩

/-! ## Evaluation -/

/-- A chain says what the connective makes of what its terms say. -/
theorem chain_answers {α : Type} (connective : Connective) {toNode : α → Node} {items : List α}
    {terms : List Predicate} {P : α → Prop}
    (h : compileAll catalog options schema (items.map toNode) = .ok terms)
    (each : ∀ item p, compile catalog options schema (toNode item) = .ok p →
      Answers (p.evaluate record) (P item)) :
    Answers ((Predicate.chain connective terms).evaluate record) (connective.across items P) := by
  induction items generalizing terms with
  | nil =>
      cases h
      rw [Predicate.evaluate_chain_nil]
      exact (answers_ok _).congr Connective.across_nil.symm
  | cons item items ih =>
      obtain ⟨p, rest, hp, hrest, rfl⟩ := compileAll_cons h
      exact (Predicate.chain_cons_answers (each item p hp) (ih hrest)).congr
        Connective.across_cons.symm

/-- A disjunction none of whose terms can be tested has the error of the first. -/
theorem evaluate_disjunction_of_errors {terms : List Predicate} {e : EvalError} (hne : terms ≠ [])
    (h : ∀ term ∈ terms, term.FitsUnder .or ∧ term.evaluate record = .error e) :
    (Predicate.disjunction terms).evaluate record = .error e := by
  obtain ⟨first, rest, rfl⟩ := List.exists_cons_of_ne_nil hne
  have hplain := Predicate.evaluate_connect_of_fits (fun term hterm => (h term hterm).1) record
  refine hplain.trans ?_
  rw [Predicate.evaluate_chain_cons, (h first List.mem_cons_self).2]
  rfl

theorem equality_ok (htarget : left.target catalog schema = .ok target) {item : Literal}
    {p : Predicate}
    (h : compile catalog options schema (equality left ignoreCase item) = .ok p) :
    ∃ bare, bareComparison catalog options target .eq ignoreCase item = .ok bare ∧
      p = options.guard target.guards bare := by
  obtain ⟨found, bare, hfound, -, hbare, rfl⟩ := compileComparison_ok h
  cases htarget.symm.trans hfound
  exact ⟨bare, hbare, rfl⟩

/-! ### A left side that has a value -/

/-- A comparison says of the value what it means, with guards and without. -/
theorem comparison_answers (htarget : left.target catalog schema = .ok target)
    {v : Value} {op : Operator} {right : Literal} {bare : Predicate}
    (read : target.operand.read record = .ok v)
    (hv : (target.nullable = true ∧ v = .null) ∨ ∃ s, v = .scalar s ∧ s ≠ .null)
    (clear : Clear record target.guards)
    (h : bareComparison catalog options target op ignoreCase right = .ok bare) :
    Answers ((options.guard target.guards bare).evaluate record)
      (ValueMeets target.type v op ignoreCase right) := by
  obtain ⟨-, hkind⟩ := target_kind htarget
  have hoperand : target.operand = .field target.path ∨
      target.operand = .count target.path ∧ target.nullable = false :=
    hkind.imp (fun h => h.2) (fun h => h.2)
  exact guard_clear clear (bareComparison_answers h read hv hoperand)

/-! ### A left side that cannot be read -/

theorem listBounds_ne_nil {type : FieldType} {path : String} {item : Literal} {bounds : List Bound}
    (h : listBounds catalog options type ignoreCase path items = .ok bounds) (hmem : item ∈ items)
    (hnull : item ≠ .null) : bounds ≠ [] := by
  induction items generalizing bounds with
  | nil => exact absurd hmem List.not_mem_nil
  | cons first items ih =>
      by_cases hfirst : first = .null
      · subst hfirst
        exact ih h ((List.mem_cons.mp hmem).resolve_left hnull)
      · obtain ⟨value, rest, -, -, rfl⟩ := listBounds_cons hfirst h
        exact List.cons_ne_nil _ _

/-- Each of the equalities has the error of its left side. -/
theorem equality_unread (htarget : left.target catalog schema = .ok target) {e : EvalError}
    (read : target.operand.read record = .error e) {item : Literal} {bare : Predicate}
    (h : bareComparison catalog options target .eq ignoreCase item = .ok bare) :
    bare.FitsUnder .or ∧ bare.evaluate record = .error e := by
  obtain ⟨hscalar, hkind⟩ := target_kind htarget
  by_cases hnull : item = .null
  · subst hnull
    rcases hkind with ⟨-, hoperand⟩ | ⟨-, hoperand, -⟩
    · rw [bareComparison_null hoperand] at h
      cases h
      rw [hoperand] at read
      have hread : target.path.read record = .error e := read
      refine ⟨trivial, ?_⟩
      rw [Predicate.evaluate, hread]
      rfl
    · simp only [bareComparison, hoperand] at h
      cases h
  · have hbinary : Operator.eq ≠ .oneOf := by decide
    rw [bareComparison_value hbinary hscalar hnull] at h
    cases hvalue : item.coerce catalog target.type target.path.text with
    | error e =>
        rw [hvalue] at h
        cases h
    | ok value =>
        rw [hvalue] at h
        cases h
        refine ⟨trivial, ?_⟩
        rw [Predicate.evaluate, read]
        rfl

/-- So has membership, if there is a value to look for. -/
theorem membership_unread {e : EvalError} (read : target.operand.read record = .error e)
    {p : Predicate} (hvalue : ∃ item ∈ items, item ≠ .null)
    (h : membership catalog options target ignoreCase items = .ok p) :
    p.evaluate record = .error e := by
  simp only [membership, bind, Except.bind] at h
  split at h
  · cases h
  · rename_i bounds hbounds
    cases h
    obtain ⟨item, hmem, hnull⟩ := hvalue
    obtain ⟨bound, rest, rfl⟩ := List.exists_cons_of_ne_nil (listBounds_ne_nil hbounds hmem hnull)
    apply evaluate_disjunction_of_errors
    · exact List.cons_ne_nil _ _
    · refine List.forall_mem_cons.mpr ⟨⟨trivial, ?_⟩, ?_⟩
      · rw [Predicate.evaluate, read]
        rfl
      · intro term hterm
        cases hoperand : target.operand with
        | count path =>
            rw [hoperand] at hterm
            cases hterm
        | field path =>
            rw [hoperand] at hterm read
            have hread : path.read record = .error e := read
            dsimp only at hterm
            split at hterm
            · rw [List.mem_singleton.mp hterm]
              refine ⟨trivial, ?_⟩
              rw [Predicate.evaluate, hread]
              rfl
            · cases hterm

/-! ## The law -/

section Law

variable {bare : Predicate} {terms : List Predicate}

/-- Where the left side has a value, both filters answer whether it is in the list. -/
theorem memberOf_read (htarget : left.target catalog schema = .ok target) {v : Value}
    (read : target.operand.read record = .ok v)
    (hv : (target.nullable = true ∧ v = .null) ∨ ∃ s, v = .scalar s ∧ s ≠ .null)
    (clear : Clear record target.guards)
    (hbare : membership catalog options target ignoreCase items = .ok bare)
    (hterms : compileAll catalog options schema (items.map (equality left ignoreCase)) =
      .ok terms) :
    ∃ b, (options.guard target.guards bare).evaluate record = .ok b ∧
      (Predicate.disjunction terms).evaluate record = .ok b := by
  have hmember : Answers ((options.guard target.guards bare).evaluate record)
      (ValueMeets target.type v .oneOf ignoreCase (.list items)) :=
    comparison_answers htarget read hv clear hbare
  have hone : Answers ((Predicate.chain .or terms).evaluate record)
      (∃ item ∈ items, ValueMeets target.type v .eq ignoreCase item) := by
    apply chain_answers .or hterms
    intro item q hq
    obtain ⟨equal, hequal, rfl⟩ := equality_ok htarget hq
    exact comparison_answers htarget read hv clear hequal
  exact (hmember.congr valueMeets_list).agree (Predicate.connect_answers .or hone)

/-- Behind a null that is guarded against both are false. -/
theorem memberOf_blocked (hg : options.nullGuards = true)
    (htarget : left.target catalog schema = .ok target) (blocked : Blocked record target.guards)
    (hterms : compileAll catalog options schema (items.map (equality left ignoreCase)) =
      .ok terms) :
    ∃ b, (options.guard target.guards bare).evaluate record = .ok b ∧
      (Predicate.disjunction terms).evaluate record = .ok b := by
  have hnone : Answers ((Predicate.chain .or terms).evaluate record) (∃ item ∈ items, False) := by
    apply chain_answers .or hterms
    intro item q hq
    obtain ⟨equal, -, rfl⟩ := equality_ok htarget hq
    exact guard_blocked equal hg blocked
  have hfalse : (∃ item ∈ items, False) ↔ False := by simp
  exact (guard_blocked bare hg blocked).agree
    (Predicate.connect_answers .or (hnone.congr hfalse))

/-- Behind a null that is not guarded against both have the error of the left side. -/
theorem memberOf_unread (hg : options.nullGuards = false)
    (htarget : left.target catalog schema = .ok target) {e : EvalError}
    (read : target.operand.read record = .error e) (hvalue : ∃ item ∈ items, item ≠ .null)
    (hbare : membership catalog options target ignoreCase items = .ok bare)
    (hterms : compileAll catalog options schema (items.map (equality left ignoreCase)) =
      .ok terms) :
    (options.guard target.guards bare).evaluate record = .error e ∧
      (Predicate.disjunction terms).evaluate record = .error e := by
  constructor
  · rw [guard_off hg]
    exact membership_unread read hvalue hbare
  · have each : ∀ item p, compile catalog options schema (equality left ignoreCase item) = .ok p →
        p.FitsUnder .or ∧ p.evaluate record = .error e := by
      intro item p hp
      obtain ⟨equal, hequal, rfl⟩ := equality_ok htarget hp
      rw [guard_off hg]
      exact equality_unread htarget read hequal
    apply evaluate_disjunction_of_errors
    · -- there is an equality for each item
      rintro rfl
      obtain ⟨item, hitem, -⟩ := hvalue
      obtain ⟨first, rest, rfl⟩ := List.exists_cons_of_ne_nil (List.ne_nil_of_mem hitem)
      obtain ⟨_, _, -, -, h⟩ := compileAll_cons hterms
      cases h
    · intro term hterm
      obtain ⟨node, hnode, hp⟩ := (compileAll_members hterms).2 term hterm
      obtain ⟨item, -, rfl⟩ := List.mem_map.mp hnode
      exact each item term hp

/-- **The two filters on a conforming record.** -/
theorem evaluate_memberOf {p : Predicate}
    (hp : compile catalog options schema (memberOf left ignoreCase items) = .ok p)
    (hterms : compileAll catalog options schema (items.map (equality left ignoreCase)) =
      .ok terms)
    (hr : record.Conforms catalog schema) :
    (options.nullGuards = true → ∃ b, p.evaluate record = .ok b ∧
      (Predicate.disjunction terms).evaluate record = .ok b) ∧
    ((∃ item ∈ items, item ≠ .null) →
      p.evaluate record = (Predicate.disjunction terms).evaluate record) := by
  obtain ⟨target, bare, htarget, -, hbare, rfl⟩ := compileComparison_ok hp
  rcases target_reach htarget hr with ⟨v, read, hv, clear⟩ | ⟨⟨e, read⟩, blocked⟩
  · obtain ⟨b, hb, hb'⟩ := memberOf_read htarget read hv clear hbare hterms
    exact ⟨fun _ => ⟨b, hb, hb'⟩, fun _ => hb.trans hb'.symm⟩
  · cases hg : options.nullGuards with
    | true =>
        obtain ⟨b, hb, hb'⟩ := memberOf_blocked hg htarget blocked hterms
        exact ⟨fun _ => ⟨b, hb, hb'⟩, fun _ => hb.trans hb'.symm⟩
    | false =>
        refine ⟨fun h => Bool.noConfusion h, ?_⟩
        intro hvalue
        obtain ⟨he, he'⟩ := memberOf_unread hg htarget read hvalue hbare hterms
        exact he.trans he'.symm

end Law

theorem compile_equalsOne {terms : List Predicate}
    (hterms : compileAll catalog options schema (items.map (equality left ignoreCase)) =
      .ok terms) :
    compile catalog options schema (equalsOne left ignoreCase items) =
      .ok (.disjunction terms) := by
  rw [equalsOne, ← compile_eq_of_eqvGen (Node.regroups_join .or _), compile_logical_eq, hterms]
  rfl

/-- **Membership is the disjunction of equalities.** A filter `left in [i₁, …, iₖ]` compiles if and
only if each of the filters `left == iⱼ` does, and has the error of the first of them that does not.
If it compiles, then so does `left == i₁ || … || left == iₖ`; on a conforming record the two give
the same answer with null guards, and in any case the same answer or the same error if one of the
items is not null. A null among the items stands for `left == null`, whether or not the field may be
null. -/
theorem membership_disjunction (catalog : Catalog) (options : CompileOptions) (schema : Schema)
    (left : Subject) (ignoreCase : Bool) {items : List Literal} (hne : items ≠ [])
    (hcount : ∀ names, left = .count names → .null ∉ items) :
    ((∃ p, compile catalog options schema (memberOf left ignoreCase items) = .ok p) ↔
      ∀ item ∈ items, ∃ p, compile catalog options schema (equality left ignoreCase item) = .ok p) ∧
    (∀ before item after e, items = before ++ item :: after →
      (∀ earlier ∈ before,
        ∃ p, compile catalog options schema (equality left ignoreCase earlier) = .ok p) →
      compile catalog options schema (equality left ignoreCase item) = .error e →
      compile catalog options schema (memberOf left ignoreCase items) = .error e) ∧
    ∀ p, compile catalog options schema (memberOf left ignoreCase items) = .ok p →
      ∃ q, compile catalog options schema (equalsOne left ignoreCase items) = .ok q ∧
        ∀ record, record.Conforms catalog schema →
          (options.nullGuards = true →
            ∃ b, p.evaluate record = .ok b ∧ q.evaluate record = .ok b) ∧
          ((∃ item ∈ items, item ≠ .null) → p.evaluate record = q.evaluate record) := by
  obtain ⟨hok, herror⟩ := (@memberOf_alike catalog options schema left ignoreCase items hne
    hcount).verdict
  refine ⟨hok.trans ⟨?_, ?_⟩, ?_, ?_⟩
  · rintro ⟨terms, hterms⟩
    intro item hitem
    obtain ⟨p, -, hp⟩ := (compileAll_members hterms).1 _ (List.mem_map_of_mem hitem)
    exact ⟨p, hp⟩
  · intro heach
    exact exists_compileAll (List.forall_mem_map.mpr heach)
  · rintro before item after e rfl hbefore hitem
    apply (herror e).mpr
    rw [List.map_append, List.map_cons]
    exact compileAll_error (List.forall_mem_map.mpr hbefore) hitem
  · intro p hp
    obtain ⟨terms, hterms⟩ := hok.mp ⟨p, hp⟩
    exact ⟨.disjunction terms, compile_equalsOne hterms,
      fun record hr => evaluate_memberOf hp hterms hr⟩

/-- Someone who lives in Oslo, or nowhere in particular. -/
def osloOrNowhere : List Literal := [.string "OSLO", .null]

theorem membership_disjunction_oslo :
    osloOrNowhere ≠ [] ∧
    (∀ names, Subject.path ["home", "city"] = .count names → .null ∉ osloOrNowhere) ∧
    (∃ p q, compile people {} people.root (memberOf (.path ["home", "city"]) true osloOrNowhere) =
        .ok p ∧
      compile people {} people.root (equalsOne (.path ["home", "city"]) true osloOrNowhere) =
        .ok q ∧
      p.evaluate settler = .ok true ∧ q.evaluate settler = .ok true) ∧
    ∃ p q, compile people ⟨false, false⟩ people.root
        (memberOf (.path ["home", "city"]) true osloOrNowhere) = .ok p ∧
      compile people ⟨false, false⟩ people.root
        (equalsOne (.path ["home", "city"]) true osloOrNowhere) = .ok q ∧
      p.evaluate wanderer = .error (.nullReference "home") ∧
      q.evaluate wanderer = .error (.nullReference "home") := by
  have hne : osloOrNowhere ≠ [] := List.cons_ne_nil _ _
  have hcount : ∀ names, Subject.path ["home", "city"] = .count names → .null ∉ osloOrNowhere :=
    fun _ h => Subject.noConfusion h
  refine ⟨hne, hcount, ?_, ?_⟩
  · obtain ⟨-, -, hsame⟩ :=
      membership_disjunction people {} people.root (.path ["home", "city"]) true hne hcount
    obtain ⟨q, hq, hevaluate⟩ := hsame _ rfl
    obtain ⟨b, hb, hb'⟩ := (hevaluate settler settler_conforms).1 rfl
    refine ⟨_, q, rfl, hq, rfl, ?_⟩
    rw [hb']
    cases hb
    rfl
  · obtain ⟨-, -, hsame⟩ := membership_disjunction people ⟨false, false⟩ people.root
      (.path ["home", "city"]) true hne hcount
    obtain ⟨q, hq, hevaluate⟩ := hsame _ rfl
    have heq := (hevaluate wanderer wanderer_conforms).2
      ⟨.string "OSLO", List.mem_cons_self, fun h => Literal.noConfusion h⟩
    exact ⟨_, q, rfl, hq, rfl, heq.symm.trans rfl⟩

end RecordQuery.Filter
