import RecordQuery.Proofs.Calendar.Timestamp
import RecordQuery.Proofs.Predicate.Connectives
import RecordQuery.Proofs.Schema.Lookup

/-!
# `Proofs.Predicate.Typing` — predicates that fit a schema

A predicate is **well typed** for a schema if all of its paths lead to fields, its operators suit the
fields, and its values are of their types; the tests inside a quantifier are typed for the schema of
the elements. On a conforming record such a predicate has an answer unless a null is in its way.

## Contents
- `Scalar.IsValueOf`, `Operand.HasType`, `Predicate.WellTyped`: the typing of predicates.
- `WellTyped.connect`, `WellTyped.negate`: the builders keep it.
- `Predicate.Reaches`, `Predicate.Settles`: the records that a test comes to, and a test that ends
  with an answer or at a null on one of them.
- `WellTyped.settles`: the test of a well-typed predicate does.
-/

namespace RecordQuery

open RecordQuery.Filter (Connective)

/-! ## Typing -/

/-- The scalar is a value of the type in the very form that the type has: a number of the declared
    kind, and finite; a member with the name of its place. -/
def Scalar.IsValueOf : FieldType → Scalar → Prop
  | .bool, .bool _ => True
  | .int, .number (.int _) => True
  | .uint, .number (.uint _) => True
  | .float, .number (.float x) => x.isFinite = true
  | .string, .string _ => True
  | .timestamp, .timestamp t => t.IsRepresentable
  | .uuid, .uuid _ => True
  | .enum variants, .enum m => variants[m.ordinal]? = some m.name
  | _, _ => False

/-- The operand leads to a scalar field of the type, or it counts the elements of a list. -/
inductive Operand.HasType (catalog : Catalog) (schema : Schema) : Operand → FieldType → Prop
  | field {path : Path} {field : Field} (at_end : catalog.fieldAt? schema path = some field)
      (scalar : field.type.isScalar = true) : HasType catalog schema (.field path) field.type
  | count {path : Path} {field : Field} {element : FieldType}
      (at_end : catalog.fieldAt? schema path = some field) (list : field.type = .list element) :
      HasType catalog schema (.count path) .uint

/-- The predicate fits the records of the schema. -/
inductive Predicate.WellTyped (catalog : Catalog) : Schema → Predicate → Prop
  | const {schema : Schema} (b : Bool) : WellTyped catalog schema (.const b)
  | and {schema : Schema} {terms : List Predicate}
      (typed : ∀ term ∈ terms, WellTyped catalog schema term) :
      WellTyped catalog schema (.and terms)
  | or {schema : Schema} {terms : List Predicate}
      (typed : ∀ term ∈ terms, WellTyped catalog schema term) :
      WellTyped catalog schema (.or terms)
  | not {schema : Schema} {inner : Predicate} (typed : WellTyped catalog schema inner) :
      WellTyped catalog schema (.not inner)
  | isNull {schema : Schema} {path : Path} {field : Field}
      (at_end : catalog.fieldAt? schema path = some field) :
      WellTyped catalog schema (.isNull path)
  | compare {schema : Schema} {operand : Operand} {op : Operator} {bound : Bound}
      {ignoreCase : Bool} {type : FieldType} (left : operand.HasType catalog schema type)
      (binary : op ≠ .oneOf) (supports : op.supports type = true)
      (value : bound.value.IsValueOf type) (text : ignoreCase = true → type = .string) :
      WellTyped catalog schema (.compare operand op bound ignoreCase)
  | oneOf {schema : Schema} {operand : Operand} {bounds : List Bound} {ignoreCase : Bool}
      {type : FieldType} (left : operand.HasType catalog schema type) (some : bounds ≠ [])
      (values : ∀ bound ∈ bounds, bound.value.IsValueOf type)
      (text : ignoreCase = true → type = .string) :
      WellTyped catalog schema (.oneOf operand bounds ignoreCase)
  | nonempty {schema : Schema} {path : Path} {field : Field} {element : FieldType}
      (at_end : catalog.fieldAt? schema path = some field) (list : field.type = .list element) :
      WellTyped catalog schema (.nonempty path)
  | any {schema : Schema} {path : Path} {field : Field} {place : Nat} {inner : Predicate}
      (at_end : catalog.fieldAt? schema path = some field)
      (list : field.type = .list (.record place))
      (typed : WellTyped catalog (catalog.schema place) inner) :
      WellTyped catalog schema (.any path inner)
  | all {schema : Schema} {path : Path} {field : Field} {place : Nat} {inner : Predicate}
      (at_end : catalog.fieldAt? schema path = some field)
      (list : field.type = .list (.record place))
      (typed : WellTyped catalog (catalog.schema place) inner) :
      WellTyped catalog schema (.all path inner)

variable {catalog : Catalog} {schema : Schema} {record : Record}

/-! ## Builders -/

namespace Predicate

variable {connective : Connective} {terms : List Predicate}

theorem WellTyped.chain (connective : Connective)
    (h : ∀ term ∈ terms, WellTyped catalog schema term) :
    WellTyped catalog schema (chain connective terms) := by
  cases connective with
  | and => exact .and h
  | or => exact .or h

theorem WellTyped.of_chain (h : WellTyped catalog schema (Predicate.chain connective terms)) :
    ∀ term ∈ terms, WellTyped catalog schema term := by
  cases connective with
  | and => cases h with | and typed => exact typed
  | or => cases h with | or typed => exact typed

/-- What a typed term adds to a chain is typed. -/
theorem WellTyped.share {term : Predicate} {front : List Predicate}
    (h : WellTyped catalog schema term) (hshare : share? connective term = some front) :
    ∀ part ∈ front, WellTyped catalog schema part := by
  rcases share_cases hshare with ⟨-, rfl⟩ | rfl | rfl
  · exact fun part hpart => absurd hpart List.not_mem_nil
  · exact h.of_chain
  · exact List.forall_mem_singleton.mpr h

/-- **A connective built from typed terms is typed.** -/
theorem WellTyped.connect (connective : Connective)
    (h : ∀ term ∈ terms, WellTyped catalog schema term) :
    WellTyped catalog schema (connect connective terms) := by
  rw [connect_eq]
  cases hflat : collect? connective terms with
  | none => exact .const _
  | some flat =>
      have hflat := forall_mem_collect hflat fun term ht _ hshare => (h term ht).share hshare
      match flat with
      | [] => exact .const _
      | [only] => exact hflat only List.mem_cons_self
      | first :: second :: rest => exact .chain connective hflat

theorem WellTyped.negate {p : Predicate} (h : WellTyped catalog schema p) :
    WellTyped catalog schema p.negate := by
  cases h with
  | not typed => exact typed
  | const b => exact .const !b
  | and typed => exact .not (.and typed)
  | or typed => exact .not (.or typed)
  | isNull at_end => exact .not (.isNull at_end)
  | compare left binary supports value text => exact .not (.compare left binary supports value text)
  | oneOf left some values text => exact .not (.oneOf left some values text)
  | nonempty at_end list => exact .not (.nonempty at_end list)
  | any at_end list typed => exact .not (.any at_end list typed)
  | all at_end list typed => exact .not (.all at_end list typed)

/-- Null tests in front of a typed predicate, under a connective. -/
theorem WellTyped.connect_behind {paths : List Path} {p : Predicate} (connective : Connective)
    (hpaths : ∀ path ∈ paths, ∃ field, catalog.fieldAt? schema path = some field)
    (h : WellTyped catalog schema p) :
    WellTyped catalog schema
      (Predicate.connect connective (paths.map (nullTest connective) ++ [p])) := by
  refine .connect connective (List.forall_mem_append.mpr ⟨?_, List.forall_mem_singleton.mpr h⟩)
  refine List.forall_mem_map.mpr fun path hpath => ?_
  obtain ⟨field, hfield⟩ := hpaths path hpath
  cases connective with
  | and => exact (WellTyped.isNull hfield).negate
  | or => exact .isNull hfield

end Predicate

/-! ## Evaluation -/

/-- What reading the elements of a list gives: a list that is null is a null in the way itself. -/
theorem Catalog.readList_or_blocked {path : Path} {field : Field} {element : FieldType}
    (at_end : catalog.fieldAt? schema path = some field) (list : field.type = .list element)
    (hr : record.Conforms catalog schema) :
    (∃ items, path.elements? record = some items ∧ path.readList record = .ok items ∧
      items.length < 2 ^ 64 ∧ ∀ item ∈ items, item.HasType catalog element) ∨
      ∃ q : Path, q.NullAt catalog schema record ∧ path.elements? record = none ∧
        path.readList record = .error (.nullReference q.text) := by
  rcases Catalog.read_or_blocked at_end hr with ⟨v, hadmits, hterminal, hread⟩ |
      ⟨q, hnull, hterminal, hread⟩
  · rcases hadmits with ⟨hnull, rfl⟩ | htype
    · refine Or.inr ⟨path, ⟨field, at_end, hnull, hread⟩, ?_, ?_⟩
      · simp only [Path.elements?, hterminal]
      · simp only [Path.readList, hread]
    · rw [list] at htype
      obtain ⟨items, rfl, short, hitems⟩ := htype.exists_list
      refine Or.inl ⟨items, ?_, ?_, short, hitems⟩
      · simp only [Path.elements?, hterminal]
      · simp only [Path.readList, hread]
  · refine Or.inr ⟨q, hnull, ?_, ?_⟩
    · simp only [Path.elements?, hterminal]
    · simp only [Path.readList, hread]

theorem Operand.HasType.read_or_blocked {operand : Operand} {type : FieldType}
    (h : operand.HasType catalog schema type) (hr : record.Conforms catalog schema) :
    (∃ v, operand.read record = .ok v) ∨ ∃ q : Path, q.NullAt catalog schema record ∧
      operand.read record = .error (.nullReference q.text) := by
  cases h with
  | field at_end _ =>
      rcases Catalog.read_or_blocked at_end hr with ⟨v, -, -, hread⟩ | ⟨q, hnull, -, hread⟩
      · exact Or.inl ⟨v, hread⟩
      · exact Or.inr ⟨q, hnull, hread⟩
  | count at_end list =>
      rcases Catalog.readList_or_blocked at_end list hr with ⟨items, -, hread, -, -⟩ |
          ⟨q, hnull, -, hread⟩
      · refine Or.inl ⟨.scalar (.number (.uint (.ofNat items.length))), ?_⟩
        simp only [Operand.read, hread, Except.map]
      · refine Or.inr ⟨q, hnull, ?_⟩
        simp only [Operand.read, hread, Except.map]

/-- Testing a predicate on a record of a schema comes to a record of a schema: to itself, or to an
    element of a collection. The terms and the elements before it did not decide. -/
inductive Predicate.Reaches (catalog : Catalog) :
    Schema → Record → Predicate → Schema → Record → Prop
  | here {schema : Schema} {record : Record} {p : Predicate} :
      Reaches catalog schema record p schema record
  | and {schema inner : Schema} {record fields : Record} {front back : List Predicate}
      {term : Predicate} (before : ∀ earlier ∈ front, earlier.evaluate record = .ok true)
      (next : Reaches catalog schema record term inner fields) :
      Reaches catalog schema record (.and (front ++ term :: back)) inner fields
  | or {schema inner : Schema} {record fields : Record} {front back : List Predicate}
      {term : Predicate} (before : ∀ earlier ∈ front, earlier.evaluate record = .ok false)
      (next : Reaches catalog schema record term inner fields) :
      Reaches catalog schema record (.or (front ++ term :: back)) inner fields
  | not {schema inner : Schema} {record fields : Record} {p : Predicate}
      (next : Reaches catalog schema record p inner fields) :
      Reaches catalog schema record (.not p) inner fields
  | any {schema element inner : Schema} {record item fields : Record} {path : Path}
      {front back : List Value} {p : Predicate}
      (elements : path.elements? record = some (front ++ .record item :: back))
      (of_schema : catalog.elementSchemaAt? schema path = some element)
      (before : ∀ earlier, .record earlier ∈ front → p.evaluate earlier = .ok false)
      (next : Reaches catalog element item p inner fields) :
      Reaches catalog schema record (.any path p) inner fields
  | all {schema element inner : Schema} {record item fields : Record} {path : Path}
      {front back : List Value} {p : Predicate}
      (elements : path.elements? record = some (front ++ .record item :: back))
      (of_schema : catalog.elementSchemaAt? schema path = some element)
      (before : ∀ earlier, .record earlier ∈ front → p.evaluate earlier = .ok true)
      (next : Reaches catalog element item p inner fields) :
      Reaches catalog schema record (.all path p) inner fields

/-- The path leads to a nullable field that is null, on a record that the test comes to. -/
def Predicate.MeetsNull (catalog : Catalog) (schema : Schema) (record : Record) (p : Predicate)
    (path : Path) : Prop :=
  ∃ inner fields, p.Reaches catalog schema record inner fields ∧ path.NullAt catalog inner fields

/-- The test ends with an answer, or at a null that it meets and names. -/
def Predicate.Settles (catalog : Catalog) (schema : Schema) (record : Record) (p : Predicate)
    (result : Except EvalError Bool) : Prop :=
  (∃ b, result = .ok b) ∨
    ∃ path, p.MeetsNull catalog schema record path ∧ result = .error (.nullReference path.text)

namespace Predicate

theorem MeetsNull.here {p : Predicate} {path : Path} (h : path.NullAt catalog schema record) :
    p.MeetsNull catalog schema record path :=
  ⟨schema, record, .here, h⟩

theorem Reaches.chain {inner : Schema} {fields : Record} {front back : List Predicate}
    {term : Predicate} (connective : Connective)
    (before : ∀ earlier ∈ front, earlier.evaluate record = .ok connective.neutral)
    (next : Reaches catalog schema record term inner fields) :
    Reaches catalog schema record (chain connective (front ++ term :: back)) inner fields := by
  cases connective with
  | and => exact .and before next
  | or => exact .or before next

theorem Reaches.quantified {element inner : Schema} {item fields : Record} {path : Path}
    {front back : List Record} {p : Predicate} (connective : Connective)
    (elements : path.elements? record = some ((front ++ item :: back).map .record))
    (of_schema : catalog.elementSchemaAt? schema path = some element)
    (before : ∀ earlier ∈ front, p.evaluate earlier = .ok connective.neutral)
    (next : Reaches catalog element item p inner fields) :
    Reaches catalog schema record (quantified connective path p) inner fields := by
  rw [List.map_append, List.map_cons] at elements
  have before : ∀ earlier, .record earlier ∈ front.map Value.record →
      p.evaluate earlier = .ok connective.neutral := by
    intro earlier hmem
    obtain ⟨_, hearlier, heq⟩ := List.mem_map.mp hmem
    cases heq
    exact before earlier hearlier
  cases connective with
  | and => exact .all elements of_schema before next
  | or => exact .any elements of_schema before next

/-- **A chain settles if its terms do**: its verdict is an answer, or the error of a term that is
    reached. -/
theorem settles_chain {terms : List Predicate} (connective : Connective)
    (h : ∀ term ∈ terms, term.Settles catalog schema record (term.evaluate record)) :
    (chain connective terms).Settles catalog schema record
      ((chain connective terms).evaluate record) := by
  rw [evaluate_chain]
  rcases Connective.verdict_cases connective (terms.map fun term => term.evaluate record) with
    hok | ⟨results, e, _, hterms, hresults, he⟩
  · exact Or.inl hok
  · -- the terms split at the one with the error
    obtain ⟨front, _, rfl, rfl, hrest⟩ := List.map_eq_append_iff.mp hterms
    obtain ⟨term, back, rfl, hterm, -⟩ := List.map_eq_cons_iff.mp hrest
    have before := List.forall_mem_map.mp hresults
    rcases h term (List.mem_append_right front List.mem_cons_self) with
      ⟨b, hb⟩ | ⟨path, ⟨inner, fields, hreach, hnull⟩, hpath⟩
    · cases hterm.symm.trans hb
    · cases hterm.symm.trans hpath
      exact Or.inr ⟨path, ⟨inner, fields, .chain connective before hreach, hnull⟩, he⟩

/-- **A quantifier settles if the tests of the elements do.** -/
theorem settles_quantified {place : Nat} {path : Path} {field : Field} {inner : Predicate}
    (connective : Connective) (at_end : catalog.fieldAt? schema path = some field)
    (list : field.type = .list (.record place)) (hr : record.Conforms catalog schema)
    (h : ∀ fields : Record, fields.Conforms catalog (catalog.schema place) →
      inner.Settles catalog (catalog.schema place) fields (inner.evaluate fields)) :
    (quantified connective path inner).Settles catalog schema record
      ((quantified connective path inner).evaluate record) := by
  rcases Catalog.readList_or_blocked at_end list hr with
      ⟨items, elements, hread, -, typed⟩ | ⟨q, hnull, -, hread⟩
  · obtain ⟨records, rfl, hrecords⟩ := Catalog.exists_records typed
    rw [evaluate_quantified connective inner hread]
    rcases Connective.verdict_cases connective (records.map fun fields => inner.evaluate fields)
      with hok | ⟨results, e, _, hitems, hresults, he⟩
    · exact Or.inl hok
    · obtain ⟨front, _, rfl, rfl, hrest⟩ := List.map_eq_append_iff.mp hitems
      obtain ⟨item, back, rfl, hitem, -⟩ := List.map_eq_cons_iff.mp hrest
      have hschema := Catalog.elementSchemaAt?_of_fieldAt? at_end list
      have before := List.forall_mem_map.mp hresults
      have hconf := hrecords item (List.mem_append_right front List.mem_cons_self)
      rcases h item hconf with ⟨b, hb⟩ | ⟨q, ⟨schema', fields, hreach, hnull⟩, hq⟩
      · cases hitem.symm.trans hb
      · cases hitem.symm.trans hq
        exact Or.inr ⟨q, ⟨schema', fields, .quantified connective elements hschema before hreach,
          hnull⟩, he⟩
  · refine Or.inr ⟨q, .here hnull, ?_⟩
    rw [evaluate_quantified_eq, hread]
    rfl

/-- A test of what is read settles if reading does. -/
theorem settles_map {α : Type} {p : Predicate} {read : Except EvalError α} (test : α → Bool)
    (h : (∃ v, read = .ok v) ∨ ∃ q : Path, q.NullAt catalog schema record ∧
      read = .error (.nullReference q.text)) :
    p.Settles catalog schema record (read.map test) := by
  rcases h with ⟨v, rfl⟩ | ⟨q, hnull, rfl⟩
  · exact Or.inl ⟨test v, rfl⟩
  · exact Or.inr ⟨q, .here hnull, rfl⟩

/-- **The test of a well-typed predicate settles** on a conforming record: it ends with an answer, or
    at a nullable field that is null. By induction on the typing, for every record. -/
theorem WellTyped.settles {p : Predicate} (h : p.WellTyped catalog schema)
    (hr : record.Conforms catalog schema) :
    p.Settles catalog schema record (p.evaluate record) := by
  induction h generalizing record with
  | const b => exact Or.inl ⟨b, rfl⟩
  | and _ ih => exact settles_chain .and fun term ht => ih term ht hr
  | or _ ih => exact settles_chain .or fun term ht => ih term ht hr
  | not _ ih =>
      rw [evaluate]
      rcases ih hr with ⟨b, hb⟩ | ⟨path, ⟨inner, fields, hreach, hnull⟩, he⟩
      · exact Or.inl ⟨!b, by rw [hb]; rfl⟩
      · exact Or.inr ⟨path, ⟨inner, fields, .not hreach, hnull⟩, by rw [he]; rfl⟩
  | isNull at_end =>
      rw [evaluate]
      apply settles_map
      rcases Catalog.read_or_blocked at_end hr with ⟨v, -, -, hread⟩ | ⟨q, hnull, -, hread⟩
      · exact Or.inl ⟨v, hread⟩
      · exact Or.inr ⟨q, hnull, hread⟩
  | compare left =>
      rw [evaluate]
      exact settles_map _ (left.read_or_blocked hr)
  | oneOf left =>
      rw [evaluate]
      exact settles_map _ (left.read_or_blocked hr)
  | nonempty at_end list =>
      rw [evaluate]
      apply settles_map
      rcases Catalog.readList_or_blocked at_end list hr with
          ⟨items, -, hread, -, -⟩ | ⟨q, hnull, -, hread⟩
      · exact Or.inl ⟨items, hread⟩
      · exact Or.inr ⟨q, hnull, hread⟩
  | any at_end list _ ih => exact settles_quantified .or at_end list hr fun _ hfields => ih hfields
  | all at_end list _ ih => exact settles_quantified .and at_end list hr fun _ hfields => ih hfields

end Predicate

end RecordQuery
