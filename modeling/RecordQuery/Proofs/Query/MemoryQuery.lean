import RecordQuery.Proofs.Ordering.Sorting
import RecordQuery.Query.MemoryQuery

/-!
# `Proofs.Query.MemoryQuery` — what a query over a list gives

A query whose filters can all be tested gives the items that meet them, sorted and cut off
(`run_eq`). Filters add up (`meets_filter`), and sorting by an ordering replaces the keys
(`orderByAll?_eq`).
-/

namespace RecordQuery.MemoryQuery

variable {α : Type} {query : MemoryQuery α}

/-- The filters can be tested on every item. -/
def Testable (query : MemoryQuery α) : Prop :=
  ∀ item ∈ query.items, ∃ b, query.meets item = .ok b

/-- Whether an item meets all filters, if that can be tested. -/
def keeps (query : MemoryQuery α) (item : α) : Bool :=
  match query.meets item with
  | .ok b => b
  | .error _ => false

/-- The items that meet all filters, as they stand. -/
def matching (query : MemoryQuery α) : List α := query.items.filter query.keeps

theorem mem_matching {item : α} (h : item ∈ query.matching) : item ∈ query.items :=
  (List.mem_filter.mp h).1

/-! ## Steps -/

theorem foldl_thenBy (keys : SortOrder) (query : MemoryQuery α) :
    keys.foldl thenBy query = { query with keys := query.keys ++ keys } := by
  induction keys generalizing query with
  | nil => rw [List.foldl_nil, List.append_nil]
  | cons key keys ih =>
      rw [List.foldl_cons, ih]
      simp only [thenBy, List.append_assoc, List.singleton_append]

/-- Sorting by an ordering replaces the keys. -/
theorem orderByAll?_eq {order : SortOrder} (h : order ≠ []) :
    query.orderByAll? order = some { query with keys := order } := by
  cases order with
  | nil => exact absurd rfl h
  | cons key keys =>
      rw [orderByAll?, foldl_thenBy]
      rfl

theorem meetsAll_append (front : List Predicate) (p : Predicate) (record : Record) :
    meetsAll (front ++ [p]) record =
      (meetsAll front record).bind fun b => if b then p.evaluate record else .ok false := by
  induction front with
  | nil =>
      show (p.evaluate record).bind _ = p.evaluate record
      cases p.evaluate record with
      | error e => rfl
      | ok b => cases b <;> rfl
  | cons first front ih =>
      rw [List.cons_append, meetsAll, meetsAll]
      cases first.evaluate record with
      | error e => rfl
      | ok b =>
          cases b
          · rfl
          · exact ih

/-- Another filter keeps those of the items that meet it. -/
theorem meets_filter {p : Predicate} {item : α} {kept past : Bool} (hkept : query.meets item = .ok kept)
    (hpast : p.evaluate (query.view item) = .ok past) :
    (query.filter p).meets item = .ok (kept && past) := by
  show meetsAll (query.predicates ++ [p]) (query.view item) = _
  have hkept : meetsAll query.predicates (query.view item) = .ok kept := hkept
  rw [meetsAll_append, hkept]
  cases kept
  · rfl
  · exact hpast

/-! ## Running -/

theorem selectFrom_eq {items : List α} {keep : α → Bool}
    (h : ∀ item ∈ items, query.meets item = .ok (keep item)) :
    query.selectFrom items = .ok (items.filter keep) := by
  induction items with
  | nil => rfl
  | cons item items ih =>
      have ih := ih fun item hi => h item (List.mem_cons_of_mem _ hi)
      simp only [selectFrom, h item List.mem_cons_self, ih, bind, Except.bind, List.filter_cons]

/-- **A query gives the items that meet its filters**, sorted by its keys and cut off at its
    limit. -/
theorem run_eq {keep : α → Bool} (h : ∀ item ∈ query.items, query.meets item = .ok (keep item)) :
    query.run = .ok (match query.limit with
      | none => SortOrder.stableSort query.compareItems (query.items.filter keep)
      | some n => (SortOrder.stableSort query.compareItems (query.items.filter keep)).take n) := by
  cases hlimit : query.limit with
  | none => simp only [run, selectFrom_eq h, bind, Except.bind, hlimit]
  | some n => simp only [run, selectFrom_eq h, bind, Except.bind, hlimit]

theorem Testable.meets_eq (h : query.Testable) {item : α} (hi : item ∈ query.items) :
    query.meets item = .ok (query.keeps item) := by
  obtain ⟨b, hb⟩ := h item hi
  rw [keeps, hb]

/-- A query looks at its filters by testing items. -/
theorem selectFrom_congr {other : MemoryQuery α} (h : ∀ item, query.meets item = other.meets item)
    (items : List α) : query.selectFrom items = other.selectFrom items := by
  induction items with
  | nil => rfl
  | cons item items ih => rw [selectFrom, selectFrom, h item, ih]

/-- Another filter counts for what it says about records. -/
theorem run_filter_congr {p q : Predicate} (h : ∀ record, p.evaluate record = q.evaluate record)
    (count : Nat) : ((query.filter p).take count).run = ((query.filter q).take count).run := by
  have hmeets (item : α) :
      ((query.filter p).take count).meets item = ((query.filter q).take count).meets item := by
    show meetsAll (query.predicates ++ [p]) _ = meetsAll (query.predicates ++ [q]) _
    rw [meetsAll_append, meetsAll_append, h]
    rfl
  unfold run
  rw [selectFrom_congr hmeets]
  rfl

/-- A query that can be tested sorts its matching items. -/
theorem Testable.run_eq (h : query.Testable) : query.run = .ok (match query.limit with
    | none => SortOrder.stableSort query.compareItems query.matching
    | some n => (SortOrder.stableSort query.compareItems query.matching).take n) :=
  MemoryQuery.run_eq fun _ hi => h.meets_eq hi

end RecordQuery.MemoryQuery
