import RecordQuery.Page.Paginator
import RecordQuery.Proofs.Cursor.RoundTrip
import RecordQuery.Proofs.Ordering.Seek
import RecordQuery.Proofs.Query.MemoryQuery

/-!
# `Proofs.Page.Law` — a page is a window of the sorted list

Every request is one query: sorted, limited to the records past the cursor, and cut off one item
after the page. This module follows a request through `prepare`, the run and `assemble`.

## Contents
- `Pageable`: the sources that the law is about.
- `MemoryQuery.sorted`: the matching items in order. On a pageable source items are compared by a
  rank (`Pageable.exists_rank`), so that the facts about sorting apply.
- `prepare_eq`, `run_start`, `run_past`: the query of a request and the items it gives.
- `Page.IsForward`, `Page.IsBackward`: what a page is; `assemble_forward`, `assemble_backward`.
- `paginate_law`: the law, for all three positions.
-/

namespace RecordQuery

open Std

variable {α : Type}

/-! ## Sources -/

/-- The order of two items under an ordering. -/
def MemoryQuery.compareBy (source : MemoryQuery α) (order : SortOrder) (a b : α) : Ordering :=
  order.compare (source.view a) (source.view b)

/-- The matching items, sorted. -/
def MemoryQuery.sorted (source : MemoryQuery α) (order : SortOrder) : List α :=
  SortOrder.stableSort (source.compareBy order) source.matching

/-- A source without a limit that can be paged by an ordering: the filters can be tested, the
    records conform, and what they have for the keys is exact. -/
structure Pageable (catalog : Catalog) (schema : Schema) (order : SortOrder)
    (source : MemoryQuery α) : Prop where
  nonempty : order ≠ []
  resolved : order.Resolved catalog schema
  unlimited : source.limit = none
  testable : source.Testable
  conforms : ∀ item ∈ source.items, (source.view item).Conforms catalog schema
  exact : ∀ item ∈ source.items, order.Exact (source.view item)
  /-- A list has no more items than can be counted. -/
  countable : source.items.length ≤ greatestCount

variable {catalog : Catalog} {schema : Schema} {order : SortOrder} {source : MemoryQuery α}

namespace Pageable

theorem reads (h : Pageable catalog schema order source) {item : α} (hi : item ∈ source.items) :
    ∀ key ∈ order, ∃ s, SortKey.Reads catalog (source.view item) key s :=
  h.resolved.reads (h.conforms item hi) (h.exact item hi).avoidsNan

/-- What an item has for the keys is a tuple of their types. -/
theorem tuple (h : Pageable catalog schema order source) {item : α} (hi : item ∈ source.items) :
    KeyType.Tuple order.keyTypes (order.keyValues (source.view item)) :=
  SortOrder.tuple_keyValues (h.reads hi) (h.exact item hi)

theorem compareBy_eq (h : Pageable catalog schema order source) {a b : α} (ha : a ∈ source.items)
    (hb : b ∈ source.items) : source.compareBy order a b =
      order.compareTuples (order.keyValues (source.view a)) (order.keyValues (source.view b)) :=
  SortOrder.compare_eq_compareTuples (h.reads ha) (h.reads hb)

/-- **Items are compared by a rank**, and so are an item and a tuple of the key types. -/
theorem exists_rank (h : Pageable catalog schema order source) :
    ∃ (β : Type) (_ : Ord β) (_ : TransOrd β) (rank : α → β) (place : List Scalar → β),
      (∀ a ∈ source.items, ∀ b ∈ source.items,
        source.compareBy order a b = compareOn rank a b) ∧
      ∀ a ∈ source.items, ∀ c, KeyType.Tuple order.keyTypes c →
        order.compareTuples (order.keyValues (source.view a)) c = compare (rank a) (place c) := by
  obtain ⟨β, hord, htrans, place, hplace⟩ := order.exists_rank
  refine ⟨β, hord, htrans, fun a => place (order.keyValues (source.view a)), place,
    ?_, fun a ha c hc => hplace _ _ (h.tuple ha) hc⟩
  intro a ha b hb
  rw [h.compareBy_eq ha hb]
  exact hplace _ _ (h.tuple ha) (h.tuple hb)

end Pageable

theorem Pageable.exists_rank_matching (h : Pageable catalog schema order source) :
    ∃ (β : Type) (_ : Ord β) (_ : TransOrd β) (rank : α → β),
      ∀ a ∈ source.matching, ∀ b ∈ source.matching,
        source.compareBy order a b = compareOn rank a b := by
  obtain ⟨β, hord, htrans, rank, place, hrank, -⟩ := h.exists_rank
  exact ⟨β, hord, htrans, rank, fun a ha b hb =>
    hrank a (MemoryQuery.mem_matching ha) b (MemoryQuery.mem_matching hb)⟩

/-! ## Sorted sources -/

namespace Pageable

/-- The sorted items are a stable sort of the matching ones. -/
theorem isStableSort (h : Pageable catalog schema order source) :
    SortOrder.IsStableSort (source.compareBy order) source.matching (source.sorted order) := by
  obtain ⟨β, _, _, rank, hcongr⟩ := h.exists_rank_matching
  rw [MemoryQuery.sorted, SortOrder.stableSort_congr hcongr]
  exact (SortOrder.isStableSort_stableSort _).congr hcongr

theorem mem_items (h : Pageable catalog schema order source) {item : α}
    (hi : item ∈ source.sorted order) : item ∈ source.items :=
  MemoryQuery.mem_matching (h.isStableSort.perm.mem_iff.mp hi)

/-- Sorting what a filter keeps is filtering the sorted items. -/
theorem sorted_filter (h : Pageable catalog schema order source) (past : α → Bool) :
    SortOrder.stableSort (source.compareBy order) (source.matching.filter past) =
      (source.sorted order).filter past := by
  obtain ⟨β, _, _, rank, hcongr⟩ := h.exists_rank_matching
  rw [MemoryQuery.sorted, SortOrder.stableSort_congr hcongr,
    SortOrder.stableSort_congr fun a ha b hb =>
      hcongr a (List.mem_filter.mp ha).1 b (List.mem_filter.mp hb).1]
  exact SortOrder.stableSort_filter past _

/-- No two of the matching items tie on all keys. -/
def Untied (order : SortOrder) (source : MemoryQuery α) : Prop :=
  source.matching.Pairwise fun a b => source.compareBy order a b ≠ .eq

theorem compareBy_reversed (h : Pageable catalog schema order source) {a b : α}
    (ha : a ∈ source.items) (hb : b ∈ source.items) :
    source.compareBy order.reversed a b = source.compareBy order b a := by
  obtain ⟨β, _, _, rank, place, hrank, -⟩ := h.exists_rank
  have hswap : source.compareBy order.reversed a b = (source.compareBy order a b).swap :=
    order.compare_reversed _ _
  rw [hswap, hrank a ha b hb, hrank b hb a ha]
  exact OrientedCmp.eq_swap.symm

/-- Without ties, the reversed ordering lists the items from the end. -/
theorem sorted_reversed (h : Pageable catalog schema order source) (hties : Untied order source)
    (past : α → Bool) :
    SortOrder.stableSort (source.compareBy order.reversed) (source.matching.filter past) =
      ((source.sorted order).filter past).reverse := by
  obtain ⟨β, _, _, rank, place, hrank, -⟩ := h.exists_rank
  have hitems {a : α} (ha : a ∈ source.matching.filter past) : a ∈ source.items :=
    MemoryQuery.mem_matching (List.mem_filter.mp ha).1
  have huntied : (source.matching.filter past).Pairwise fun a b => compareOn rank a b ≠ .eq :=
    (List.Pairwise.filter past hties).imp_of_mem fun ha hb hne => by
      rw [← hrank _ (hitems ha) _ (hitems hb)]
      exact hne
  rw [← h.sorted_filter past,
    SortOrder.stableSort_congr fun a ha b hb => by
      rw [h.compareBy_reversed (hitems ha) (hitems hb), hrank b (hitems hb) a (hitems ha)],
    SortOrder.stableSort_opposite huntied,
    SortOrder.stableSort_congr fun a ha b hb => hrank a (hitems ha) b (hitems hb)]

end Pageable

/-! ## The query of a request -/

namespace Paginator

variable {paginator : Paginator} {size : Nat}

/-- The keys that a page is read by. -/
def effective (order : SortOrder) (position : Position) : SortOrder :=
  if position.isBackward then order.reversed else order

theorem effective_ne_nil (h : order ≠ []) (position : Position) :
    effective order position ≠ [] := by
  unfold effective
  split
  · exact fun hnil => h (List.map_eq_nil_iff.mp hnil)
  · exact h

/-- Once the cursor is dealt with, a request is cut off one item after the page. -/
theorem prepare_eq {position : Position} {query : MemoryQuery α} (hne : order ≠ [])
    (hsize : paginator.checkSize size = .ok ())
    (hpast : paginator.pastCursor catalog ⟨order, position⟩ (effective order position)
      { source with keys := effective order position } = .ok query) :
    paginator.prepare catalog source ⟨order, position⟩ size =
      .ok (query.take (min (size + 1) greatestCount)) := by
  have hkeys : source.orderByAll? (effective order position) =
      some { source with keys := effective order position } :=
    MemoryQuery.orderByAll?_eq (effective_ne_nil hne position)
  unfold effective at hkeys hpast
  simp only [prepare, hsize, bind, Except.bind, hkeys, hpast]

/-- A cursor becomes a seek. -/
theorem pastCursor_eq {position : Position} {token : String} {c : List Scalar} {p : Predicate}
    {keys : SortOrder} {query : MemoryQuery α} (hcursor : position.cursor? = some token)
    (hdecode : Cursor.decode catalog token order.keyTypes = .ok c)
    (hseek : Seek.predicate keys c paginator.parameterizeValues = .ok p) :
    paginator.pastCursor catalog ⟨order, position⟩ keys query = .ok (query.filter p) := by
  simp only [pastCursor, hcursor, hdecode, hseek, bind, Except.bind]

/-- **A request at the start** gives the first of the sorted items. -/
theorem run_start (h : Pageable catalog schema order source) (n : Nat) :
    ({ source with keys := order }.take n).run = .ok ((source.sorted order).take n) := by
  have hlimit : ({ source with keys := order }.take n).limit = some n := by
    simp only [MemoryQuery.take, h.unlimited]
  have hmeets : ∀ item ∈ source.items, ({ source with keys := order }.take n).meets item =
      .ok (source.keeps item) := fun item hi => h.testable.meets_eq hi
  have hrun := @MemoryQuery.run_eq α ({ source with keys := order }.take n) _ hmeets
  rw [hrun, hlimit]
  rfl

/-- **A request with a cursor** gives the first of the items past it, sorted by the keys. -/
theorem run_past (h : Pageable catalog schema order source) {p : Predicate} {past : α → Bool}
    (hp : ∀ item ∈ source.items, p.evaluate (source.view item) = .ok (past item))
    (keys : SortOrder) (n : Nat) :
    (({ source with keys := keys }.filter p).take n).run = .ok
      ((SortOrder.stableSort (source.compareBy keys) (source.matching.filter past)).take n) := by
  have hlimit : (({ source with keys := keys }.filter p).take n).limit = some n := by
    simp only [MemoryQuery.take, MemoryQuery.filter, h.unlimited]
  have hmeets : ∀ item ∈ source.items, (({ source with keys := keys }.filter p).take n).meets item =
      .ok (source.keeps item && past item) := fun item hi => by
    have hmeets : { source with keys := keys }.meets item = .ok (source.keeps item) :=
      h.testable.meets_eq hi
    exact MemoryQuery.meets_filter hmeets (hp item hi)
  have hitems : source.items.filter (fun item => source.keeps item && past item) =
      source.matching.filter past := by
    rw [MemoryQuery.matching, List.filter_filter]
    simp only [Bool.and_comm]
  rw [MemoryQuery.run_eq hmeets, hlimit]
  exact congrArg (fun items => Except.ok
    ((SortOrder.stableSort (source.compareBy keys) items).take n)) hitems

end Paginator

/-! ## Pages -/

/-- The cursors of a page are those of its first and its last item; an empty page has none. -/
def Page.Marks (page : Page α) (view : α → Record) (order : SortOrder) : Prop :=
  page.items.head?.map (fun item => Cursor.encode (order.keyValues (view item))) =
      page.startCursor.map .ok ∧
    page.items.getLast?.map (fun item => Cursor.encode (order.keyValues (view item))) =
      page.endCursor.map .ok

/-- The page has the first of the rows; another one follows if there are more rows. -/
structure Page.IsForward (page : Page α) (view : α → Record) (order : SortOrder) (rows : List α)
    (size : Nat) (anchored : Bool) : Prop where
  items : page.items = rows.take size
  hasNext : page.hasNextPage = decide (size < rows.length)
  hasPrevious : page.hasPreviousPage = (anchored && !page.items.isEmpty)
  marks : page.Marks view order

/-- The page has the last of the rows, if they are untied; another one precedes it if there are more
    rows. -/
structure Page.IsBackward (page : Page α) (view : α → Record) (order : SortOrder) (rows : List α)
    (size : Nat) (untied : Prop) : Prop where
  items : untied → page.items = rows.drop (rows.length - size)
  hasNext : page.hasNextPage = !page.items.isEmpty
  hasPrevious : page.hasPreviousPage = decide (size < rows.length)
  marks : page.Marks view order

namespace Paginator

variable {paginator : Paginator} {size : Nat}

theorem cursorOf_eq {view : α → Record} {items : List α} (item? : Option α)
    (htoken : ∀ item ∈ items, ∃ token, Cursor.encode (order.keyValues (view item)) = .ok token)
    (hmem : ∀ item, item? = some item → item ∈ items) :
    ∃ cursor, cursorOf view order item? = .ok cursor ∧
      item?.map (fun item => Cursor.encode (order.keyValues (view item))) = cursor.map .ok := by
  cases item? with
  | none => exact ⟨none, rfl, rfl⟩
  | some item =>
      obtain ⟨token, htoken⟩ := htoken item (hmem item rfl)
      exact ⟨some token, by simp only [cursorOf, htoken], by simp [htoken]⟩

/-- **A page is made of rows whose tuples have tokens**; its flags depend on the direction. -/
theorem assemble_eq {view : α → Record} {rows : List α} (position : Position) (size : Nat)
    (htoken : ∀ item ∈ rows, ∃ token, Cursor.encode (order.keyValues (view item)) = .ok token) :
    ∃ page, assemble view rows ⟨order, position⟩ size = .ok page ∧
      page.items = (if position.isBackward then (rows.take size).reverse else rows.take size) ∧
      (page.hasNextPage, page.hasPreviousPage) =
        (if page.items.isEmpty then (false, false)
        else if position.isBackward then (true, decide (size < rows.length))
        else (decide (size < rows.length), position.cursor?.isSome)) ∧
      page.Marks view order := by
  generalize hitems :
    (if position.isBackward then (rows.take size).reverse else rows.take size) = items
  have hmem : ∀ item ∈ items, item ∈ rows := by
    intro item hi
    rw [← hitems] at hi
    split at hi
    · exact List.mem_of_mem_take (List.mem_reverse.mp hi)
    · exact List.mem_of_mem_take hi
  obtain ⟨first, hfirst, hstart⟩ := cursorOf_eq items.head? htoken
    fun item hi => hmem item (List.mem_of_head? hi)
  obtain ⟨last, hlast, hend⟩ := cursorOf_eq items.getLast? htoken
    fun item hi => hmem item (List.mem_of_getLast? hi)
  rw [assemble]
  simp only [hitems, hfirst, hlast, bind, Except.bind]
  refine ⟨_, rfl, rfl, ?_, hstart, hend⟩
  split
  · rfl
  · split <;> rfl

/-! The one item after the page is no part of it, and it is there exactly if there is one: where a
query cannot be asked for that many, there are not so many. -/

theorem take_lookahead {rows : List α} (hlength : rows.length ≤ greatestCount) (size : Nat) :
    (rows.take (min (size + 1) greatestCount)).take size = rows.take size := by
  rw [List.take_take]
  by_cases hsize : size ≤ greatestCount
  · rw [show min size (min (size + 1) greatestCount) = size by omega]
  · rw [List.take_of_length_le (by omega), List.take_of_length_le (by omega)]

theorem lt_length_lookahead {rows : List α} (hlength : rows.length ≤ greatestCount) (size : Nat) :
    decide (size < (rows.take (min (size + 1) greatestCount)).length) =
      decide (size < rows.length) := by
  rw [List.length_take, decide_eq_decide]
  omega

/-- The flags of an empty page are down, whatever they would be. -/
theorem flags_eq {empty next previous next' previous' : Bool}
    (h : (next, previous) = if empty = true then (false, false) else (next', previous')) :
    next = (next' && !empty) ∧ previous = (previous' && !empty) := by
  cases empty with
  | true => simpa using h
  | false => simpa using h

theorem lt_length_and_not_isEmpty (rows : List α) (size : Nat) :
    (decide (size < rows.length) && !rows.isEmpty) = decide (size < rows.length) := by
  cases rows with
  | nil => simp
  | cons row rows => simp

theorem take_isEmpty {rows : List α} (hsize : size ≠ 0) :
    (rows.take size).isEmpty = rows.isEmpty := by
  cases rows with
  | nil => rw [List.take_nil]
  | cons row rows =>
      obtain ⟨n, rfl⟩ := Nat.exists_eq_succ_of_ne_zero hsize
      rfl

/-- Rows in the order of the page make a forward page. -/
theorem assemble_forward {view : α → Record} {rows : List α} {position : Position}
    (hforward : position.isBackward = false) (hsize : size ≠ 0)
    (hlength : rows.length ≤ greatestCount)
    (htoken : ∀ item ∈ rows, ∃ token, Cursor.encode (order.keyValues (view item)) = .ok token) :
    ∃ page, assemble view (rows.take (min (size + 1) greatestCount)) ⟨order, position⟩ size =
        .ok page ∧
      page.IsForward view order rows size position.cursor?.isSome := by
  obtain ⟨page, hpage, hitems, hflags, hmarks⟩ := assemble_eq position size
    fun item hi => htoken item (List.mem_of_mem_take hi)
  rw [hforward, take_lookahead hlength] at hitems
  simp only [Bool.false_eq_true, if_false] at hitems
  have hempty : page.items.isEmpty = rows.isEmpty := by rw [hitems, take_isEmpty hsize]
  rw [hforward, lt_length_lookahead hlength, hempty] at hflags
  simp only [Bool.false_eq_true, if_false] at hflags
  obtain ⟨hnext, hprevious⟩ := flags_eq hflags
  rw [lt_length_and_not_isEmpty] at hnext
  rw [← hempty] at hprevious
  exact ⟨page, hpage, hitems, hnext, hprevious, hmarks⟩

/-- As many rows, found in the opposite order, make a backward page. -/
theorem assemble_backward {view : α → Record} {rows found : List α} {position : Position}
    {untied : Prop} (hbackward : position.isBackward = true) (hsize : size ≠ 0)
    (hlength : rows.length ≤ greatestCount) (hfound : found.length = rows.length)
    (hopposite : untied → found = rows.reverse)
    (htoken : ∀ item ∈ found, ∃ token, Cursor.encode (order.keyValues (view item)) = .ok token) :
    ∃ page, assemble view (found.take (min (size + 1) greatestCount)) ⟨order, position⟩ size =
        .ok page ∧
      page.IsBackward view order rows size untied := by
  obtain ⟨page, hpage, hitems, hflags, hmarks⟩ := assemble_eq position size
    fun item hi => htoken item (List.mem_of_mem_take hi)
  have hlookahead : found.length ≤ greatestCount := by rw [hfound]; exact hlength
  rw [hbackward, take_lookahead hlookahead] at hitems
  simp only [if_true] at hitems
  have hempty : page.items.isEmpty = rows.isEmpty := by
    rw [hitems, List.isEmpty_reverse, take_isEmpty hsize, Bool.eq_iff_iff,
      List.isEmpty_iff_length_eq_zero, List.isEmpty_iff_length_eq_zero, hfound]
  rw [hbackward, lt_length_lookahead hlookahead, hfound, hempty] at hflags
  simp only [if_true] at hflags
  obtain ⟨hnext, hprevious⟩ := flags_eq hflags
  rw [Bool.true_and, ← hempty] at hnext
  rw [lt_length_and_not_isEmpty] at hprevious
  refine ⟨page, hpage, ?_, hnext, hprevious, hmarks⟩
  intro huntied
  rw [hitems, hopposite huntied, List.take_reverse, List.reverse_reverse]

end Paginator

/-! ## The law -/

/-- The sorted items on one side of a tuple: after it or before it. -/
def MemoryQuery.sortedBeside (source : MemoryQuery α) (order : SortOrder) (side : Ordering)
    (c : List Scalar) : List α :=
  (source.sorted order).filter fun item =>
    order.compareTuples (order.keyValues (source.view item)) c == side

namespace Pageable

theorem exists_token (h : Pageable catalog schema order source) {item : α}
    (hi : item ∈ source.items) :
    ∃ token, Cursor.encode (order.keyValues (source.view item)) = .ok token := by
  obtain ⟨token, htoken, -⟩ := Cursor.exists_token (h.tuple hi) catalog
  exact ⟨token, htoken⟩

theorem length_sorted_le (h : Pageable catalog schema order source) :
    (source.sorted order).length ≤ greatestCount := by
  rw [h.isStableSort.perm.length_eq]
  exact Nat.le_trans (List.length_filter_le _ _) h.countable

theorem length_sortedBeside_le (h : Pageable catalog schema order source) (side : Ordering)
    (c : List Scalar) : (source.sortedBeside order side c).length ≤ greatestCount :=
  Nat.le_trans (List.length_filter_le _ _) h.length_sorted_le

end Pageable

namespace Paginator

variable {paginator : Paginator} {size : Nat}

theorem size_ne_zero (h : paginator.checkSize size = .ok ()) : size ≠ 0 := by
  rintro rfl
  cases h

theorem paginate_eq {position : Position} {query : MemoryQuery α} {rows : List α}
    (hprepare : paginator.prepare catalog source ⟨order, position⟩ size = .ok query)
    (hrun : query.run = .ok rows) :
    paginator.paginate catalog source ⟨order, position⟩ size runQuery =
      assemble source.view rows ⟨order, position⟩ size := by
  simp only [paginate, hprepare, runQuery, hrun, bind, Except.bind]

theorem paginate_start (h : Pageable catalog schema order source)
    (hsize : paginator.checkSize size = .ok ()) :
    ∃ page, paginator.paginate catalog source ⟨order, .start⟩ size runQuery = .ok page ∧
      page.IsForward source.view order (source.sorted order) size false := by
  have hprepare : paginator.prepare catalog source ⟨order, .start⟩ size = .ok _ :=
    prepare_eq h.nonempty hsize rfl
  rw [paginate_eq hprepare (run_start h _)]
  exact assemble_forward rfl (size_ne_zero hsize) h.length_sorted_le
    fun item hi => h.exists_token (h.mem_items hi)

/-- **After a cursor** stand the sorted items after its tuple. -/
theorem paginate_after (h : Pageable catalog schema order source)
    (hsize : paginator.checkSize size = .ok ()) {c : List Scalar} {token : String}
    (hc : KeyType.Tuple order.keyTypes c) (htoken : Cursor.encode c = .ok token) :
    ∃ page, paginator.paginate catalog source ⟨order, .after token⟩ size runQuery = .ok page ∧
      page.IsForward source.view order (source.sortedBeside order .gt c) size true := by
  obtain ⟨p, hp⟩ := Seek.exists_predicate paginator.parameterizeValues hc.takes
  have hpast : ∀ item ∈ source.items, p.evaluate (source.view item) =
      .ok (order.compareTuples (order.keyValues (source.view item)) c == .gt) := by
    intro item hi
    obtain ⟨b, hb, hiff⟩ := Seek.predicate_answers hp hc.takes (h.reads hi)
    rw [hb, Bool.eq_iff_iff.mpr (hiff.trans beq_iff_eq.symm)]
  have hprepare : paginator.prepare catalog source ⟨order, .after token⟩ size = .ok _ :=
    prepare_eq h.nonempty hsize
      (pastCursor_eq rfl (Cursor.decode_eq_of_encode hc catalog htoken) hp)
  rw [paginate_eq hprepare (run_past h hpast _ _)]
  have hsorted := h.sorted_filter fun item =>
    order.compareTuples (order.keyValues (source.view item)) c == .gt
  rw [show effective order (.after token) = order from rfl, hsorted]
  exact assemble_forward rfl (size_ne_zero hsize) (h.length_sortedBeside_le .gt c)
    fun item hi => h.exists_token (h.mem_items (List.mem_filter.mp hi).1)

/-- **Before a cursor** stand the sorted items before its tuple, in their order unless some tie. -/
theorem paginate_before (h : Pageable catalog schema order source)
    (hsize : paginator.checkSize size = .ok ()) {c : List Scalar} {token : String}
    (hc : KeyType.Tuple order.keyTypes c) (htoken : Cursor.encode c = .ok token) :
    ∃ page, paginator.paginate catalog source ⟨order, .before token⟩ size runQuery = .ok page ∧
      page.IsBackward source.view order (source.sortedBeside order .lt c) size
        (Pageable.Untied order source) := by
  obtain ⟨p, hp⟩ := Seek.exists_predicate paginator.parameterizeValues hc.takes.reversed
  -- the seek under the reversed keys finds what comes before the tuple
  have hpast : ∀ item ∈ source.items, p.evaluate (source.view item) =
      .ok (order.compareTuples (order.keyValues (source.view item)) c == .lt) := by
    intro item hi
    obtain ⟨b, hb, hiff⟩ := Seek.predicate_reversed_answers hp hc.takes (h.reads hi)
    rw [hb, Bool.eq_iff_iff.mpr (hiff.trans beq_iff_eq.symm)]
  have hprepare : paginator.prepare catalog source ⟨order, .before token⟩ size = .ok _ :=
    prepare_eq h.nonempty hsize
      (pastCursor_eq rfl (Cursor.decode_eq_of_encode hc catalog htoken) hp)
  rw [paginate_eq hprepare (run_past h hpast _ _), show effective order (.before token) =
    order.reversed from rfl]
  have hlength : (SortOrder.stableSort (source.compareBy order.reversed)
      (source.matching.filter fun item =>
        order.compareTuples (order.keyValues (source.view item)) c == .lt)).length =
      (source.sortedBeside order .lt c).length := by
    rw [(SortOrder.stableSort_perm _ _).length_eq, MemoryQuery.sortedBeside, ← h.sorted_filter,
      (SortOrder.stableSort_perm _ _).length_eq]
  exact assemble_backward rfl (size_ne_zero hsize) (h.length_sortedBeside_le .lt c) hlength
    (fun hties => h.sorted_reversed hties _)
    fun item hi => h.exists_token (MemoryQuery.mem_matching
      (List.mem_filter.mp ((SortOrder.stableSort_perm _ _).mem_iff.mp hi)).1)

/-- **The page law.** On a pageable source, with `rows` the stable sort of the matching items, every
    request gives a page, at the start and on either side of any tuple that the key types hold: at
    the start the first rows; after the tuple the first rows after it; before the tuple, unless
    matching items tie, the last rows before it. The flags and the cursors of a page do not depend
    on ties. -/
theorem paginate_law {catalog : Catalog} {schema : Schema} {order : SortOrder}
    {source : MemoryQuery α} {paginator : Paginator} {size : Nat}
    (h : Pageable catalog schema order source) (hsize : paginator.checkSize size = .ok ()) :
    ∃ rows, SortOrder.IsStableSort (source.compareBy order) source.matching rows ∧
      (∃ page, paginator.paginate catalog source ⟨order, .start⟩ size runQuery = .ok page ∧
        page.IsForward source.view order rows size false) ∧
      ∀ c, KeyType.Tuple order.keyTypes c → ∃ token, Cursor.encode c = .ok token ∧
        (∃ page, paginator.paginate catalog source ⟨order, .after token⟩ size runQuery = .ok page ∧
          page.IsForward source.view order (rows.filter fun item =>
            order.compareTuples (order.keyValues (source.view item)) c == .gt) size true) ∧
        ∃ page, paginator.paginate catalog source ⟨order, .before token⟩ size runQuery =
            .ok page ∧
          page.IsBackward source.view order (rows.filter fun item =>
            order.compareTuples (order.keyValues (source.view item)) c == .lt) size
            (Pageable.Untied order source) := by
  refine ⟨source.sorted order, h.isStableSort, paginate_start h hsize, ?_⟩
  intro c hc
  obtain ⟨token, htoken, -⟩ := Cursor.exists_token hc catalog
  exact ⟨token, htoken, paginate_after h hsize hc htoken, paginate_before h hsize hc htoken⟩

theorem byCity_exact : Seek.byCity.Exact wanderer ∧ Seek.byCity.Exact settler := by
  constructor
  · intro key hkey s hs
    rcases List.mem_cons.mp hkey with rfl | hkey
    · cases hs
      exact Or.inl rfl
    · cases List.mem_singleton.mp hkey
      cases hs
      exact Or.inr trivial
  · intro key hkey s hs
    rcases List.mem_cons.mp hkey with rfl | hkey
    · cases hs
      exact Or.inr trivial
    · cases List.mem_singleton.mp hkey
      cases hs
      exact Or.inr trivial

/-- The people without a home. -/
def wanderers : MemoryQuery Record :=
  (MemoryQuery.ofItems id [settler, wanderer]).filter (.isNull ["home"])

theorem wanderers_pageable : Pageable people people.root Seek.byCity wanderers where
  nonempty := List.cons_ne_nil _ _
  resolved := Seek.byCity_resolved
  unlimited := rfl
  testable item hi := by
    rcases List.mem_cons.mp hi with rfl | hi
    · exact ⟨false, rfl⟩
    · cases List.mem_singleton.mp hi
      exact ⟨true, rfl⟩
  conforms item hi := by
    rcases List.mem_cons.mp hi with rfl | hi
    · exact settler_conforms
    · cases List.mem_singleton.mp hi
      exact wanderer_conforms
  exact item hi := by
    rcases List.mem_cons.mp hi with rfl | hi
    · exact byCity_exact.2
    · cases List.mem_singleton.mp hi
      exact byCity_exact.1
  countable := by decide

theorem paginate_law_wanderers :
    ∃ token page, Cursor.encode [.null, .number (.int 5)] = .ok token ∧
      paginate {} people wanderers ⟨Seek.byCity, .after token⟩ 1 runQuery = .ok page ∧
      page.items = [wanderer] ∧ page.hasNextPage = false ∧ page.hasPreviousPage = true := by
  obtain ⟨rows, hrows, -, hlaw⟩ :=
    @paginate_law Record people people.root Seek.byCity wanderers {} 1 wanderers_pageable rfl
  have htuple : KeyType.Tuple Seek.byCity.keyTypes [.null, .number (.int 5)] :=
    .cons (Or.inl ⟨rfl, rfl⟩) (.cons (Or.inr trivial) .nil)
  obtain ⟨token, htoken, ⟨page, hpage, hforward⟩, -⟩ := hlaw _ htuple
  have hmatching : rows = [wanderer] := List.perm_singleton.mp hrows.perm
  have hpast : (rows.filter fun item => Seek.byCity.compareTuples
      (Seek.byCity.keyValues (wanderers.view item)) [.null, .number (.int 5)] == .gt) =
      [wanderer] := by
    rw [hmatching]
    rfl
  rw [hpast] at hforward
  have hitems : page.items = [wanderer] := hforward.items
  refine ⟨token, page, htoken, hpage, hitems, hforward.hasNext, ?_⟩
  rw [hforward.hasPrevious, hitems]
  rfl

end Paginator
end RecordQuery
