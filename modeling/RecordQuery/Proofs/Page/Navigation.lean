import RecordQuery.Proofs.Page.Law

/-!
# `Proofs.Page.Navigation` — paging forward and back

A reader goes from a page to the next one with its end cursor and to the previous one with its start
cursor. The two kinds of page are made by different rules, but without ties a page only depends on
its place: `IsWindow` says that it has the sorted items from an offset on, and every move keeps this
up, one page size further or back.

## Contents
- `Browser`, `Move`, `Browser.Reached`: what stays the same between the moves, and the pages that
  they lead to.
- `sortedBeside_split`: without ties, the items on either side of an item are those around it.
- `Browser.IsWindow`: the page at an offset; there is one only (`IsWindow.unique`).
- `IsWindow.next`, `IsWindow.previous`: one move; `IsWindow.of_reached`: any number of moves.
- `navigation_law`: pages are windows of the sorted items, and moves undo each other.
-/

namespace RecordQuery

open Std

variable {α : Type}

/-! ## Moves -/

/-- What stays the same while a reader moves from page to page. -/
structure Browser (α : Type) where
  paginator : Paginator
  catalog : Catalog
  source : MemoryQuery α
  order : SortOrder
  size : Nat

/-- A way to go on from a page. -/
inductive Move where
  | next
  | previous
deriving DecidableEq

def Move.opposite : Move → Move
  | next => previous
  | previous => next

/-- Where a move from a page leads; nowhere if the page has no cursor for it. -/
def Move.position? (page : Page α) : Move → Option Position
  | next => page.endCursor.map .after
  | previous => page.startCursor.map .before

namespace Browser

variable (browser : Browser α)

/-- The page at a position. -/
def fetch (position : Position) : Except PageError (Page α) :=
  browser.paginator.paginate browser.catalog browser.source ⟨browser.order, position⟩ browser.size
    Paginator.runQuery

/-- What a move from a page gives. -/
def follow (move : Move) (page : Page α) : Option (Except PageError (Page α)) :=
  (move.position? page).map browser.fetch

/-- The pages that have items and that moves lead to from the first page, through such pages. -/
inductive Reached : Page α → Prop
  | first {page : Page α} (fetched : browser.fetch .start = .ok page) (some : page.items ≠ []) :
      Reached page
  | move {page other : Page α} {move : Move} (reached : Reached page)
      (followed : browser.follow move page = some (.ok other)) (some : other.items ≠ []) :
      Reached other

end Browser

/-! ## Both sides of an item -/

namespace Pageable

variable {catalog : Catalog} {schema : Schema} {order : SortOrder} {source : MemoryQuery α}

/-- Without ties, the sorted items are strictly increasing. -/
theorem sorted_increasing (h : Pageable catalog schema order source)
    (hties : Untied order source) :
    (source.sorted order).Pairwise fun a b => source.compareBy order a b = .lt := by
  obtain ⟨β, _, _, rank, hrank⟩ := h.exists_rank_matching
  have hperm := h.isStableSort.perm
  have huntied : (source.sorted order).Pairwise fun a b => compareOn rank a b ≠ .eq := by
    refine (hperm.pairwise_iff fun hne heq => hne (OrientedCmp.eq_symm heq)).mpr ?_
    exact hties.imp_of_mem fun ha hb hne => by
      rw [← hrank _ ha _ hb]
      exact hne
  refine (h.isStableSort.ordered.and huntied).imp_of_mem fun {a b} ha hb hab => ?_
  obtain ⟨hle, hne⟩ := hab
  rw [← hrank a (hperm.mem_iff.mp ha) b (hperm.mem_iff.mp hb)] at hne
  cases hcompare : source.compareBy order a b with
  | lt => rfl
  | eq => exact absurd hcompare hne
  | gt =>
      rw [hcompare] at hle
      cases hle

/-- An item comes after another one exactly if that one comes before it. -/
theorem compareBy_gt_iff (h : Pageable catalog schema order source) {a b : α}
    (ha : a ∈ source.items) (hb : b ∈ source.items) :
    source.compareBy order a b = .gt ↔ source.compareBy order b a = .lt := by
  obtain ⟨β, _, _, rank, place, hrank, -⟩ := h.exists_rank
  rw [hrank a ha b hb, hrank b hb a ha]
  exact OrientedCmp.gt_iff_lt

theorem compareBy_self (h : Pageable catalog schema order source) {a : α}
    (ha : a ∈ source.items) : source.compareBy order a a = .eq := by
  obtain ⟨β, _, _, rank, place, hrank, -⟩ := h.exists_rank
  rw [hrank a ha a ha]
  exact ReflCmp.compare_self

/-- **Without ties, the items on either side of an item are those around it.** -/
theorem sortedBeside_split (h : Pageable catalog schema order source)
    (hties : Untied order source) {front back : List α} {item : α}
    (hsplit : source.sorted order = front ++ item :: back) :
    source.sortedBeside order .lt (order.keyValues (source.view item)) = front ∧
      source.sortedBeside order .gt (order.keyValues (source.view item)) = back := by
  have hincreasing := h.sorted_increasing hties
  have hmem {row : α} (hrow : row ∈ front ++ item :: back) : row ∈ source.items :=
    h.mem_items (hsplit ▸ hrow)
  have hitem : item ∈ source.items := hmem (List.mem_append_right _ List.mem_cons_self)
  rw [hsplit, List.pairwise_append, List.pairwise_cons] at hincreasing
  obtain ⟨-, ⟨hback, -⟩, hfront⟩ := hincreasing
  -- the tuple of the item splits the items as the item does
  have hside (side : Ordering) :
      source.sortedBeside order side (order.keyValues (source.view item)) =
        (front ++ item :: back).filter fun row => source.compareBy order row item == side := by
    rw [MemoryQuery.sortedBeside, hsplit]
    exact List.filter_congr fun row hrow => by rw [h.compareBy_eq (hmem hrow) hitem]
  have hbefore : ∀ row ∈ front, source.compareBy order row item = .lt :=
    fun row hrow => hfront row hrow item List.mem_cons_self
  have hafter : ∀ row ∈ back, source.compareBy order row item = .gt := fun row hrow =>
    (h.compareBy_gt_iff (hmem (by simp [hrow])) hitem).mpr (hback row hrow)
  rw [hside, hside, List.filter_append, List.filter_append, List.filter_cons, List.filter_cons,
    h.compareBy_self hitem]
  constructor
  · have hkept : front.filter (fun row => source.compareBy order row item == .lt) = front :=
      List.filter_eq_self.mpr fun row hrow => by rw [hbefore row hrow]; rfl
    have hdropped : back.filter (fun row => source.compareBy order row item == .lt) = [] :=
      List.filter_eq_nil_iff.mpr fun row hrow => by rw [hafter row hrow]; decide
    rw [hkept, hdropped]
    exact List.append_nil _
  · have hdropped : front.filter (fun row => source.compareBy order row item == .gt) = [] :=
      List.filter_eq_nil_iff.mpr fun row hrow => by rw [hbefore row hrow]; decide
    have hkept : back.filter (fun row => source.compareBy order row item == .gt) = back :=
      List.filter_eq_self.mpr fun row hrow => by rw [hafter row hrow]; rfl
    rw [hdropped, hkept]
    rfl

theorem mem_sortedBeside (h : Pageable catalog schema order source) {item row : α}
    (hitem : item ∈ source.items) {side : Ordering} :
    row ∈ source.sortedBeside order side (order.keyValues (source.view item)) ↔
      row ∈ source.matching ∧ source.compareBy order row item = side := by
  rw [MemoryQuery.sortedBeside, List.mem_filter, beq_iff_eq, h.isStableSort.perm.mem_iff]
  refine and_congr_right fun hrow => ?_
  rw [h.compareBy_eq (MemoryQuery.mem_matching hrow) hitem]

end Pageable

/-! ## Windows -/

/-- Pages with the same items have the same cursors. -/
theorem Page.Marks.unique {page other : Page α} {view : α → Record} {order : SortOrder}
    (hpage : page.Marks view order) (hother : other.Marks view order)
    (hitems : page.items = other.items) :
    page.startCursor = other.startCursor ∧ page.endCursor = other.endCursor := by
  have hok {a b : Option String}
      (h : a.map (.ok : String → Except CursorError String) = b.map .ok) : a = b := by
    cases a <;> cases b <;> simp_all
  obtain ⟨hstart, hend⟩ := hpage
  obtain ⟨hstart', hend'⟩ := hother
  rw [← hitems] at hstart' hend'
  exact ⟨hok (hstart.symm.trans hstart'), hok (hend.symm.trans hend')⟩

namespace Browser

variable {browser : Browser α} {schema : Schema} {offset : Nat} {page other : Page α}

/-- The items that the browser shows, in order. -/
def rows (browser : Browser α) : List α := browser.source.sorted browser.order

/-- The browser has a source that can be paged, without ties, and pages may have its size. -/
structure Ready (browser : Browser α) (schema : Schema) : Prop where
  pageable : Pageable browser.catalog schema browser.order browser.source
  untied : Pageable.Untied browser.order browser.source
  size : browser.paginator.checkSize browser.size = .ok ()

/-- The page has the rows from an offset on, and its flags say whether there are others on either
    side. The offset is that of a page when the rows are cut from the start. -/
structure IsWindow (browser : Browser α) (offset : Nat) (page : Page α) : Prop where
  inside : offset < browser.rows.length
  aligned : browser.size ∣ offset
  items : page.items = (browser.rows.drop offset).take browser.size
  hasNext : page.hasNextPage = decide (offset + browser.size < browser.rows.length)
  hasPrevious : page.hasPreviousPage = decide (0 < offset)
  marks : page.Marks browser.source.view browser.order

/-- **There is one page at an offset.** -/
theorem IsWindow.unique (hpage : browser.IsWindow offset page)
    (hother : browser.IsWindow offset other) : page = other := by
  have hitems : page.items = other.items := hpage.items.trans hother.items.symm
  obtain ⟨hstart, hend⟩ := hpage.marks.unique hother.marks hitems
  have hnext := hpage.hasNext.trans hother.hasNext.symm
  have hprevious := hpage.hasPrevious.trans hother.hasPrevious.symm
  cases page
  cases other
  simp only at hitems hstart hend hnext hprevious
  subst hitems hstart hend hnext hprevious
  rfl

theorem IsWindow.items_ne_nil (hwindow : browser.IsWindow offset page)
    (hready : browser.Ready schema) : page.items ≠ [] := by
  have hsize := Paginator.size_ne_zero hready.size
  have hinside := hwindow.inside
  rw [hwindow.items, ← List.length_pos_iff, List.length_take, List.length_drop]
  omega

/-- The rows stand around the items of a window. -/
theorem IsWindow.split (hwindow : browser.IsWindow offset page) :
    browser.rows = browser.rows.take offset ++ page.items ++
      browser.rows.drop (offset + browser.size) := by
  rw [hwindow.items, List.append_assoc, ← List.drop_drop, List.take_append_drop,
    List.take_append_drop]

/-- An item that the rows are split at is one of the source. -/
theorem mem_items_of_split (hready : browser.Ready schema) {front back : List α} {item : α}
    (hsplit : browser.rows = front ++ item :: back) : item ∈ browser.source.items := by
  have hmem : item ∈ browser.rows := by
    rw [hsplit]
    exact List.mem_append_right _ List.mem_cons_self
  exact hready.pageable.mem_items hmem

/-- What comes after the last item of a window comes after the window. -/
theorem IsWindow.exists_last (hwindow : browser.IsWindow offset page)
    (hready : browser.Ready schema) :
    ∃ last, page.items.getLast? = some last ∧ last ∈ browser.source.items ∧
      browser.source.sortedBeside browser.order .gt
        (browser.order.keyValues (browser.source.view last)) =
        browser.rows.drop (offset + browser.size) := by
  obtain ⟨front, last, hitems⟩ :=
    (List.eq_nil_or_concat page.items).resolve_left (hwindow.items_ne_nil hready)
  rw [List.concat_eq_append] at hitems
  have hsplit := hwindow.split
  rw [hitems, ← List.append_assoc, List.append_assoc, List.singleton_append] at hsplit
  refine ⟨last, ?_, mem_items_of_split hready hsplit,
    (hready.pageable.sortedBeside_split hready.untied hsplit).2⟩
  rw [hitems, List.getLast?_concat]

/-- What comes before the first item of a window comes before the window. -/
theorem IsWindow.exists_first (hwindow : browser.IsWindow offset page)
    (hready : browser.Ready schema) :
    ∃ first, page.items.head? = some first ∧ first ∈ browser.source.items ∧
      browser.source.sortedBeside browser.order .lt
        (browser.order.keyValues (browser.source.view first)) = browser.rows.take offset := by
  obtain ⟨first, back, hitems⟩ := List.exists_cons_of_ne_nil (hwindow.items_ne_nil hready)
  have hsplit := hwindow.split
  rw [hitems, List.append_assoc, List.cons_append] at hsplit
  refine ⟨first, ?_, mem_items_of_split hready hsplit,
    (hready.pageable.sortedBeside_split hready.untied hsplit).1⟩
  rw [hitems, List.head?_cons]

/-- **The flag for another page is honest**: it is up if an item comes after the last one. -/
theorem IsWindow.hasNext_iff (hwindow : browser.IsWindow offset page)
    (hready : browser.Ready schema) :
    page.hasNextPage = true ↔ ∃ last row, page.items.getLast? = some last ∧
      row ∈ browser.source.matching ∧ browser.source.compareBy browser.order last row = .lt := by
  obtain ⟨last, hlast, hmem, hbeside⟩ := hwindow.exists_last hready
  have hafter {row : α} : row ∈ browser.rows.drop (offset + browser.size) ↔
      row ∈ browser.source.matching ∧
        browser.source.compareBy browser.order last row = .lt := by
    rw [← hbeside, hready.pageable.mem_sortedBeside hmem]
    refine and_congr_right fun hrow => ?_
    exact hready.pageable.compareBy_gt_iff (MemoryQuery.mem_matching hrow) hmem
  rw [hwindow.hasNext, decide_eq_true_iff]
  constructor
  · intro hlt
    obtain ⟨row, hrow⟩ := List.exists_mem_of_length_pos
      (l := browser.rows.drop (offset + browser.size)) (by rw [List.length_drop]; omega)
    exact ⟨last, row, hlast, hafter.mp hrow⟩
  · rintro ⟨last', row, hlast', hrow⟩
    cases hlast.symm.trans hlast'
    have hpos := List.length_pos_of_mem (hafter.mpr hrow)
    rw [List.length_drop] at hpos
    omega

/-- **The flag for an earlier page is honest**: it is up if an item comes before the first one. -/
theorem IsWindow.hasPrevious_iff (hwindow : browser.IsWindow offset page)
    (hready : browser.Ready schema) :
    page.hasPreviousPage = true ↔ ∃ first row, page.items.head? = some first ∧
      row ∈ browser.source.matching ∧ browser.source.compareBy browser.order row first = .lt := by
  have hinside := hwindow.inside
  obtain ⟨first, hfirst, hmem, hbeside⟩ := hwindow.exists_first hready
  have hbefore {row : α} : row ∈ browser.rows.take offset ↔ row ∈ browser.source.matching ∧
      browser.source.compareBy browser.order row first = .lt := by
    rw [← hbeside, hready.pageable.mem_sortedBeside hmem]
  rw [hwindow.hasPrevious, decide_eq_true_iff]
  constructor
  · intro hpos
    obtain ⟨row, hrow⟩ := List.exists_mem_of_length_pos
      (l := browser.rows.take offset) (by rw [List.length_take]; omega)
    exact ⟨first, row, hfirst, hbefore.mp hrow⟩
  · rintro ⟨first', row, hfirst', hrow⟩
    cases hfirst.symm.trans hfirst'
    have hpos := List.length_pos_of_mem (hbefore.mpr hrow)
    rw [List.length_take] at hpos
    omega

/-! ## One move -/

theorem fetch_start (hready : browser.Ready schema) :
    ∃ page, browser.fetch .start = .ok page ∧ (browser.rows ≠ [] → browser.IsWindow 0 page) ∧
      (browser.rows = [] → page.items = []) := by
  obtain ⟨page, hpage, hforward⟩ := Paginator.paginate_start hready.pageable hready.size
  have hrows : page.items = browser.rows.take browser.size := hforward.items
  refine ⟨page, hpage, fun hne => ?_, fun hnil => by rw [hrows, hnil, List.take_nil]⟩
  refine ⟨List.length_pos_iff.mpr hne, Nat.dvd_zero _, hrows, ?_, hforward.hasPrevious,
    hforward.marks⟩
  rw [hforward.hasNext, Nat.zero_add]
  rfl

/-- **The next page** has the rows after the window. -/
theorem IsWindow.next (hwindow : browser.IsWindow offset page) (hready : browser.Ready schema) :
    ∃ other, browser.follow .next page = some (.ok other) ∧
      (offset + browser.size < browser.rows.length →
        browser.IsWindow (offset + browser.size) other) ∧
      (browser.rows.length ≤ offset + browser.size → other.items = []) := by
  have hsize := Paginator.size_ne_zero hready.size
  obtain ⟨last, hlast, hmem, hbeside⟩ := hwindow.exists_last hready
  have hmark := hwindow.marks.2
  rw [hlast, Option.map_some] at hmark
  obtain ⟨token, hcursor, htoken⟩ := Option.map_eq_some_iff.mp hmark.symm
  obtain ⟨other, hother, hforward⟩ := Paginator.paginate_after hready.pageable hready.size
    (hready.pageable.tuple hmem) htoken.symm
  rw [hbeside] at hforward
  have hrows := hforward.items
  refine ⟨other, ?_, fun hlt => ?_, fun hle => by
    rw [hrows, List.drop_eq_nil_of_le hle, List.take_nil]⟩
  · rw [follow, Move.position?, hcursor]
    exact congrArg some hother
  · refine ⟨hlt, Nat.dvd_add hwindow.aligned (Nat.dvd_refl _), hrows, ?_, ?_, hforward.marks⟩
    · rw [hforward.hasNext, List.length_drop, decide_eq_decide]
      omega
    · have hne : other.items ≠ [] := by
        rw [hrows, ← List.length_pos_iff, List.length_take, List.length_drop]
        omega
      rw [hforward.hasPrevious, List.isEmpty_eq_false_iff.mpr hne]
      exact (decide_eq_true (by omega)).symm

/-- **The previous page** has the rows before the window. -/
theorem IsWindow.previous (hwindow : browser.IsWindow offset page)
    (hready : browser.Ready schema) :
    ∃ other, browser.follow .previous page = some (.ok other) ∧
      (0 < offset → browser.size ≤ offset ∧ browser.IsWindow (offset - browser.size) other) ∧
      (offset = 0 → other.items = []) := by
  have hsize := Paginator.size_ne_zero hready.size
  have hinside := hwindow.inside
  obtain ⟨first, hfirst, hmem, hbeside⟩ := hwindow.exists_first hready
  have hmark := hwindow.marks.1
  rw [hfirst, Option.map_some] at hmark
  obtain ⟨token, hcursor, htoken⟩ := Option.map_eq_some_iff.mp hmark.symm
  obtain ⟨other, hother, hbackward⟩ := Paginator.paginate_before hready.pageable hready.size
    (hready.pageable.tuple hmem) htoken.symm
  rw [hbeside] at hbackward
  have hlength : (browser.rows.take offset).length = offset := by
    rw [List.length_take]
    omega
  have hrows := hbackward.items hready.untied
  rw [hlength] at hrows
  refine ⟨other, ?_, fun hpos => ?_, fun hzero => by
    rw [hrows, hzero, List.take_zero, List.drop_nil]⟩
  · rw [follow, Move.position?, hcursor]
    exact congrArg some hother
  · -- the window starts where a page does, so that a whole page lies before it
    have hroom : browser.size ≤ offset := Nat.le_of_dvd hpos hwindow.aligned
    have hne : other.items ≠ [] := by
      rw [hrows, ← List.length_pos_iff, List.length_drop, hlength]
      omega
    refine ⟨hroom, by omega, Nat.dvd_sub hwindow.aligned (Nat.dvd_refl _), ?_, ?_, ?_,
      hbackward.marks⟩
    · rw [hrows, List.drop_take, show offset - (offset - browser.size) = browser.size by omega]
    · rw [hbackward.hasNext, List.isEmpty_eq_false_iff.mpr hne]
      exact (decide_eq_true (by omega)).symm
    · rw [hbackward.hasPrevious, hlength, decide_eq_decide]
      omega

/-! ## Any number of moves -/

/-- **Every page that moves lead to is a window.** -/
theorem IsWindow.of_reached (hready : browser.Ready schema) (hreached : browser.Reached page) :
    ∃ offset, browser.IsWindow offset page := by
  induction hreached with
  | first hfetch hitems =>
      obtain ⟨page', hpage', hwindow, hempty⟩ := fetch_start hready
      cases hfetch.symm.trans hpage'
      exact ⟨0, hwindow fun hnil => hitems (hempty hnil)⟩
  | @move page other move _ hfollow hitems ih =>
      obtain ⟨offset, hwindow⟩ := ih
      cases move with
      | next =>
          obtain ⟨other', hother', hnext, hempty⟩ := hwindow.next hready
          cases hfollow.symm.trans hother'
          exact ⟨_, hnext (Nat.lt_of_not_le fun hle => hitems (hempty hle))⟩
      | previous =>
          obtain ⟨other', hother', hprevious, hempty⟩ := hwindow.previous hready
          cases hfollow.symm.trans hother'
          exact ⟨_, (hprevious (Nat.pos_of_ne_zero fun hzero => hitems (hempty hzero))).2⟩

/-- **The opposite move leads back.** -/
theorem IsWindow.follow_opposite (hwindow : browser.IsWindow offset page)
    (hready : browser.Ready schema) (move : Move) :
    ∃ other, browser.follow move page = some (.ok other) ∧
      (other.items ≠ [] → browser.follow move.opposite other = some (.ok page)) := by
  have hsize := Paginator.size_ne_zero hready.size
  cases move with
  | next =>
      obtain ⟨other, hother, hnext, hempty⟩ := hwindow.next hready
      refine ⟨other, hother, fun hitems => ?_⟩
      have hother := hnext (Nat.lt_of_not_le fun hle => hitems (hempty hle))
      obtain ⟨page', hpage', hprevious, -⟩ := hother.previous hready
      have hback := (hprevious (by omega)).2
      rw [Nat.add_sub_cancel] at hback
      rw [hwindow.unique hback]
      exact hpage'
  | previous =>
      obtain ⟨other, hother, hprevious, hempty⟩ := hwindow.previous hready
      refine ⟨other, hother, fun hitems => ?_⟩
      obtain ⟨hroom, hother⟩ := hprevious (Nat.pos_of_ne_zero fun hzero => hitems (hempty hzero))
      obtain ⟨page', hpage', hnext, -⟩ := hother.next hready
      rw [Nat.sub_add_cancel hroom] at hnext
      rw [hwindow.unique (hnext hwindow.inside)]
      exact hpage'

/-! ## The law -/

/-- **The navigation law.** Let `rows` be the matching items in order, no two of which tie. Every
    page that moves lead to holds neighbouring rows; its flags say whether rows come after its last
    item and before its first; no move from it fails; and if a move leads to a page that has items,
    the opposite move leads back to the very same page. -/
theorem navigation_law {browser : Browser α} {schema : Schema} (hready : browser.Ready schema) :
    ∃ rows, SortOrder.IsStableSort (browser.source.compareBy browser.order)
        browser.source.matching rows ∧
      (∃ page, browser.fetch .start = .ok page ∧ (page.items = [] ↔ rows = [])) ∧
      ∀ page, browser.Reached page →
        (∃ front back, rows = front ++ page.items ++ back) ∧
        (page.hasNextPage = true ↔ ∃ last row, page.items.getLast? = some last ∧
          row ∈ browser.source.matching ∧
          browser.source.compareBy browser.order last row = .lt) ∧
        (page.hasPreviousPage = true ↔ ∃ first row, page.items.head? = some first ∧
          row ∈ browser.source.matching ∧
          browser.source.compareBy browser.order row first = .lt) ∧
        ∀ move, ∃ other, browser.follow move page = some (.ok other) ∧
          (other.items ≠ [] → browser.follow move.opposite other = some (.ok page)) := by
  refine ⟨browser.rows, hready.pageable.isStableSort, ?_, fun page hreached => ?_⟩
  · obtain ⟨page, hpage, hwindow, hempty⟩ := fetch_start hready
    refine ⟨page, hpage, fun hnil => ?_, hempty⟩
    by_cases hrows : browser.rows = []
    · exact hrows
    · exact absurd hnil ((hwindow hrows).items_ne_nil hready)
  · obtain ⟨offset, hwindow⟩ := IsWindow.of_reached hready hreached
    exact ⟨⟨_, _, hwindow.split⟩, hwindow.hasNext_iff hready, hwindow.hasPrevious_iff hready,
      hwindow.follow_opposite hready⟩

/-- Two people one by one, the one in no city last. -/
def neighbours : Browser Record :=
  ⟨{}, people, .ofItems id [wanderer, settler], Seek.byCity, 1⟩

theorem neighbours_ready : neighbours.Ready people.root where
  pageable :=
    { nonempty := List.cons_ne_nil _ _
      resolved := Seek.byCity_resolved
      unlimited := rfl
      testable := fun _ _ => ⟨true, rfl⟩
      conforms := fun item hi => by
        rcases List.mem_cons.mp hi with rfl | hi
        · exact wanderer_conforms
        · cases List.mem_singleton.mp hi
          exact settler_conforms
      exact := fun item hi => by
        rcases List.mem_cons.mp hi with rfl | hi
        · exact Paginator.byCity_exact.1
        · cases List.mem_singleton.mp hi
          exact Paginator.byCity_exact.2
      countable := by decide }
  untied := List.pairwise_pair.mpr (by decide)
  size := rfl

theorem navigation_law_neighbours : ∃ first second, neighbours.fetch .start = .ok first ∧
    first.items = [settler] ∧ neighbours.follow .next first = some (.ok second) ∧
    second.items = [wanderer] ∧ second.hasPreviousPage = true ∧ second.hasNextPage = false ∧
    neighbours.follow .previous second = some (.ok first) := by
  obtain ⟨rows, -, -, hlaw⟩ := navigation_law neighbours_ready
  obtain ⟨first, hfirst, hwindow, -⟩ := fetch_start neighbours_ready
  have hwindow := hwindow (by decide)
  have hreached : neighbours.Reached first := .first hfirst (hwindow.items_ne_nil neighbours_ready)
  obtain ⟨-, -, -, hmoves⟩ := hlaw first hreached
  obtain ⟨second, hsecond, hback⟩ := hmoves .next
  obtain ⟨second', hsecond', hnext, -⟩ := hwindow.next neighbours_ready
  cases hsecond.symm.trans hsecond'
  have hnext := hnext (by decide)
  exact ⟨first, second, hfirst, hwindow.items, hsecond, hnext.items, hnext.hasPrevious,
    hnext.hasNext, hback (hnext.items_ne_nil neighbours_ready)⟩

end Browser
end RecordQuery
