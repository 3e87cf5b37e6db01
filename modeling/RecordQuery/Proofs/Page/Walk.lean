import RecordQuery.Proofs.Page.Law

/-!
# `Proofs.Page.Walk` — walking forward over rows that change

A walk fetches page after page, each after the last row of the one before, while rows come and go
between the requests. What it has returned so far is its only memory: `Progress` says what holds of
that after every request, and `Progress.extend` that one more request keeps it so.

## Contents
- `PageReader`, `Walk`: what stays the same between requests, and the pages of a run of them.
- `Snapshots`: the rows at each request, told apart by the ordering over all requests.
- `ahead`: the rows that come after all of those returned; `fetch_ahead`: a request gives the first
  of them.
- `Progress.of_walk`: what holds after every request.
- `Unchanged.of_walk`: and what more if the rows do not change.
- `walk_law`: the law of the walk.
-/

namespace RecordQuery

open Std

variable {α : Type}

/-! ## Walks -/

/-- What stays the same between the requests of a walk. -/
structure PageReader (α : Type) where
  paginator : Paginator
  catalog : Catalog
  order : SortOrder
  view : α → Record
  size : Nat

namespace PageReader

/-- One request for a page of some rows. -/
def fetch (reader : PageReader α) (rows : List α) (position : Position) :
    Except PageError (Page α) :=
  reader.paginator.paginate reader.catalog (.ofItems reader.view rows) ⟨reader.order, position⟩
    reader.size Paginator.runQuery

/-- Where the next request starts: at the start first, then after the last page as long as it says
    that there is another one. -/
def nextPosition? (pages : List (Page α)) : Option Position :=
  match pages.getLast? with
  | none => some .start
  | some last => if last.hasNextPage then last.endCursor.map .after else none

/-- The last page says that it is the last one. -/
def Stopped (pages : List (Page α)) : Prop :=
  ∃ last, pages.getLast? = some last ∧ last.hasNextPage = false

/-- The pages of a walk; the page with the index `k` is fetched from `rows k`. -/
inductive Walk (reader : PageReader α) (rows : Nat → List α) : List (Page α) → Prop
  | nil : Walk reader rows []
  | snoc {pages : List (Page α)} {position : Position} {page : Page α}
      (walk : Walk reader rows pages) (next : nextPosition? pages = some position)
      (fetched : reader.fetch (rows pages.length) position = .ok page) :
      Walk reader rows (pages ++ [page])

/-- All items of some pages, one after the other. -/
def returned (pages : List (Page α)) : List α := pages.flatMap Page.items

theorem returned_snoc (pages : List (Page α)) (page : Page α) :
    returned (pages ++ [page]) = returned pages ++ page.items := by
  rw [returned, List.flatMap_append, List.flatMap_singleton]
  rfl

/-- One row comes strictly before another. -/
def Precedes (reader : PageReader α) (a b : α) : Prop :=
  reader.order.compare (reader.view a) (reader.view b) = .lt

/-! ## Snapshots -/

/-- Lists of rows that can be paged, in which a row keeps its values: rows that tie, in one list or
    in two, are the same row. No list has a row twice. -/
structure Snapshots (reader : PageReader α) (schema : Schema) (rows : Nat → List α) : Prop where
  nonempty : reader.order ≠ []
  resolved : reader.order.Resolved reader.catalog schema
  conforms : ∀ k, ∀ row ∈ rows k, (reader.view row).Conforms reader.catalog schema
  exact : ∀ k, ∀ row ∈ rows k, reader.order.Exact (reader.view row)
  countable : ∀ k, (rows k).length ≤ greatestCount
  distinct : ∀ k, (rows k).Nodup
  identified : ∀ j k, ∀ a ∈ rows j, ∀ b ∈ rows k,
    reader.order.compare (reader.view a) (reader.view b) = .eq → a = b

/-- The row is in one of the snapshots. -/
def Known (rows : Nat → List α) (row : α) : Prop := ∃ k, row ∈ rows k

variable {reader : PageReader α} {schema : Schema} {rows : Nat → List α}

theorem matching_ofItems (view : α → Record) (items : List α) :
    (MemoryQuery.ofItems view items).matching = items :=
  List.filter_eq_self.mpr fun _ _ => rfl

namespace Snapshots

theorem pageable (h : Snapshots reader schema rows) (k : Nat) :
    Pageable reader.catalog schema reader.order (.ofItems reader.view (rows k)) where
  nonempty := h.nonempty
  resolved := h.resolved
  unlimited := rfl
  testable _ _ := ⟨true, rfl⟩
  conforms := h.conforms k
  exact := h.exact k
  countable := h.countable k

/-- The comparison of rows is that of their tuples. -/
theorem compare_eq (h : Snapshots reader schema rows) {a b : α} (ha : Known rows a)
    (hb : Known rows b) : reader.order.compare (reader.view a) (reader.view b) =
      reader.order.compareTuples (reader.order.keyValues (reader.view a))
        (reader.order.keyValues (reader.view b)) := by
  obtain ⟨j, ha⟩ := ha
  obtain ⟨k, hb⟩ := hb
  exact SortOrder.compare_eq_compareTuples ((h.pageable j).reads ha) ((h.pageable k).reads hb)

/-- Over all snapshots, rows are compared by one rank. -/
theorem exists_rank (h : Snapshots reader schema rows) :
    ∃ (β : Type) (_ : Ord β) (_ : TransOrd β) (rank : α → β), ∀ a b, Known rows a → Known rows b →
      reader.order.compare (reader.view a) (reader.view b) = compareOn rank a b := by
  obtain ⟨β, hord, htrans, place, hplace⟩ := reader.order.exists_rank
  refine ⟨β, hord, htrans, fun a => place (reader.order.keyValues (reader.view a)),
    ?_⟩
  intro a b ha hb
  rw [h.compare_eq ha hb]
  obtain ⟨j, ha⟩ := ha
  obtain ⟨k, hb⟩ := hb
  exact hplace _ _ ((h.pageable j).tuple ha) ((h.pageable k).tuple hb)

theorem precedes_trans (h : Snapshots reader schema rows) {a b c : α} (ha : Known rows a)
    (hb : Known rows b) (hc : Known rows c) (hab : reader.Precedes a b)
    (hbc : reader.Precedes b c) : reader.Precedes a c := by
  obtain ⟨β, _, _, rank, hrank⟩ := h.exists_rank
  have hab : compareOn rank a b = .lt := (hrank a b ha hb).symm.trans hab
  have hbc : compareOn rank b c = .lt := (hrank b c hb hc).symm.trans hbc
  exact (hrank a c ha hc).trans (TransCmp.lt_trans hab hbc)

theorem precedes_iff_gt (h : Snapshots reader schema rows) {a b : α} (ha : Known rows a)
    (hb : Known rows b) : reader.Precedes a b ↔
      reader.order.compare (reader.view b) (reader.view a) = .gt := by
  obtain ⟨β, _, _, rank, hrank⟩ := h.exists_rank
  rw [Precedes, hrank a b ha hb, hrank b a hb ha]
  exact OrientedCmp.gt_iff_lt.symm

theorem not_precedes_self (h : Snapshots reader schema rows) {a : α} (ha : Known rows a) :
    ¬reader.Precedes a a := by
  obtain ⟨β, _, _, rank, hrank⟩ := h.exists_rank
  have hself : compareOn rank a a = .eq := ReflCmp.compare_self
  rw [Precedes, hrank a a ha ha, hself]
  exact Ordering.noConfusion

end Snapshots

/-- The rows of one request, sorted. -/
def sorted (reader : PageReader α) (rows : List α) : List α :=
  (MemoryQuery.ofItems reader.view rows).sorted reader.order

/-- The rows of one request that come after all of some others, sorted. -/
def ahead (reader : PageReader α) (done rows : List α) : List α :=
  (reader.sorted rows).filter fun row => done.all fun d =>
    reader.order.compare (reader.view d) (reader.view row) == .lt

theorem mem_ahead {done items : List α} {row : α} :
    row ∈ reader.ahead done items ↔
      row ∈ reader.sorted items ∧ ∀ d ∈ done, reader.Precedes d row := by
  rw [ahead, List.mem_filter, List.all_eq_true]
  simp only [beq_iff_eq, Precedes]

namespace Snapshots

theorem isStableSort (h : Snapshots reader schema rows) (k : Nat) :
    SortOrder.IsStableSort (fun a b => reader.order.compare (reader.view a) (reader.view b))
      (rows k) (reader.sorted (rows k)) := by
  have hsort := (h.pageable k).isStableSort
  rw [matching_ofItems] at hsort
  exact hsort

theorem mem_sorted (h : Snapshots reader schema rows) {k : Nat} {row : α} :
    row ∈ reader.sorted (rows k) ↔ row ∈ rows k :=
  (h.isStableSort k).perm.mem_iff

/-- Sorted rows are strictly increasing. -/
theorem sorted_increasing (h : Snapshots reader schema rows) (k : Nat) :
    (reader.sorted (rows k)).Pairwise reader.Precedes := by
  have hnodup : (reader.sorted (rows k)).Nodup :=
    (h.isStableSort k).perm.nodup_iff.mpr (h.distinct k)
  refine ((h.isStableSort k).ordered.and hnodup).imp_of_mem fun {a b} ha hb hab => ?_
  obtain ⟨hle, hne⟩ := hab
  cases hcompare : reader.order.compare (reader.view a) (reader.view b) with
  | lt => exact hcompare
  | eq => exact absurd (h.identified k k a (h.mem_sorted.mp ha) b (h.mem_sorted.mp hb) hcompare) hne
  | gt =>
      rw [hcompare] at hle
      cases hle

theorem ahead_increasing (h : Snapshots reader schema rows) (done : List α) (k : Nat) :
    (reader.ahead done (rows k)).Pairwise reader.Precedes :=
  (h.sorted_increasing k).filter _

end Snapshots

/-! ## Requests -/

/-- **A position lies past the rows returned so far**: it is the start if there are none, and else
    right after the last of them. -/
def Past (reader : PageReader α) (done : List α) (position : Position) : Prop :=
  (done = [] ∧ position = .start) ∨ ∃ row token, done.getLast? = some row ∧
    Cursor.encode (reader.order.keyValues (reader.view row)) = .ok token ∧ position = .after token

/-- What follows the last row of an increasing list follows all of its rows. -/
theorem Snapshots.precedes_last_iff (h : Snapshots reader schema rows) {done : List α} {last row : α}
    (hknown : ∀ d ∈ done, Known rows d) (hincreasing : done.Pairwise reader.Precedes)
    (hlast : done.getLast? = some last) (hrow : Known rows row) :
    reader.Precedes last row ↔ ∀ d ∈ done, reader.Precedes d row := by
  refine ⟨?_, fun hall => hall last (List.mem_of_getLast? hlast)⟩
  intro hprecedes d hd
  obtain ⟨front, rfl⟩ := List.getLast?_eq_some_iff.mp hlast
  rcases List.mem_append.mp hd with hfront | hd
  · have hd_last := (List.pairwise_append.mp hincreasing).2.2 d hfront last List.mem_cons_self
    exact h.precedes_trans (hknown d hd) (hknown last (by simp)) hrow hd_last hprecedes
  · rw [List.mem_singleton.mp hd]
    exact hprecedes

/-- **A request gives the first of the rows ahead.** -/
theorem fetch_ahead (h : Snapshots reader schema rows)
    (hsize : reader.paginator.checkSize reader.size = .ok ()) {done : List α} {position : Position}
    (hknown : ∀ d ∈ done, Known rows d) (hincreasing : done.Pairwise reader.Precedes)
    (hpast : reader.Past done position) (k : Nat) :
    ∃ page, reader.fetch (rows k) position = .ok page ∧
      page.IsForward reader.view reader.order (reader.ahead done (rows k)) reader.size
        position.cursor?.isSome := by
  rcases hpast with ⟨rfl, rfl⟩ | ⟨last, token, hlast, htoken, rfl⟩
  · have hall : reader.ahead [] (rows k) = reader.sorted (rows k) :=
      List.filter_eq_self.mpr fun _ _ => rfl
    rw [hall]
    exact Paginator.paginate_start (h.pageable k) hsize
  · have hlastKnown : Known rows last := hknown last (List.mem_of_getLast? hlast)
    have htuple : KeyType.Tuple reader.order.keyTypes
        (reader.order.keyValues (reader.view last)) := by
      obtain ⟨j, hj⟩ := hlastKnown
      exact (h.pageable j).tuple hj
    obtain ⟨page, hpage, hforward⟩ :=
      Paginator.paginate_after (h.pageable k) hsize htuple htoken
    refine ⟨page, hpage, ?_⟩
    have hahead : reader.ahead done (rows k) =
        (MemoryQuery.ofItems reader.view (rows k)).sortedBeside reader.order .gt
          (reader.order.keyValues (reader.view last)) := by
      apply List.filter_congr
      intro row hrow
      have hrow : Known rows row := ⟨k, h.mem_sorted.mp hrow⟩
      rw [Bool.eq_iff_iff, List.all_eq_true, beq_iff_eq]
      simp only [beq_iff_eq]
      refine (h.precedes_last_iff hknown hincreasing hlast hrow).symm.trans ?_
      rw [h.precedes_iff_gt hlastKnown hrow, h.compare_eq hrow hlastKnown]
      rfl
    rw [hahead]
    exact hforward

/-! ## Progress -/

theorem stopped_snoc {pages : List (Page α)} {page : Page α} :
    Stopped (pages ++ [page]) ↔ page.hasNextPage = false := by
  constructor
  · rintro ⟨last, hlast, hstop⟩
    rw [List.getLast?_concat] at hlast
    cases hlast
    exact hstop
  · exact fun hstop => ⟨page, List.getLast?_concat, hstop⟩

theorem not_stopped_of_next {pages : List (Page α)} {position : Position}
    (h : nextPosition? pages = some position) : ¬Stopped pages := by
  rintro ⟨last, hlast, hstop⟩
  rw [nextPosition?, hlast] at h
  simp only [hstop, Bool.false_eq_true, if_false] at h
  cases h

/-- What holds after every request: the rows returned are strictly increasing; a row that was there
    at every request is among them, or else it follows them all and the walk has not stopped; and
    what has not stopped can go on. -/
structure Progress (reader : PageReader α) (rows : Nat → List α) (pages : List (Page α)) :
    Prop where
  known : ∀ row ∈ returned pages, Known rows row
  increasing : (returned pages).Pairwise reader.Precedes
  complete : ∀ row, (∀ k < pages.length, row ∈ rows k) → row ∈ returned pages ∨
    ¬Stopped pages ∧ ∀ d ∈ returned pages, reader.Precedes d row
  resumes : Stopped pages ∨
    ∃ position, nextPosition? pages = some position ∧ reader.Past (returned pages) position

theorem Progress.nil : reader.Progress rows [] where
  known row hrow := by cases hrow
  increasing := .nil
  complete row _ := Or.inr ⟨not_stopped_of_next rfl, fun d hd => by cases hd⟩
  resumes := Or.inr ⟨.start, rfl, Or.inl ⟨rfl, rfl⟩⟩

/-- A page that is not the last one marks its last item. -/
theorem exists_last {page : Page α} {rows : List α} {anchored : Bool}
    (hpage : page.IsForward reader.view reader.order rows reader.size anchored)
    (hsize : reader.size ≠ 0) (hnext : page.hasNextPage = true) :
    ∃ row token, page.items.getLast? = some row ∧
      Cursor.encode (reader.order.keyValues (reader.view row)) = .ok token ∧
      page.endCursor = some token := by
  have hlt : reader.size < rows.length := of_decide_eq_true (hpage.hasNext.symm.trans hnext)
  have hitems : page.items ≠ [] := by
    rw [hpage.items]
    intro hnil
    rw [List.take_eq_nil_iff] at hnil
    rcases hnil with hzero | rfl
    · exact hsize hzero
    · exact absurd hlt (Nat.not_lt_zero _)
  have hmark := hpage.marks.2
  rw [List.getLast?_eq_some_getLast hitems] at hmark ⊢
  cases hend : page.endCursor with
  | none =>
      rw [hend] at hmark
      cases hmark
  | some token =>
      rw [hend] at hmark
      exact ⟨_, token, rfl, Option.some.inj hmark, rfl⟩

/-- **One more request keeps up the progress.** -/
theorem Progress.extend {pages : List (Page α)} {page : Page α} {anchored : Bool}
    (hprogress : reader.Progress rows pages) (h : reader.Snapshots schema rows)
    (hsize : reader.size ≠ 0)
    (hpage : page.IsForward reader.view reader.order
      (reader.ahead (returned pages) (rows pages.length)) reader.size anchored) :
    reader.Progress rows (pages ++ [page]) := by
  have hahead := h.ahead_increasing (returned pages) pages.length
  have hitem {row : α} (hrow : row ∈ page.items) :
      row ∈ reader.ahead (returned pages) (rows pages.length) := by
    rw [hpage.items] at hrow
    exact List.mem_of_mem_take hrow
  refine ⟨fun row hrow => ?_, ?_, fun row hrow => ?_, ?_⟩
  · rw [returned_snoc] at hrow
    rcases List.mem_append.mp hrow with hrow | hrow
    · exact hprogress.known row hrow
    · exact ⟨pages.length, h.mem_sorted.mp (mem_ahead.mp (hitem hrow)).1⟩
  · rw [returned_snoc]
    refine List.pairwise_append.mpr ⟨hprogress.increasing, ?_, fun d hd row hrow =>
      (mem_ahead.mp (hitem hrow)).2 d hd⟩
    rw [hpage.items]
    exact hahead.sublist (List.take_sublist _ _)
  · have hlength : (pages ++ [page]).length = pages.length + 1 := by simp
    rw [hlength] at hrow
    rw [returned_snoc, stopped_snoc]
    rcases hprogress.complete row fun k hk => hrow k (by omega) with hdone | ⟨-, hafter⟩
    · exact Or.inl (List.mem_append_left _ hdone)
    · -- the row is ahead: on this page, or beyond it
      have hrowAhead : row ∈ reader.ahead (returned pages) (rows pages.length) :=
        mem_ahead.mpr ⟨h.mem_sorted.mpr (hrow pages.length (by omega)), hafter⟩
      rw [← List.take_append_drop reader.size
        (reader.ahead (returned pages) (rows pages.length))] at hahead hrowAhead
      rw [← hpage.items] at hahead hrowAhead
      rcases List.mem_append.mp hrowAhead with hitem | hbeyond
      · exact Or.inl (List.mem_append_right _ hitem)
      · refine Or.inr ⟨?_, fun d hd => ?_⟩
        · have hlt := List.length_pos_of_mem hbeyond
          rw [List.length_drop] at hlt
          rw [hpage.hasNext, Bool.not_eq_false, decide_eq_true_iff]
          omega
        · rcases List.mem_append.mp hd with hd | hd
          · exact hafter d hd
          · exact (List.pairwise_append.mp hahead).2.2 d hd row hbeyond
  · cases hnext : page.hasNextPage with
    | false => exact Or.inl (stopped_snoc.mpr hnext)
    | true =>
        obtain ⟨row, token, hlast, htoken, hend⟩ := exists_last hpage hsize hnext
        refine Or.inr ⟨.after token, ?_, Or.inr ⟨row, token, ?_, htoken, rfl⟩⟩
        · simp only [nextPosition?, List.getLast?_concat, hnext, hend, if_true, Option.map_some]
        · rw [returned_snoc, List.getLast?_append, hlast]
          rfl

/-- The page that a walk goes on with holds the first of the rows ahead. -/
theorem Progress.forward {pages : List (Page α)} {position : Position} {page : Page α}
    (hprogress : reader.Progress rows pages) (h : reader.Snapshots schema rows)
    (hsize : reader.paginator.checkSize reader.size = .ok ())
    (hnext : nextPosition? pages = some position)
    (hfetch : reader.fetch (rows pages.length) position = .ok page) :
    page.IsForward reader.view reader.order (reader.ahead (returned pages) (rows pages.length))
      reader.size position.cursor?.isSome := by
  rcases hprogress.resumes with hstop | ⟨position', hnext', hpast⟩
  · exact absurd hstop (not_stopped_of_next hnext)
  · cases hnext.symm.trans hnext'
    obtain ⟨page', hpage', hforward⟩ :=
      fetch_ahead h hsize hprogress.known hprogress.increasing hpast pages.length
    cases hfetch.symm.trans hpage'
    exact hforward

/-- **Every walk makes progress.** -/
theorem Progress.of_walk {pages : List (Page α)} (h : reader.Snapshots schema rows)
    (hsize : reader.paginator.checkSize reader.size = .ok ()) (hwalk : reader.Walk rows pages) :
    reader.Progress rows pages := by
  induction hwalk with
  | nil => exact .nil
  | snoc _ hnext hfetch ih =>
      exact ih.extend h (Paginator.size_ne_zero hsize) (ih.forward h hsize hnext hfetch)

/-- **A walk that has not stopped goes on**: its next request does not fail. -/
theorem Progress.continues {pages : List (Page α)} (hprogress : reader.Progress rows pages)
    (h : reader.Snapshots schema rows) (hsize : reader.paginator.checkSize reader.size = .ok ())
    (hgoing : ¬Stopped pages) : ∃ position page, nextPosition? pages = some position ∧
      reader.fetch (rows pages.length) position = .ok page := by
  rcases hprogress.resumes with hstop | ⟨position, hnext, hpast⟩
  · exact absurd hstop hgoing
  · obtain ⟨page, hpage, -⟩ :=
      fetch_ahead h hsize hprogress.known hprogress.increasing hpast pages.length
    exact ⟨position, page, hnext, hpage⟩

/-! ## Rows that do not change -/

/-- What holds after every request if the rows stay the same: the sorted rows are those returned
    and the rest, pages are full while there is a rest, and the walk stops when there is none. -/
structure Unchanged (reader : PageReader α) (rows : Nat → List α) (pages : List (Page α))
    (rest : List α) : Prop where
  split : reader.sorted (rows 0) = returned pages ++ rest
  full : rest ≠ [] → (returned pages).length = pages.length * reader.size
  stopped : Stopped pages ↔ pages ≠ [] ∧ rest = []
  /-- Every page but the first was asked for because something was left. -/
  needed : pages.length ≤ 1 ∨ (pages.length - 1) * reader.size < (rows 0).length

theorem Unchanged.nil : reader.Unchanged rows [] (reader.sorted (rows 0)) where
  split := rfl
  full _ := (Nat.zero_mul _).symm
  stopped := ⟨fun h => absurd h (not_stopped_of_next rfl), fun h => absurd rfl h.1⟩
  needed := Or.inl (Nat.zero_le _)

/-- The rows ahead are the rest. -/
theorem Unchanged.ahead_eq {pages : List (Page α)} {rest : List α}
    (hunchanged : reader.Unchanged rows pages rest) (h : reader.Snapshots schema rows) :
    reader.ahead (returned pages) (rows 0) = rest := by
  have hincreasing := h.sorted_increasing 0
  have hknown {row : α} (hrow : row ∈ reader.sorted (rows 0)) : Known rows row :=
    ⟨0, h.mem_sorted.mp hrow⟩
  rw [ahead]
  rw [hunchanged.split] at hincreasing hknown ⊢
  rw [List.filter_append]
  have hreturned : ∀ row ∈ returned pages, ¬((returned pages).all fun d =>
      reader.order.compare (reader.view d) (reader.view row) == .lt) = true := by
    intro row hrow hall
    have hself := List.all_eq_true.mp hall row hrow
    exact h.not_precedes_self (hknown (List.mem_append_left _ hrow)) (beq_iff_eq.mp hself)
  have hrest : ∀ row ∈ rest, ((returned pages).all fun d =>
      reader.order.compare (reader.view d) (reader.view row) == .lt) = true := by
    intro row hrow
    rw [List.all_eq_true]
    exact fun d hd => beq_iff_eq.mpr ((List.pairwise_append.mp hincreasing).2.2 d hd row hrow)
  rw [List.filter_eq_nil_iff.mpr hreturned, List.filter_eq_self.mpr hrest, List.nil_append]

/-- One more request takes a page from the rest. -/
theorem Unchanged.extend {pages : List (Page α)} {page : Page α} {rest : List α} {anchored : Bool}
    (hunchanged : reader.Unchanged rows pages rest) (h : reader.Snapshots schema rows)
    (hgoing : ¬Stopped pages)
    (hpage : page.IsForward reader.view reader.order rest reader.size anchored) :
    reader.Unchanged rows (pages ++ [page]) (rest.drop reader.size) := by
  have hlength : (pages ++ [page]).length = pages.length + 1 := by simp
  refine ⟨?_, fun hne => ?_, ?_, ?_⟩
  · rw [hunchanged.split, returned_snoc, hpage.items, List.append_assoc, List.take_append_drop]
  · have hlt : reader.size < rest.length :=
      Nat.lt_of_not_le fun hle => hne (List.drop_eq_nil_of_le hle)
    have hrest : rest ≠ [] := List.ne_nil_of_length_pos (Nat.zero_lt_of_lt hlt)
    rw [returned_snoc, List.length_append, hunchanged.full hrest, hpage.items, List.length_take,
      Nat.min_eq_left (Nat.le_of_lt hlt), hlength, Nat.add_mul, Nat.one_mul]
  · rw [stopped_snoc, hpage.hasNext, decide_eq_false_iff_not, List.drop_eq_nil_iff]
    simp
  · rw [hlength, Nat.add_sub_cancel]
    cases pages with
    | nil => exact Or.inl (Nat.le_refl _)
    | cons first pages =>
        have hrest : rest ≠ [] := fun hnil =>
          hgoing (hunchanged.stopped.mpr ⟨List.cons_ne_nil _ _, hnil⟩)
        have hcount := (h.isStableSort 0).perm.length_eq
        have hpos := List.length_pos_iff.mpr hrest
        rw [hunchanged.split, List.length_append, hunchanged.full hrest] at hcount
        exact Or.inr (by omega)

theorem Unchanged.of_walk {pages : List (Page α)} (h : reader.Snapshots schema rows)
    (hsize : reader.paginator.checkSize reader.size = .ok ()) (hsame : ∀ k, rows k = rows 0)
    (hwalk : reader.Walk rows pages) : ∃ rest, reader.Unchanged rows pages rest := by
  induction hwalk with
  | nil => exact ⟨_, .nil⟩
  | @snoc pages position page hwalk hnext hfetch ih =>
      obtain ⟨rest, hunchanged⟩ := ih
      have hforward := (Progress.of_walk h hsize hwalk).forward h hsize hnext hfetch
      rw [hsame pages.length, hunchanged.ahead_eq h] at hforward
      exact ⟨_, hunchanged.extend h (not_stopped_of_next hnext) hforward⟩

/-- The number of pages is at most that of the rows by the size, rounded up, and one if there are
    none. -/
theorem Unchanged.length_le {pages : List (Page α)} {rest : List α}
    (hunchanged : reader.Unchanged rows pages rest) (hsize : reader.size ≠ 0) :
    pages.length ≤ max 1 (((rows 0).length + reader.size - 1) / reader.size) := by
  rcases hunchanged.needed with hone | hneeded
  · exact Nat.le_trans hone (Nat.le_max_left _ _)
  · refine Nat.le_trans ?_ (Nat.le_max_right _ _)
    rw [Nat.le_div_iff_mul_le (Nat.pos_of_ne_zero hsize)]
    cases hlength : pages.length with
    | zero => omega
    | succ n =>
        rw [hlength, Nat.add_sub_cancel] at hneeded
        rw [Nat.add_mul, Nat.one_mul]
        omega

/-- A walk goes on until it stops. -/
theorem exists_walk (h : reader.Snapshots schema rows)
    (hsize : reader.paginator.checkSize reader.size = .ok ()) (n : Nat) :
    ∃ pages, reader.Walk rows pages ∧ (Stopped pages ∨ pages.length = n) := by
  induction n with
  | zero => exact ⟨[], .nil, Or.inr rfl⟩
  | succ n ih =>
      obtain ⟨pages, hwalk, hend⟩ := ih
      by_cases hstop : Stopped pages
      · exact ⟨pages, hwalk, Or.inl hstop⟩
      · have hlength : pages.length = n := hend.resolve_left hstop
        obtain ⟨position, page, hnext, hfetch⟩ :=
          (Progress.of_walk h hsize hwalk).continues h hsize hstop
        exact ⟨pages ++ [page], hwalk.snoc hnext hfetch, Or.inr (by simp [hlength])⟩

/-! ## The law -/

/-- **The walk law.** Whatever happens to the rows between the requests of a walk: until it stops
    its next request succeeds; the rows that it returns are strictly increasing; and once it has
    stopped, a row that was there at every request was returned exactly once. If nothing happens to
    them, it stops, after no more pages than the rows fill, and returns exactly the sorted rows. -/
theorem walk_law {reader : PageReader α} {schema : Schema} {rows : Nat → List α}
    (h : reader.Snapshots schema rows) (hsize : reader.paginator.checkSize reader.size = .ok ()) :
    (∀ pages, reader.Walk rows pages →
      (¬Stopped pages → ∃ position page, nextPosition? pages = some position ∧
        reader.fetch (rows pages.length) position = .ok page) ∧
      (returned pages).Pairwise reader.Precedes ∧
      (Stopped pages → ∀ row, (∀ k < pages.length, row ∈ rows k) →
        ∃ front back, returned pages = front ++ row :: back ∧ row ∉ front ∧ row ∉ back)) ∧
    ((∀ k, rows k = rows 0) →
      (∃ pages, reader.Walk rows pages ∧ Stopped pages) ∧
      ∀ pages, reader.Walk rows pages →
        pages.length ≤ max 1 (((rows 0).length + reader.size - 1) / reader.size) ∧
        (Stopped pages → SortOrder.IsStableSort
          (fun a b => reader.order.compare (reader.view a) (reader.view b)) (rows 0)
          (returned pages))) := by
  refine ⟨fun pages hwalk => ?_, fun hsame => ⟨?_, fun pages hwalk => ?_⟩⟩
  · have hprogress := Progress.of_walk h hsize hwalk
    refine ⟨hprogress.continues h hsize, hprogress.increasing, ?_⟩
    intro hstop row hrow
    have hmem := (hprogress.complete row hrow).resolve_right fun hgoing => hgoing.1 hstop
    obtain ⟨front, back, hsplit⟩ := List.append_of_mem hmem
    have hself := h.not_precedes_self (hprogress.known row hmem)
    have hincreasing := hprogress.increasing
    rw [hsplit, List.pairwise_append, List.pairwise_cons] at hincreasing
    obtain ⟨-, ⟨hback, -⟩, hfront⟩ := hincreasing
    exact ⟨front, back, hsplit, fun hmem => hself (hfront row hmem row List.mem_cons_self),
      fun hmem => hself (hback row hmem)⟩
  · -- one page more than there can be
    obtain ⟨pages, hwalk, hend⟩ := exists_walk h hsize
      (max 1 (((rows 0).length + reader.size - 1) / reader.size) + 1)
    obtain ⟨rest, hunchanged⟩ := Unchanged.of_walk h hsize hsame hwalk
    have hle := hunchanged.length_le (Paginator.size_ne_zero hsize)
    exact ⟨pages, hwalk, hend.resolve_right fun hlength => by omega⟩
  · obtain ⟨rest, hunchanged⟩ := Unchanged.of_walk h hsize hsame hwalk
    refine ⟨hunchanged.length_le (Paginator.size_ne_zero hsize), ?_⟩
    intro hstop
    have hsplit := hunchanged.split
    rw [(hunchanged.stopped.mp hstop).2, List.append_nil] at hsplit
    rw [← hsplit]
    exact h.isStableSort 0

/-- People one by one, those in no city last. -/
def peopleByCity : PageReader Record := ⟨{}, people, Seek.byCity, id, 1⟩

/-- A settler who is gone after the first request. -/
def leaving : Nat → List Record
  | 0 => [wanderer, settler]
  | _ => [wanderer]

theorem mem_leaving {k : Nat} {row : Record} (h : row ∈ leaving k) :
    row = wanderer ∨ row = settler := by
  cases k with
  | zero => simpa [leaving] using h
  | succ k => exact Or.inl (List.mem_singleton.mp h)

theorem leaving_snapshots : peopleByCity.Snapshots people.root leaving where
  nonempty := List.cons_ne_nil _ _
  resolved := Seek.byCity_resolved
  conforms k row hrow := by
    rcases mem_leaving hrow with rfl | rfl
    · exact wanderer_conforms
    · exact settler_conforms
  exact k row hrow := by
    rcases mem_leaving hrow with rfl | rfl
    · exact Paginator.byCity_exact.1
    · exact Paginator.byCity_exact.2
  countable k := by
    cases k with
    | zero => decide
    | succ k => exact (by decide : [wanderer].length ≤ greatestCount)
  distinct k := by
    cases k with
    | zero =>
        refine List.nodup_cons.mpr ⟨?_, List.pairwise_singleton _ _⟩
        intro h
        have hids := congrArg (Record.field · "id") (List.mem_singleton.mp h)
        cases hids
    | succ k => exact List.pairwise_singleton _ _
  identified j k a ha b hb h := by
    rcases mem_leaving ha with rfl | rfl <;> rcases mem_leaving hb with rfl | rfl <;>
      first | rfl | cases h

theorem walk_law_leaving : ∃ pages, peopleByCity.Walk leaving pages ∧ Stopped pages ∧
    pages.length = 2 ∧ ∃ front back, returned pages = front ++ wanderer :: back ∧
      wanderer ∉ front ∧ wanderer ∉ back := by
  have hlaw := (@walk_law Record peopleByCity people.root leaving leaving_snapshots rfl).1
  obtain ⟨opening, first, hopening, hfirst⟩ := (hlaw [] .nil).1 (not_stopped_of_next rfl)
  have hwalk : peopleByCity.Walk leaving [first] := Walk.nil.snoc hopening hfirst
  have hforward := Progress.nil.forward leaving_snapshots rfl hopening hfirst
  have hitems : returned [first] = [settler] := (List.append_nil _).trans hforward.items
  have hgoing : ¬Stopped [first] := fun hstop => by
    have hnext := (@stopped_snoc Record [] first).mp hstop
    rw [hforward.hasNext] at hnext
    cases hnext
  obtain ⟨position, second, hnext, hsecond⟩ := (hlaw [first] hwalk).1 hgoing
  have hpages : peopleByCity.Walk leaving ([first] ++ [second]) := hwalk.snoc hnext hsecond
  have hlast := (Progress.of_walk leaving_snapshots rfl hwalk).forward leaving_snapshots rfl hnext
    hsecond
  rw [hitems] at hlast
  have hstop : Stopped ([first] ++ [second]) := stopped_snoc.mpr hlast.hasNext
  refine ⟨_, hpages, hstop, rfl, (hlaw _ hpages).2.2 hstop wanderer ?_⟩
  intro k _
  cases k <;> exact List.mem_cons_self

end PageReader
end RecordQuery
