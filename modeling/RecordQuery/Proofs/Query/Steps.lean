import RecordQuery.Proofs.Ordering.Transitive

/-!
# `Proofs.Query.Steps` — queries built in any order

A query is built by calls in any order. Each sort of call counts by itself: the filters add up in
their order, of the sort keys those count that the last call for a first key and the calls after it
give, and of the limits the least one. A query so built fails on the first item that some filter
cannot be tested on, whatever its limit is. Otherwise it gives the first of the sorted matching
items, if the order of these is transitive; of any other order nothing is said.

## Contents
- `QueryStep`, `MemoryQuery.built`: the calls, and the query that they build.
- `predicates_after`, `limit_after`, `sortsBy_iff`, `built_congr`: what a list of calls comes to.
- `selectFrom_error_iff`: the first item that cannot be tested.
- `Testable.run_sorted`: the sort of the matching items.
- `built_law`: **what a built query gives**; `built_mixed_unsorted`: numbers of two kinds.
-/

namespace RecordQuery

/-! ## Calls -/

/-- A call that builds a query. -/
inductive QueryStep where
  | filter (predicate : Predicate)
  | orderBy (key : SortKey)
  | thenBy (key : SortKey)
  | take (count : Nat)

namespace QueryStep

def predicate? : QueryStep → Option Predicate
  | filter predicate => some predicate
  | _ => none

/-- The key of a call that adds a key. -/
def nextKey? : QueryStep → Option SortKey
  | thenBy key => some key
  | _ => none

def count? : QueryStep → Option Nat
  | take count => some count
  | _ => none

/-- Whether the call drops the keys before it. -/
def isOrderBy : QueryStep → Bool
  | orderBy _ => true
  | _ => false

/-- Whether the call is about the order. -/
def isOrdering : QueryStep → Bool
  | orderBy _ | thenBy _ => true
  | _ => false

/-- The filters of a list of calls. -/
def filters (steps : List QueryStep) : List Predicate := steps.filterMap predicate?

/-- The keys that a list of calls adds. -/
def nextKeys (steps : List QueryStep) : SortOrder := steps.filterMap nextKey?

/-- The limits of a list of calls. -/
def counts (steps : List QueryStep) : List Nat := steps.filterMap count?

/-- The sort keys of a list of calls: the key of the last `orderBy`, then those of the `thenBy` calls
after it; all those of the `thenBy` calls if there is no `orderBy`. -/
inductive SortsBy : List QueryStep → SortOrder → Prop
  | unordered {steps : List QueryStep} (none : ∀ step ∈ steps, step.isOrderBy = false) :
      SortsBy steps (nextKeys steps)
  | ordered (front : List QueryStep) (key : SortKey) {back : List QueryStep}
      (last : ∀ step ∈ back, step.isOrderBy = false) :
      SortsBy (front ++ orderBy key :: back) (key :: nextKeys back)

theorem exists_sortsBy (steps : List QueryStep) : ∃ keys, SortsBy steps keys := by
  induction steps with
  | nil => exact ⟨_, .unordered nofun⟩
  | cons step steps ih =>
      obtain ⟨keys, h⟩ := ih
      cases h with
      | ordered front key last => exact ⟨_, .ordered (step :: front) key last⟩
      | unordered none =>
          cases step with
          | orderBy key => exact ⟨_, .ordered [] key none⟩
          | _ => exact ⟨_, .unordered (List.forall_mem_cons.mpr ⟨rfl, none⟩)⟩

end QueryStep

namespace MemoryQuery

open QueryStep

variable {α : Type} {query : MemoryQuery α} {steps : List QueryStep}

/-- The query after a call. -/
def afterStep (query : MemoryQuery α) : QueryStep → MemoryQuery α
  | .filter predicate => query.filter predicate
  | .orderBy key => query.orderBy key
  | .thenBy key => query.thenBy key
  | .take count => query.take count

/-- The query after calls, one after the other. -/
def after (query : MemoryQuery α) (steps : List QueryStep) : MemoryQuery α :=
  steps.foldl afterStep query

/-- The query over items that the calls build. -/
def built (view : α → Record) (items : List α) (steps : List QueryStep) : MemoryQuery α :=
  (ofItems view items).after steps

/-! ## What the calls come to -/

theorem items_after (query : MemoryQuery α) (steps : List QueryStep) :
    (query.after steps).items = query.items ∧ (query.after steps).view = query.view := by
  induction steps generalizing query with
  | nil => exact ⟨rfl, rfl⟩
  | cons step steps ih =>
      obtain ⟨hitems, hview⟩ := ih (query.afterStep step)
      cases step <;> exact ⟨hitems, hview⟩

/-- Filters add up. -/
theorem predicates_after (query : MemoryQuery α) (steps : List QueryStep) :
    (query.after steps).predicates = query.predicates ++ filters steps := by
  induction steps generalizing query with
  | nil => exact (List.append_nil _).symm
  | cons step steps ih =>
      have ih := ih (query.afterStep step)
      cases step with
      | filter predicate => exact ih.trans (List.append_assoc _ _ _)
      | _ => exact ih

/-- The least limit counts. -/
theorem limit_after (query : MemoryQuery α) (steps : List QueryStep) :
    (query.after steps).limit = (query.limit.toList ++ counts steps).min? := by
  induction steps generalizing query with
  | nil =>
      show query.limit = _
      cases query.limit <;> rfl
  | cons step steps ih =>
      have ih := ih (query.afterStep step)
      cases step with
      | take count =>
          refine ih.trans ?_
          simp only [afterStep, MemoryQuery.take]
          cases query.limit <;> rfl
      | _ => exact ih

/-- Without an `orderBy` keys add up. -/
theorem keys_after_of_unordered (query : MemoryQuery α)
    (h : ∀ step ∈ steps, step.isOrderBy = false) :
    (query.after steps).keys = query.keys ++ nextKeys steps := by
  induction steps generalizing query with
  | nil => exact (List.append_nil _).symm
  | cons step steps ih =>
      obtain ⟨hstep, hsteps⟩ := List.forall_mem_cons.mp h
      have ih := ih (query.afterStep step) hsteps
      cases step with
      | orderBy key => cases hstep
      | thenBy key => exact ih.trans (List.append_assoc _ _ _)
      | _ => exact ih

theorem after_append (query : MemoryQuery α) (front back : List QueryStep) :
    query.after (front ++ back) = (query.after front).after back :=
  List.foldl_append

theorem keys_built {view : α → Record} {items : List α} {keys : SortOrder}
    (h : SortsBy steps keys) : (built view items steps).keys = keys := by
  cases h with
  | unordered none => exact keys_after_of_unordered _ none
  | ordered front key last =>
      rw [built, after_append]
      exact keys_after_of_unordered (((ofItems view items).after front).orderBy key) last

/-- **The sort keys of a built query.** -/
theorem sortsBy_iff {view : α → Record} {items : List α} {keys : SortOrder} :
    SortsBy steps keys ↔ (built view items steps).keys = keys := by
  constructor
  · exact keys_built
  · rintro rfl
    obtain ⟨keys, h⟩ := exists_sortsBy steps
    rwa [keys_built h]

/-- The keys depend on the calls about the order alone. -/
theorem keys_after_filter {other : MemoryQuery α} (h : query.keys = other.keys)
    (steps : List QueryStep) :
    (query.after steps).keys = (other.after (steps.filter isOrdering)).keys := by
  induction steps generalizing query other with
  | nil => exact h
  | cons step steps ih =>
      cases step with
      | filter predicate => exact ih h
      | take count => exact ih h
      | orderBy key => exact ih rfl
      | thenBy key => exact ih (congrArg (· ++ [key]) h)

theorem min?_congr {as bs : List Nat} (h : as.Perm bs) : as.min? = bs.min? := by
  cases has : as.min? with
  | none =>
      have has := List.min?_eq_none_iff.mp has
      subst has
      rw [h.nil_eq.symm]
      rfl
  | some a =>
      obtain ⟨hmem, hle⟩ := List.min?_eq_some_iff.mp has
      refine (List.min?_eq_some_iff.mpr ⟨h.mem_iff.mp hmem, ?_⟩).symm
      intro b hb
      exact hle b (h.mem_iff.mpr hb)

/-- **Calls of different sorts may be made in any order.** -/
theorem built_congr (view : α → Record) (items : List α) {steps' : List QueryStep}
    (hfilters : filters steps' = filters steps)
    (horder : steps'.filter isOrdering = steps.filter isOrdering)
    (htakes : (counts steps').Perm (counts steps)) :
    built view items steps' = built view items steps := by
  have hpredicates : (built view items steps').predicates = (built view items steps).predicates := by
    rw [built, built, predicates_after, predicates_after, hfilters]
  have hkeys : (built view items steps').keys = (built view items steps).keys := by
    have hordering (calls : List QueryStep) : (built view items calls).keys =
        ((ofItems view items).after (calls.filter isOrdering)).keys := keys_after_filter rfl calls
    rw [hordering, hordering, horder]
  have hlimit : (built view items steps').limit = (built view items steps).limit := by
    rw [built, built, limit_after, limit_after]
    exact min?_congr (htakes.append_left _)
  obtain ⟨hitems, hview⟩ := items_after (ofItems view items) steps
  obtain ⟨hitems', hview'⟩ := items_after (ofItems view items) steps'
  have hitems : (built view items steps').items = (built view items steps).items :=
    hitems'.trans hitems.symm
  have hview : (built view items steps').view = (built view items steps).view :=
    hview'.trans hview.symm
  cases hquery : built view items steps'
  cases hquery' : built view items steps
  simp only [hquery, hquery'] at hpredicates hkeys hlimit hitems hview
  rw [hpredicates, hkeys, hlimit, hitems, hview]

/-! ## Testing items -/

/-- The error of the first of the items that cannot be tested. -/
def FirstError (view : α → Record) (filters : List Predicate) (items : List α) (e : EvalError) :
    Prop :=
  ∃ front item back, items = front ++ item :: back ∧
    (∀ earlier ∈ front, ∃ b, meetsAll filters (view earlier) = .ok b) ∧
    meetsAll filters (view item) = .error e

section FirstError

variable {view : α → Record} {filters : List Predicate} {item : α} {items : List α}
  {e found : EvalError}

theorem not_firstError_nil : ¬FirstError view filters [] e := by
  rintro ⟨front, item, back, h, -⟩
  cases front <;> cases h

theorem firstError_cons_of_error (h : meetsAll filters (view item) = .error found) :
    FirstError view filters (item :: items) e ↔ found = e := by
  constructor
  · rintro ⟨front, other, back, heq, hfront, herror⟩
    cases front with
    | nil =>
        cases heq
        cases h.symm.trans herror
        rfl
    | cons first front =>
        cases heq
        obtain ⟨b, hb⟩ := hfront item List.mem_cons_self
        cases h.symm.trans hb
  · rintro rfl
    exact ⟨[], item, items, rfl, nofun, h⟩

theorem firstError_cons_of_ok {kept : Bool} (h : meetsAll filters (view item) = .ok kept) :
    FirstError view filters (item :: items) e ↔ FirstError view filters items e := by
  constructor
  · rintro ⟨front, other, back, heq, hfront, herror⟩
    cases front with
    | nil =>
        cases heq
        cases h.symm.trans herror
    | cons first front =>
        cases heq
        exact ⟨front, other, back, rfl, (List.forall_mem_cons.mp hfront).2, herror⟩
  · rintro ⟨front, other, back, rfl, hfront, herror⟩
    exact ⟨item :: front, other, back, rfl, List.forall_mem_cons.mpr ⟨⟨kept, h⟩, hfront⟩, herror⟩

end FirstError

/-- **Selecting fails on the first item that cannot be tested**, and on no other. -/
theorem selectFrom_error_iff {items : List α} {e : EvalError} :
    query.selectFrom items = .error e ↔ FirstError query.view query.predicates items e := by
  induction items with
  | nil => exact iff_of_false (by simp [selectFrom]) not_firstError_nil
  | cons item items ih =>
      rw [selectFrom]
      cases hitem : query.meets item with
      | error found =>
          rw [firstError_cons_of_error hitem]
          exact ⟨Except.error.inj, congrArg Except.error⟩
      | ok kept =>
          rw [firstError_cons_of_ok hitem, ← ih]
          cases query.selectFrom items with
          | error found => exact Iff.rfl
          | ok rest => simp [bind, Except.bind]

theorem run_error_iff {e : EvalError} :
    query.run = .error e ↔ FirstError query.view query.predicates query.items e := by
  rw [← selectFrom_error_iff, run]
  cases query.selectFrom query.items with
  | error found => exact Iff.rfl
  | ok selected => simp [bind, Except.bind]

theorem count_error_iff {e : EvalError} :
    query.count = .error e ↔ FirstError query.view query.predicates query.items e := by
  rw [← selectFrom_error_iff, count]
  cases query.selectFrom query.items with
  | error found => constructor <;> (intro h; cases h; rfl)
  | ok selected => simp [bind, Except.bind]

/-- A record meets all filters if it meets each. -/
theorem meetsAll_iff {filters : List Predicate} {record : Record} :
    meetsAll filters record = .ok true ↔ ∀ p ∈ filters, p.evaluate record = .ok true := by
  induction filters with
  | nil => exact iff_of_true rfl nofun
  | cons p filters ih =>
      rw [List.forall_mem_cons, ← ih, meetsAll]
      cases p.evaluate record with
      | error e => simp [bind, Except.bind]
      | ok b => cases b <;> simp [bind, Except.bind]

theorem keeps_iff {item : α} : query.keeps item = true ↔
    ∀ p ∈ query.predicates, p.evaluate (query.view item) = .ok true := by
  rw [← meetsAll_iff, keeps, meets]
  cases meetsAll query.predicates (query.view item) <;> simp

theorem Testable.count_eq (h : query.Testable) : query.count = .ok query.matching.length := by
  rw [count, selectFrom_eq fun item hi => h.meets_eq hi]
  rfl

/-- Where the order is transitive on the matching items, a query gives the first of them in a stable
sort. -/
theorem Testable.run_sorted (h : query.Testable)
    (htrans : query.keys.TransitiveOn (query.matching.map query.view)) :
    ∃ sorted, SortOrder.IsStableSort query.compareItems query.matching sorted ∧
      query.run = .ok (match query.limit with | none => sorted | some n => sorted.take n) := by
  refine ⟨SortOrder.stableSort query.compareItems query.matching, ?_, h.run_eq⟩
  apply SortOrder.isStableSort_of_transitive
  · intro a _ b _
    exact SortOrder.compare_swap _ _ _
  · intro a ha b hb c hc
    exact htrans _ (List.mem_map_of_mem ha) _ (List.mem_map_of_mem hb) _ (List.mem_map_of_mem hc)

/-! ## The law -/

/-- **What a built query gives**, whatever the calls and their order. Running and counting fail with
the error of the first item that cannot be tested, and with no other. If all items can be tested,
counting gives the number of those that meet every filter. If moreover the order by the keys of the
last `orderBy` and of the `thenBy` calls after it is transitive on the matching items, as it is if
each key has values of one kind and no `nan`, running gives the first of them in a stable sort, as
many as the least limit says and all without a limit. Calls with the same filters and the same calls
about the order, each in turn, and the same limits build queries that give the same. -/
theorem built_law (view : α → Record) (items : List α) (steps : List QueryStep) :
    (∀ e, (built view items steps).run = .error e ↔ FirstError view (filters steps) items e) ∧
    (∀ e, (built view items steps).count = .error e ↔ FirstError view (filters steps) items e) ∧
    ((∀ item ∈ items, ∃ b, meetsAll (filters steps) (view item) = .ok b) →
      ∃ (keep : α → Bool) (keys : SortOrder),
        (∀ item, keep item = true ↔ ∀ p ∈ filters steps, p.evaluate (view item) = .ok true) ∧
        SortsBy steps keys ∧
        (built view items steps).count = .ok (items.filter keep).length ∧
        (keys.UniformOn ((items.filter keep).map view) →
          keys.TransitiveOn ((items.filter keep).map view)) ∧
        (keys.TransitiveOn ((items.filter keep).map view) → ∃ sorted,
          SortOrder.IsStableSort (fun a b => keys.compare (view a) (view b)) (items.filter keep)
            sorted ∧
          (built view items steps).run = .ok (match (counts steps).min? with
            | none => sorted
            | some m => sorted.take m))) ∧
    ∀ steps', filters steps' = filters steps →
      steps'.filter isOrdering = steps.filter isOrdering → (counts steps').Perm (counts steps) →
      (built view items steps').run = (built view items steps).run ∧
        (built view items steps').count = (built view items steps).count := by
  have hpredicates : (built view items steps).predicates = filters steps :=
    predicates_after (ofItems view items) steps
  have hlimit : (built view items steps).limit = (counts steps).min? :=
    limit_after (ofItems view items) steps
  obtain ⟨hitems, hview⟩ := items_after (ofItems view items) steps
  have hitems : (built view items steps).items = items := hitems
  have hview : (built view items steps).view = view := hview
  refine ⟨?_, ?_, ?_, ?_⟩
  · intro e
    rw [run_error_iff, hview, hpredicates, hitems]
  · intro e
    rw [count_error_iff, hview, hpredicates, hitems]
  · intro htest
    have htestable : (built view items steps).Testable := by
      rw [Testable, hitems]
      intro item hitem
      rw [meets, hpredicates, hview]
      exact htest item hitem
    have hmatching : (built view items steps).matching =
        items.filter (built view items steps).keeps := by rw [matching, hitems]
    have hcompare : (built view items steps).compareItems =
        fun a b => (built view items steps).keys.compare (view a) (view b) := by
      funext a b
      rw [compareItems, hview]
    refine ⟨(built view items steps).keeps, (built view items steps).keys, ?_,
      sortsBy_iff.mpr rfl, ?_, SortOrder.UniformOn.transitiveOn, ?_⟩
    · intro item
      rw [keeps_iff, hpredicates, hview]
    · rw [htestable.count_eq, hmatching]
    · intro htrans
      obtain ⟨sorted, hsorted, hrun⟩ := htestable.run_sorted (by
        rw [hmatching, hview]
        exact htrans)
      rw [hcompare, hmatching] at hsorted
      rw [hlimit] at hrun
      exact ⟨sorted, hsorted, hrun⟩
  · intro steps' hfilters horder htakes
    rw [built_congr view items hfilters horder htakes]
    exact ⟨rfl, rfl⟩

/-- A record with one number. -/
def measured (n : Number) : Record := [("x", .scalar (.number n))]

/-- The key for that number. -/
def byNumber : SortKey := ⟨⟨[], ⟨"x", .float, false⟩⟩, .asc⟩

/-- The least number below three, asked for in a roundabout way. -/
def leastBelowThree : List QueryStep :=
  [.take 2, .thenBy byNumber.reversed,
    .filter (.compare (.field ["x"]) .lt ⟨.number (.int 3), false⟩ false), .orderBy byNumber, .take 1]

theorem built_law_least : ∃ sorted,
    SortOrder.IsStableSort (fun a b => SortOrder.compare [byNumber] (measured a) (measured b))
      [.int 2, .int 1] sorted ∧
    (built measured [.int 2, .int 5, .int 1] leastBelowThree).run = .ok (sorted.take 1) := by
  obtain ⟨-, -, hlaw, -⟩ := built_law measured [.int 2, .int 5, .int 1] leastBelowThree
  obtain ⟨keep, keys, hkeep, hkeys, -, htrans, hrun⟩ := hlaw (by
    intro item hitem
    simp only [List.mem_cons, List.not_mem_nil, or_false] at hitem
    rcases hitem with rfl | rfl | rfl <;> exact ⟨_, rfl⟩)
  obtain rfl : keys = [byNumber] := (@keys_built _ _ measured [] keys hkeys).symm
  have hone : keep (.int 1) = true := (hkeep _).mpr (meetsAll_iff.mp rfl)
  have htwo : keep (.int 2) = true := (hkeep _).mpr (meetsAll_iff.mp rfl)
  have hfive : keep (.int 5) = false := by
    apply Bool.eq_false_iff.mpr
    intro h
    have hnot : meetsAll (filters leastBelowThree) (measured (.int 5)) = .ok false := rfl
    cases hnot.symm.trans (meetsAll_iff.mpr ((hkeep _).mp h))
  have hkept : [Number.int 2, .int 5, .int 1].filter keep = [.int 2, .int 1] := by
    simp only [List.filter, htwo, hfive, hone]
  rw [hkept] at htrans hrun
  refine hrun (htrans ?_)
  intro key hkey
  cases List.mem_singleton.mp hkey
  refine ⟨.int, List.forall_mem_map.mpr ?_⟩
  intro n hn
  simp only [List.mem_cons, List.not_mem_nil, or_false] at hn
  rcases hn with rfl | rfl <;> exact ⟨_, rfl, .inr ⟨trivial, nofun⟩⟩

/-- Two integers that round to the floating-point number between them. -/
def mixed : List Number :=
  [.int 9007199254740993, .float (.ofInt 9007199254740992), .int 9007199254740992]

/-- **Numbers of two kinds need not be sorted**, without any `nan`: both integers tie with the number
between them, and a query leaves the three as they stand, the greater integer first. -/
theorem built_mixed_unsorted :
    (∀ n ∈ mixed, n ≠ .float .nan) ∧
    (built measured mixed [.orderBy byNumber]).run = .ok mixed ∧
    ¬mixed.Pairwise fun a b =>
      (SortOrder.compare [byNumber] (measured a) (measured b)).isLE = true := by
  refine ⟨by decide, rfl, by decide⟩

end MemoryQuery
end RecordQuery
