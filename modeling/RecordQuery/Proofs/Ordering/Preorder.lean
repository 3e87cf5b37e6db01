import RecordQuery.Proofs.Ordering.Rank
import RecordQuery.Proofs.Query.MemoryQuery

/-!
# `Proofs.Ordering.Preorder` — how far the order of records is an order

A sort needs a total preorder. Whatever two records hold, comparing them the other way round gives
the opposite answer, so that each record ties with itself. Ties are another matter: values that do
not compare tie, and `nan` compares with no number, so that it ties with numbers that differ. Records
that hold no `nan` for the keys are ranked, and a query sorts them by their ranks; three records
with a `nan` among them need not be.

## Contents
- `Value.compare?_swap`, `SortOrder.compare_swap`, `SortOrder.compare_self`: all values, all records.
- `SortOrder.Declared`, `SortOrder.AvoidsNan`: records with values of the declared types for the
  keys, and records with no `nan` among them.
- `SortOrder.exists_record_rank`: such records are compared by a rank.
- `SortOrder.compare_preorder`: the order of records, and what a query makes of it.
- `SortOrder.ties_not_transitive`: the same with `nan`.
-/

namespace RecordQuery

open Std

/-! ## Comparing the other way round -/

theorem Binary64.compare?_swap (a b : Binary64) : b.compare? a = (a.compare? b).map .swap := by
  unfold Binary64.compare?
  cases a.key? with
  | none => cases b.key? <;> rfl
  | some k =>
      cases b.key? with
      | none => rfl
      | some l => exact congrArg some OrientedOrd.eq_swap

theorem Number.compare?_swap (a b : Number) : b.compare? a = (a.compare? b).map .swap := by
  unfold Number.compare?
  cases a.integer? with
  | none => cases b.integer? <;> exact Binary64.compare?_swap _ _
  | some k =>
      cases b.integer? with
      | none => exact Binary64.compare?_swap _ _
      | some l => exact congrArg some OrientedOrd.eq_swap

theorem Timestamp.compare_swap (a b : Timestamp) : b.compare a = (a.compare b).swap := by
  unfold Timestamp.compare
  rw [Ordering.swap_then, ← OrientedOrd.eq_swap, ← OrientedOrd.eq_swap]

theorem Scalar.compare?_swap (a b : Scalar) : b.compare? a = (a.compare? b).map .swap := by
  cases a <;> cases b <;> first
    | rfl
    | exact Number.compare?_swap _ _
    | exact congrArg some (Timestamp.compare_swap _ _)
    | exact congrArg some OrientedOrd.eq_swap

theorem Value.compare?_swap (a b : Value) : b.compare? a = (a.compare? b).map .swap := by
  cases a with
  | scalar s =>
      cases b with
      | scalar t => exact Scalar.compare?_swap s t
      | _ => cases s <;> rfl
  | _ =>
      cases b with
      | scalar t => cases t <;> rfl
      | _ => rfl

theorem Direction.apply_swap (direction : Direction) (order : Ordering) :
    direction.apply order.swap = (direction.apply order).swap := by
  cases direction <;> rfl

theorem SortKey.compare_swap (key : SortKey) (a b : Record) :
    key.compare b a = (key.compare a b).swap := by
  unfold SortKey.compare
  rw [Value.compare?_swap, ← Direction.apply_swap]
  cases (key.read a).compare? (key.read b) <;> rfl

theorem SortOrder.compare_swap (keys : SortOrder) (a b : Record) :
    keys.compare b a = (keys.compare a b).swap := by
  induction keys with
  | nil => rfl
  | cons key keys ih =>
      unfold SortOrder.compare
      rw [Ordering.swap_then, ih, key.compare_swap]

/-- A record ties with itself, whatever it holds. -/
theorem SortOrder.compare_self (keys : SortOrder) (a : Record) : keys.compare a a = .eq := by
  have h := keys.compare_swap a a
  cases hc : keys.compare a a with
  | eq => rfl
  | lt =>
      rw [hc] at h
      cases h
  | gt =>
      rw [hc] at h
      cases h

/-! ## Records that are ranked -/

/-- The record has for each key null or a value of the declared type. -/
def SortOrder.Declared (keys : SortOrder) (record : Record) : Prop :=
  ∀ key ∈ keys, ∃ s, key.read record = .scalar s ∧ (s = .null ∨ s.IsOfKind key.path.last.type)

/-- The record has `nan` for none of the keys. -/
def SortOrder.AvoidsNan (keys : SortOrder) (record : Record) : Prop :=
  ∀ key ∈ keys, key.AvoidsNan record

variable {keys : SortOrder} {record other : Record}

theorem SortOrder.Declared.exists_places (h : keys.Declared record) (hn : keys.AvoidsNan record) :
    ∀ key ∈ keys, ∃ s, key.read record = .scalar s ∧ key.Places s := by
  intro key hkey
  obtain ⟨s, hs, htype⟩ := h key hkey
  refine ⟨s, hs, htype.imp id fun hkind => ⟨hkind, ?_⟩⟩
  rintro rfl
  exact hn key hkey hs

theorem SortOrder.places_keyValues
    (h : ∀ key ∈ keys, ∃ s, key.read record = .scalar s ∧ key.Places s) :
    keys.Places (keys.keyValues record) := by
  induction keys with
  | nil => exact .nil
  | cons key keys ih =>
      obtain ⟨s, hs, hplaces⟩ := h key List.mem_cons_self
      rw [SortOrder.keyValues_cons hs]
      exact .cons hplaces (ih fun key hkey => h key (List.mem_cons_of_mem _ hkey))

/-- **Records without `nan` are compared by a rank**, namely that of their tuples. -/
theorem SortOrder.exists_record_rank (keys : SortOrder) :
    ∃ (β : Type) (_ : Ord β) (_ : TransOrd β) (rank : Record → β),
      ∀ a b : Record, keys.Declared a → keys.AvoidsNan a → keys.Declared b → keys.AvoidsNan b →
        keys.compare a b = Ord.compare (rank a) (rank b) := by
  obtain ⟨β, ord, trans, rank, hrank⟩ := keys.exists_tuple_rank
  refine ⟨β, ord, trans, fun record => rank (keys.keyValues record), ?_⟩
  intro a b ha hna hb hnb
  have ha := ha.exists_places hna
  have hb := hb.exists_places hnb
  rw [SortOrder.compare_eq_of_scalars (fun key hkey => (ha key hkey).imp fun _ h => h.1)
    (fun key hkey => (hb key hkey).imp fun _ h => h.1)]
  exact hrank _ _ (places_keyValues ha) (places_keyValues hb)

/-- A key under which one of two records has `nan`, and neither has null, does not tell them
    apart. -/
theorem SortKey.compare_nan {key : SortKey} {a b : Record}
    (ha : key.read a = .scalar (.number (.float .nan))) (hb : key.read b ≠ .null) :
    key.compare a b = .eq := by
  have hnone : (key.read a).compare? (key.read b) = none := by
    rw [ha]
    cases hread : key.read b with
    | scalar s =>
        cases s with
        | null => exact absurd hread hb
        | number n => cases n <;> rfl
        | _ => rfl
    | _ => rfl
  rw [SortKey.compare, hnone]
  exact Direction.apply_eq_eq.mpr rfl

/-! ## What a query makes of it -/

/-- **A query sorts by a preorder** if no matching record has `nan` for a key. -/
theorem MemoryQuery.run_isStableSort {α : Type} {query : MemoryQuery α} (htest : query.Testable)
    (hitems : ∀ item ∈ query.items, query.keys.Declared (query.view item) ∧
      query.keys.AvoidsNan (query.view item)) :
    ∃ sorted, SortOrder.IsStableSort query.compareItems query.matching sorted ∧
      query.run = .ok (match query.limit with | none => sorted | some n => sorted.take n) := by
  obtain ⟨β, _, _, rank, hrank⟩ := query.keys.exists_record_rank
  have hcongr : ∀ a ∈ query.matching, ∀ b ∈ query.matching,
      query.compareItems a b = compareOn (fun item => rank (query.view item)) a b := by
    intro a ha b hb
    have ha := hitems a (MemoryQuery.mem_matching ha)
    have hb := hitems b (MemoryQuery.mem_matching hb)
    exact hrank _ _ ha.1 ha.2 hb.1 hb.2
  refine ⟨SortOrder.stableSort query.compareItems query.matching, ?_, htest.run_eq⟩
  rw [SortOrder.stableSort_congr hcongr]
  exact (SortOrder.isStableSort_stableSort _).congr hcongr

/-- **The order of records.** Comparing the other way round gives the opposite answer, a record ties
    with itself, and a `nan` ties with all that is not null. Among records that have values of the
    declared types for the keys, and no `nan`, the order and its ties are transitive, and a query
    over such records gives them in a stable sort. -/
theorem SortOrder.compare_preorder (keys : SortOrder) :
    (∀ a : Record, keys.compare a a = .eq) ∧
    (∀ a b : Record, keys.compare b a = (keys.compare a b).swap) ∧
    (∀ key ∈ keys, ∀ a b : Record, key.read a = .scalar (.number (.float .nan)) →
      key.read b ≠ .null → key.compare a b = .eq ∧ key.compare b a = .eq) ∧
    (∀ a b c : Record, (∀ record ∈ [a, b, c], keys.Declared record ∧ keys.AvoidsNan record) →
      ((keys.compare a b).isLE → (keys.compare b c).isLE → (keys.compare a c).isLE) ∧
      (keys.compare a b = .eq → keys.compare b c = .eq → keys.compare a c = .eq)) ∧
    ∀ (α : Type) (query : MemoryQuery α), query.keys = keys → query.Testable →
      (∀ item ∈ query.items, keys.Declared (query.view item) ∧ keys.AvoidsNan (query.view item)) →
      ∃ sorted, SortOrder.IsStableSort query.compareItems query.matching sorted ∧
        query.run = .ok (match query.limit with | none => sorted | some n => sorted.take n) := by
  refine ⟨keys.compare_self, keys.compare_swap, ?_, ?_, ?_⟩
  · intro key _ a b ha hb
    have htie := SortKey.compare_nan ha hb
    refine ⟨htie, ?_⟩
    rw [key.compare_swap, htie]
    rfl
  · intro a b c h
    obtain ⟨β, _, _, rank, hrank⟩ := keys.exists_record_rank
    obtain ⟨ha, hna⟩ := h a (by simp)
    obtain ⟨hb, hnb⟩ := h b (by simp)
    obtain ⟨hc, hnc⟩ := h c (by simp)
    rw [hrank a b ha hna hb hnb, hrank b c hb hnb hc hnc, hrank a c ha hna hc hnc]
    exact ⟨TransCmp.isLE_trans, TransCmp.eq_trans⟩
  · intro α query hkeys htest hitems
    subst hkeys
    exact MemoryQuery.run_isStableSort htest hitems

/-! ## Ties with `nan` -/

/-- The ordering of readings by their one number. -/
def byReading : SortOrder := [⟨⟨[], ⟨"x", .float, false⟩⟩, .asc⟩]

/-- A reading of a floating-point number. -/
def reading (x : Binary64) : Record := [("x", .scalar (.number (.float x)))]

theorem byReading_declared (x : Binary64) : byReading.Declared (reading x) := by
  intro key hkey
  cases List.mem_singleton.mp hkey
  exact ⟨.number (.float x), rfl, Or.inr trivial⟩

theorem byReading_avoidsNan {x : Binary64} (h : x ≠ .nan) : byReading.AvoidsNan (reading x) := by
  intro key hkey hread
  cases List.mem_singleton.mp hkey
  have hread : Value.scalar (.number (.float x)) = .scalar (.number (.float .nan)) := hread
  cases hread
  exact h rfl

/-- An infinity below one, and one below the other infinity. -/
theorem compare_preorder_infinities :
    (byReading.compare (reading (.infinity true)) (reading (.infinity false))).isLE ∧
      ∃ sorted, (⟨[.infinity false, .infinity true, .ofInt 1], reading, [], byReading, none⟩ :
        MemoryQuery Binary64).run = .ok sorted ∧
      sorted.Pairwise fun a b => (byReading.compare (reading a) (reading b)).isLE := by
  obtain ⟨-, -, -, htrans, hrun⟩ := SortOrder.compare_preorder byReading
  have hgood {x : Binary64} (h : x ≠ .nan) :
      byReading.Declared (reading x) ∧ byReading.AvoidsNan (reading x) :=
    ⟨byReading_declared x, byReading_avoidsNan h⟩
  constructor
  · refine (htrans _ (reading (.ofInt 1)) _ ?_).1 (by decide) (by decide)
    intro record hr
    simp only [List.mem_cons, List.not_mem_nil, or_false] at hr
    rcases hr with rfl | rfl | rfl <;> exact hgood (by decide)
  · obtain ⟨sorted, hsort, heq⟩ := hrun Binary64
      ⟨[.infinity false, .infinity true, .ofInt 1], reading, [], byReading, none⟩ rfl
      (fun item _ => ⟨true, rfl⟩) (by
        intro item hi
        simp only [List.mem_cons, List.not_mem_nil, or_false] at hi
        rcases hi with rfl | rfl | rfl <;> exact hgood (by decide))
    exact ⟨sorted, heq, hsort.ordered⟩

/-- **Ties are not transitive**: one ties with `nan` and `nan` with two, and a query leaves the three
    as they stand, two before one. -/
theorem ties_not_transitive :
    (∀ x ∈ [Binary64.ofInt 2, .nan, .ofInt 1], byReading.Declared (reading x)) ∧
    byReading.compare (reading (.ofInt 2)) (reading .nan) = .eq ∧
    byReading.compare (reading .nan) (reading (.ofInt 1)) = .eq ∧
    byReading.compare (reading (.ofInt 2)) (reading (.ofInt 1)) = .gt ∧
    (⟨[.ofInt 2, .nan, .ofInt 1], reading, [], byReading, none⟩ : MemoryQuery Binary64).run =
      .ok [.ofInt 2, .nan, .ofInt 1] := by
  refine ⟨fun x _ => byReading_declared x, by decide, by decide, by decide, rfl⟩

end RecordQuery
