import RecordQuery.Ordering.SortOrder

/-!
# `Proofs.Ordering.Sorting` — the stable sort is one, and it is the only one

`IsStableSort` says what a stable sort of a list is: the same items, in order, and those that tie
with an item as they stood. For a comparison that is a total preorder `stableSort` gives such a list
(`isStableSort_stableSort`) and there is no other (`IsStableSort.unique`). So a sorted list can be
filtered instead of sorting what the filter keeps (`stableSort_filter`), and without ties the
opposite order lists the same items from the end (`stableSort_opposite`).
-/

namespace RecordQuery.SortOrder

open Std

variable {α : Type} {cmp : α → α → Ordering}

/-- The list holds the items in order, those that tie as they stood among the items. -/
structure IsStableSort (cmp : α → α → Ordering) (items sorted : List α) : Prop where
  perm : sorted.Perm items
  ordered : sorted.Pairwise fun a b => (cmp a b).isLE = true
  stable : ∀ x ∈ items, sorted.filter (cmp x · == .eq) = items.filter (cmp x · == .eq)

/-! ## Inserting -/

theorem insertBack_perm (x : α) (ys : List α) : (insertBack cmp x ys).Perm (x :: ys) := by
  induction ys with
  | nil => exact .refl _
  | cons y ys ih =>
      unfold insertBack
      split
      · exact (ih.cons y).trans (.swap x y ys)
      · exact .refl _

theorem isLE_of_not_lt [TransCmp cmp] {x y : α} (h : cmp x y ≠ .lt) : (cmp y x).isLE = true := by
  rw [← OrientedCmp.isGE_eq_isLE]
  cases hxy : cmp x y with
  | lt => exact absurd hxy h
  | eq => rfl
  | gt => rfl

/-- Inserting keeps a list in order from its end to its start. -/
theorem insertBack_ordered [TransCmp cmp] {x : α} {ys : List α}
    (h : ys.Pairwise fun a b => (cmp b a).isLE = true) :
    (insertBack cmp x ys).Pairwise fun a b => (cmp b a).isLE = true := by
  induction ys with
  | nil => exact List.pairwise_singleton _ _
  | cons y ys ih =>
      obtain ⟨hy, hys⟩ := List.pairwise_cons.mp h
      unfold insertBack
      split
      · rename_i hlt
        refine List.pairwise_cons.mpr ⟨?_, ih hys⟩
        intro z hz
        rcases List.mem_cons.mp ((insertBack_perm x ys).mem_iff.mp hz) with rfl | hz
        · rw [hlt]
          rfl
        · exact hy z hz
      · rename_i hge
        have hyx := isLE_of_not_lt hge
        refine List.pairwise_cons.mpr ⟨?_, h⟩
        intro z hz
        rcases List.mem_cons.mp hz with rfl | hz
        · exact hyx
        · exact TransCmp.isLE_trans (hy z hz) hyx

/-- Among the items that tie with one, an item is inserted in front of the others. -/
theorem filter_insertBack [TransCmp cmp] (z x : α) (ys : List α) :
    (insertBack cmp x ys).filter (cmp z · == .eq) = (x :: ys).filter (cmp z · == .eq) := by
  induction ys with
  | nil => rfl
  | cons y ys ih =>
      unfold insertBack
      split
      · rename_i hlt
        rw [List.filter_cons, ih]
        by_cases hzx : cmp z x = .eq
        · -- `x` passes `y`, which therefore does not tie with `z`
          have hzy : cmp z y = .lt := TransCmp.lt_of_eq_of_lt hzx hlt
          simp [hzx, hzy]
        · simp [hzx, List.filter_cons]
      · rfl

/-! ## Sorting -/

theorem foldl_insertBack_perm (items done : List α) :
    (items.foldl (fun sorted x => insertBack cmp x sorted) done).Perm (items ++ done) := by
  induction items generalizing done with
  | nil => exact .refl _
  | cons x items ih =>
      refine (ih _).trans ?_
      refine ((insertBack_perm x done).append_left items).trans ?_
      exact List.perm_middle

theorem foldl_insertBack_ordered [TransCmp cmp] (items : List α) {done : List α}
    (h : done.Pairwise fun a b => (cmp b a).isLE = true) :
    (items.foldl (fun sorted x => insertBack cmp x sorted) done).Pairwise
      fun a b => (cmp b a).isLE = true := by
  induction items generalizing done with
  | nil => exact h
  | cons x items ih => exact ih (insertBack_ordered h)

theorem filter_foldl_insertBack [TransCmp cmp] (z : α) (items done : List α) :
    (items.foldl (fun sorted x => insertBack cmp x sorted) done).filter (cmp z · == .eq) =
      (items.filter (cmp z · == .eq)).reverse ++ done.filter (cmp z · == .eq) := by
  induction items generalizing done with
  | nil => rfl
  | cons x items ih =>
      rw [List.foldl_cons, ih, filter_insertBack, List.filter_cons, List.filter_cons]
      split
      · rw [List.reverse_cons, List.append_assoc]
        rfl
      · rfl

theorem stableSort_perm (cmp : α → α → Ordering) (items : List α) :
    (stableSort cmp items).Perm items :=
  (List.reverse_perm _).trans (by simpa using foldl_insertBack_perm items [])

/-- **The stable sort is a stable sort.** -/
theorem isStableSort_stableSort [TransCmp cmp] (items : List α) :
    IsStableSort cmp items (stableSort cmp items) where
  perm := stableSort_perm cmp items
  ordered := List.pairwise_reverse.mpr (foldl_insertBack_ordered items .nil)
  stable x _ := by
    rw [stableSort, List.filter_reverse, filter_foldl_insertBack, List.filter_nil,
      List.append_nil, List.reverse_reverse]

/-! ## Uniqueness -/

/-- The first item of a list in order is tied with the first item of another one. -/
theorem head_tied [TransCmp cmp] {a b : α} {as bs : List α}
    (hperm : (a :: as).Perm (b :: bs)) (ha : (a :: as).Pairwise fun x y => (cmp x y).isLE = true)
    (hb : (b :: bs).Pairwise fun x y => (cmp x y).isLE = true) : cmp a b = .eq := by
  have hle {x y : α} {xs : List α} (h : (x :: xs).Pairwise fun x y => (cmp x y).isLE = true)
      (hy : y ∈ x :: xs) : (cmp x y).isLE = true := by
    rcases List.mem_cons.mp hy with rfl | hy
    · exact ReflCmp.isLE_rfl
    · exact (List.pairwise_cons.mp h).1 y hy
  exact OrientedCmp.isLE_antisymm (hle ha (hperm.mem_iff.mpr List.mem_cons_self))
    (hle hb (hperm.mem_iff.mp List.mem_cons_self))

/-- Two lists in order that hold the same items, each group of ties alike, are equal. -/
theorem eq_of_ordered [TransCmp cmp] {as bs : List α} (hperm : as.Perm bs)
    (ha : as.Pairwise fun x y => (cmp x y).isLE = true)
    (hb : bs.Pairwise fun x y => (cmp x y).isLE = true)
    (hties : ∀ x ∈ as, as.filter (cmp x · == .eq) = bs.filter (cmp x · == .eq)) : as = bs := by
  induction as generalizing bs with
  | nil => exact hperm.nil_eq
  | cons a as ih =>
      cases bs with
      | nil => exact absurd hperm.symm.nil_eq (by simp)
      | cons b bs =>
          have hab := head_tied hperm ha hb
          have haa : cmp a a = .eq := ReflCmp.compare_self
          -- both lists start with the first of the items that tie with `a`
          have heads := hties a List.mem_cons_self
          simp only [List.filter_cons, hab, haa, beq_self_eq_true, if_true] at heads
          injection heads with hhead htail
          subst hhead
          rw [ih (hperm.cons_inv) (List.pairwise_cons.mp ha).2 (List.pairwise_cons.mp hb).2]
          intro x hx
          have hfilter := hties x (List.mem_cons_of_mem _ hx)
          simp only [List.filter_cons] at hfilter
          split at hfilter
          · injection hfilter
          · exact hfilter

/-- **There is one stable sort of a list.** -/
theorem IsStableSort.unique [TransCmp cmp] {items as bs : List α} (ha : IsStableSort cmp items as)
    (hb : IsStableSort cmp items bs) : as = bs := by
  refine eq_of_ordered (ha.perm.trans hb.perm.symm) ha.ordered hb.ordered ?_
  intro x hx
  have hx := ha.perm.mem_iff.mp hx
  rw [ha.stable x hx, hb.stable x hx]

/-- **Sorting what a filter keeps is filtering what was sorted.** -/
theorem stableSort_filter [TransCmp cmp] (keep : α → Bool) (items : List α) :
    stableSort cmp (items.filter keep) = (stableSort cmp items).filter keep := by
  have hsort : IsStableSort cmp items (stableSort cmp items) := isStableSort_stableSort items
  have hcomm (p : α → Bool) (xs : List α) : (xs.filter keep).filter p = (xs.filter p).filter keep := by
    simp only [List.filter_filter, Bool.and_comm]
  refine (isStableSort_stableSort _).unique ⟨hsort.perm.filter keep, hsort.ordered.filter _, ?_⟩
  intro x hx
  rw [hcomm, hsort.stable x (List.mem_filter.mp hx).1, hcomm]

/-- Without ties, items that tie are one item. -/
theorem eq_of_tied [TransCmp cmp] {items : List α} (hties : items.Pairwise fun a b => cmp a b ≠ .eq)
    {a b : α} (ha : a ∈ items) (hb : b ∈ items) (h : cmp a b = .eq) : a = b := by
  induction items with
  | nil => cases ha
  | cons x items ih =>
      obtain ⟨hx, hrest⟩ := List.pairwise_cons.mp hties
      rcases List.mem_cons.mp ha with rfl | ha'
      · rcases List.mem_cons.mp hb with rfl | hb'
        · rfl
        · exact absurd h (hx b hb')
      · rcases List.mem_cons.mp hb with rfl | hb'
        · exact absurd (OrientedCmp.eq_symm h) (hx a ha')
        · exact ih hrest ha' hb'

/-- **Without ties, the opposite order lists the items from the end.** -/
theorem stableSort_opposite [TransCmp cmp] {items : List α}
    (hties : items.Pairwise fun a b => cmp a b ≠ .eq) :
    stableSort (fun a b => cmp b a) items = (stableSort cmp items).reverse := by
  have hsort : IsStableSort cmp items (stableSort cmp items) := isStableSort_stableSort items
  have hback : IsStableSort (fun a b => cmp b a) items (stableSort (fun a b => cmp b a) items) :=
    isStableSort_stableSort items
  refine List.Perm.eq_of_pairwise ?_ hback.ordered (List.pairwise_reverse.mpr hsort.ordered)
    (hback.perm.trans (hsort.perm.symm.trans (List.reverse_perm _).symm))
  intro a b ha hb hba hab
  have hb := hsort.perm.mem_iff.mp (List.mem_reverse.mp hb)
  exact eq_of_tied hties (hback.perm.mem_iff.mp ha) hb (OrientedCmp.isLE_antisymm hab hba)

/-! ## Comparisons that agree on the items -/

theorem insertBack_congr {cmp' : α → α → Ordering} {x : α} {ys : List α}
    (h : ∀ y ∈ ys, cmp x y = cmp' x y) : insertBack cmp x ys = insertBack cmp' x ys := by
  induction ys with
  | nil => rfl
  | cons y ys ih =>
      unfold insertBack
      rw [h y List.mem_cons_self, ih fun z hz => h z (List.mem_cons_of_mem _ hz)]

theorem foldl_insertBack_congr {cmp' : α → α → Ordering} {items done : List α}
    (h : ∀ x ∈ items, ∀ y ∈ items ++ done, cmp x y = cmp' x y) :
    items.foldl (fun sorted x => insertBack cmp x sorted) done =
      items.foldl (fun sorted x => insertBack cmp' x sorted) done := by
  induction items generalizing done with
  | nil => rfl
  | cons x items ih =>
      rw [List.foldl_cons, List.foldl_cons, insertBack_congr fun y hy =>
        h x List.mem_cons_self y (List.mem_append_right _ hy)]
      refine ih fun z hz y hy => h z (List.mem_cons_of_mem _ hz) y ?_
      rcases List.mem_append.mp hy with hy | hy
      · exact List.mem_append_left _ (List.mem_cons_of_mem _ hy)
      · rcases List.mem_cons.mp ((insertBack_perm x done).mem_iff.mp hy) with rfl | hy
        · exact List.mem_append_left _ List.mem_cons_self
        · exact List.mem_append_right _ hy

/-- Only how the items compare with each other matters. -/
theorem stableSort_congr {cmp' : α → α → Ordering} {items : List α}
    (h : ∀ x ∈ items, ∀ y ∈ items, cmp x y = cmp' x y) :
    stableSort cmp items = stableSort cmp' items := by
  unfold stableSort
  rw [foldl_insertBack_congr fun x hx y hy => h x hx y (by simpa using hy)]

theorem IsStableSort.congr {cmp' : α → α → Ordering} {items sorted : List α}
    (hsort : IsStableSort cmp' items sorted) (h : ∀ x ∈ items, ∀ y ∈ items, cmp x y = cmp' x y) :
    IsStableSort cmp items sorted where
  perm := hsort.perm
  ordered := hsort.ordered.imp_of_mem fun ha hb hle => by
    rw [h _ (hsort.perm.mem_iff.mp ha) _ (hsort.perm.mem_iff.mp hb)]
    exact hle
  stable x hx := by
    have hfilter {xs : List α} (hxs : ∀ y ∈ xs, y ∈ items) :
        xs.filter (cmp x · == .eq) = xs.filter (cmp' x · == .eq) :=
      List.filter_congr fun y hy => by rw [h x hx y (hxs y hy)]
    rw [hfilter fun y hy => hsort.perm.mem_iff.mp hy, hfilter fun y hy => hy, hsort.stable x hx]

end RecordQuery.SortOrder
