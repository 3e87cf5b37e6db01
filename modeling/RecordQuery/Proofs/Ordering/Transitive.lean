import RecordQuery.Proofs.Ordering.Preorder

/-!
# `Proofs.Ordering.Transitive` — orders that are transitive on the items at hand

A sort compares the items of one list and no others. So it is enough that the comparison is
transitive on them: counting the items below an item ranks it, and the sort is that by ranks. The
order of records is transitive on records that have for each key null or values of one kind, and no
`nan`. It is not on any records without `nan`: integers compare with floating-point numbers after
rounding, so that two integers may tie with a number between them.

## Contents
- `SortOrder.standing`, `SortOrder.compare_eq_standing`: items ranked by those below them.
- `SortOrder.isStableSort_of_transitive`: **the sort of such a list.**
- `SortOrder.UniformOn`, `SortOrder.UniformOn.transitiveOn`: records of one kind.
-/

namespace RecordQuery

open Std

namespace SortOrder

/-! ## Items ranked by those below them -/

section Standing

variable {α : Type} {cmp : α → α → Ordering} {items : List α}

/-- The number of items below one. -/
def standing (cmp : α → α → Ordering) (items : List α) (a : α) : Nat :=
  items.countP (cmp · a == .lt)

variable (oriented : ∀ a ∈ items, ∀ b ∈ items, cmp b a = (cmp a b).swap)
  (trans : ∀ a ∈ items, ∀ b ∈ items, ∀ c ∈ items,
    (cmp a b).isLE = true → (cmp b c).isLE = true → (cmp a c).isLE = true)

include oriented trans

/-- What is below an item is below every item from there on. -/
theorem lt_of_lt_of_isLE {a b c : α} (ha : a ∈ items) (hb : b ∈ items) (hc : c ∈ items)
    (hca : cmp c a = .lt) (hab : (cmp a b).isLE = true) : cmp c b = .lt := by
  have hcb : (cmp c b).isLE = true := trans c hc a ha b hb (by rw [hca]; rfl) hab
  cases h : cmp c b with
  | lt => rfl
  | gt =>
      rw [h] at hcb
      cases hcb
  | eq =>
      -- then `a` would not be above `c`
      have hbc : (cmp b c).isLE = true := by
        rw [oriented c hc b hb, h]
        rfl
      have hac := trans a ha b hb c hc hab hbc
      rw [oriented c hc a ha, hca] at hac
      cases hac

theorem standing_le {a b : α} (ha : a ∈ items) (hb : b ∈ items) (hab : (cmp a b).isLE = true) :
    standing cmp items a ≤ standing cmp items b := by
  apply List.countP_mono_left
  intro c hc hca
  exact beq_iff_eq.mpr (lt_of_lt_of_isLE oriented trans ha hb hc (eq_of_beq hca) hab)

theorem standing_lt {a b : α} (ha : a ∈ items) (hb : b ∈ items) (hab : cmp a b = .lt) :
    standing cmp items a < standing cmp items b := by
  have hself : cmp a a ≠ .lt := by
    intro h
    have hswap := oriented a ha a ha
    rw [h] at hswap
    cases hswap
  -- `a` counts for `b` and not for itself
  obtain ⟨front, back, hitems⟩ := List.append_of_mem ha
  have hpart {part : List α} (hpart : ∀ c ∈ part, c ∈ items) :
      part.countP (cmp · a == .lt) ≤ part.countP (cmp · b == .lt) := by
    apply List.countP_mono_left
    intro c hc hca
    have hle : (cmp a b).isLE = true := by
      rw [hab]
      rfl
    exact beq_iff_eq.mpr (lt_of_lt_of_isLE oriented trans ha hb (hpart c hc) (eq_of_beq hca) hle)
  have hfront : front.countP (cmp · a == .lt) ≤ front.countP (cmp · b == .lt) :=
    hpart fun c hc => by simp [hitems, hc]
  have hback : back.countP (cmp · a == .lt) ≤ back.countP (cmp · b == .lt) :=
    hpart fun c hc => by simp [hitems, hc]
  have hcount (d : α) : standing cmp items d = front.countP (cmp · d == .lt) +
      (back.countP (cmp · d == .lt) + if cmp a d == .lt then 1 else 0) := by
    rw [standing, hitems, List.countP_append, List.countP_cons]
  rw [hcount, hcount, if_neg (by simpa using hself), if_pos (by simp [hab])]
  omega

/-- **Items compare as the numbers of items below them do.** -/
theorem compare_eq_standing {a b : α} (ha : a ∈ items) (hb : b ∈ items) :
    cmp a b = compareOn (standing cmp items) a b := by
  unfold compareOn
  cases h : cmp a b with
  | lt => exact (Nat.compare_eq_lt.mpr (standing_lt oriented trans ha hb h)).symm
  | eq =>
      have hab := standing_le oriented trans ha hb (by rw [h]; rfl)
      have hba := standing_le oriented trans hb ha (by rw [oriented a ha b hb, h]; rfl)
      exact (Nat.compare_eq_eq.mpr (Nat.le_antisymm hab hba)).symm
  | gt =>
      have hba : cmp b a = .lt := by
        rw [oriented a ha b hb, h]
        rfl
      exact (Nat.compare_eq_gt.mpr (standing_lt oriented trans hb ha hba)).symm

/-- **The sort of items on which the comparison is transitive** is a stable sort. -/
theorem isStableSort_of_transitive : IsStableSort cmp items (stableSort cmp items) := by
  have hcongr : ∀ a ∈ items, ∀ b ∈ items, cmp a b = compareOn (standing cmp items) a b :=
    fun a ha b hb => compare_eq_standing oriented trans ha hb
  rw [stableSort_congr hcongr]
  exact (isStableSort_stableSort items).congr hcongr

end Standing
end SortOrder

/-! ## Records -/

/-- The order of the records is transitive. -/
def SortOrder.TransitiveOn (keys : SortOrder) (records : List Record) : Prop :=
  ∀ a ∈ records, ∀ b ∈ records, ∀ c ∈ records,
    (keys.compare a b).isLE = true → (keys.compare b c).isLE = true →
      (keys.compare a c).isLE = true

/-- For each key the records have null or values of one kind, and no `nan`. The kind need not be the
one that the key declares. -/
def SortOrder.UniformOn (keys : SortOrder) (records : List Record) : Prop :=
  ∀ key ∈ keys, ∃ type : FieldType, ∀ record ∈ records,
    ∃ s, key.read record = .scalar s ∧ (s = .null ∨ s.IsComparable type)

/-- The key for values of another type. -/
def SortKey.retyped (key : SortKey) (type : FieldType) : SortKey :=
  { key with path := { key.path with last := { key.path.last with type := type } } }

/-- Comparing does not look at the type. -/
theorem SortKey.compare_retyped (key : SortKey) (type : FieldType) (a b : Record) :
    (key.retyped type).compare a b = key.compare a b := rfl

/-- Records of one kind have the types of keys that compare like the given ones. -/
theorem SortOrder.UniformOn.exists_retyped {keys : SortOrder} {records : List Record}
    (h : keys.UniformOn records) :
    ∃ retyped : SortOrder, (∀ a b, retyped.compare a b = keys.compare a b) ∧
      ∀ record ∈ records, retyped.Declared record ∧ retyped.AvoidsNan record := by
  induction keys with
  | nil => exact ⟨[], fun _ _ => rfl, fun _ _ => ⟨nofun, nofun⟩⟩
  | cons key keys ih =>
      obtain ⟨type, htype⟩ := h key List.mem_cons_self
      obtain ⟨retyped, hcompare, hdeclared⟩ := ih fun key hkey => h key (List.mem_cons_of_mem _ hkey)
      refine ⟨key.retyped type :: retyped, ?_, ?_⟩
      · intro a b
        rw [SortOrder.compare, SortOrder.compare, hcompare, key.compare_retyped]
      · intro record hrecord
        obtain ⟨s, hread, hs⟩ := htype record hrecord
        obtain ⟨hrest, hnan⟩ := hdeclared record hrecord
        have hread' : (key.retyped type).read record = .scalar s := hread
        refine ⟨List.forall_mem_cons.mpr ⟨⟨s, hread', hs.imp_right And.left⟩, hrest⟩,
          List.forall_mem_cons.mpr ⟨?_, hnan⟩⟩
        intro hvalue
        rw [hread'] at hvalue
        cases hvalue
        rcases hs with hs | hs
        · cases hs
        · exact hs.2 rfl

/-- **The order of records of one kind is transitive.** -/
theorem SortOrder.UniformOn.transitiveOn {keys : SortOrder} {records : List Record}
    (h : keys.UniformOn records) : keys.TransitiveOn records := by
  obtain ⟨retyped, hcompare, hdeclared⟩ := h.exists_retyped
  obtain ⟨β, _, _, rank, hrank⟩ := retyped.exists_record_rank
  have hkeys {a b : Record} (ha : a ∈ records) (hb : b ∈ records) :
      keys.compare a b = Ord.compare (rank a) (rank b) := by
    rw [← hcompare]
    exact hrank a b (hdeclared a ha).1 (hdeclared a ha).2 (hdeclared b hb).1 (hdeclared b hb).2
  intro a ha b hb c hc
  rw [hkeys ha hb, hkeys hb hc, hkeys ha hc]
  exact TransCmp.isLE_trans

end RecordQuery
