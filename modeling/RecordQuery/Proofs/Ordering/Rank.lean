import RecordQuery.Proofs.Ordering.KeyTuple

/-!
# `Proofs.Ordering.Rank` — the values of a key in a total order

Values of one declared type compare through what they are ranked by: a text by itself, a point in
time by its seconds and its nanoseconds, a number by its value. Only `nan` has no rank. Null stands
below the ranks, a descending key turns them round, and the first key counts most.

## Contents
- `Scalar.IsOfKind`, `Scalar.IsComparable`: scalars of a declared type, and those with a rank.
- `FieldType.exists_rank`, `SortKey.exists_rank`: the ranks of a type and of a key.
- `SortOrder.exists_tuple_rank`: tuples are compared by a rank in some linear preorder.
-/

namespace RecordQuery

open Std

/-! ## Values of a kind -/

/-- The scalar is of the kind that the type names: a number is held in the declared kind, and a
    floating-point number may be any. -/
def Scalar.IsOfKind : FieldType → Scalar → Prop
  | .bool, .bool _ => True
  | .int, .number (.int _) => True
  | .uint, .number (.uint _) => True
  | .float, .number (.float _) => True
  | .string, .string _ => True
  | .timestamp, .timestamp _ => True
  | .uuid, .uuid _ => True
  | .enum _, .enum _ => True
  | _, _ => False

/-- The scalar is of the kind that the type names, and not `nan`. -/
def Scalar.IsComparable (type : FieldType) (s : Scalar) : Prop :=
  s.IsOfKind type ∧ s ≠ .number (.float .nan)

theorem Scalar.IsComparable.ne_null {type : FieldType} {s : Scalar} (h : s.IsComparable type) :
    s ≠ .null := by
  rintro rfl
  cases type <;> exact h.1

theorem Scalar.IsComparable.isOf {type : FieldType} {s : Scalar} (h : s.IsComparable type) :
    s.isOf type = true := by
  cases s with
  | number n => cases n <;> cases type <;> first | exact h.1.elim | rfl
  | _ => cases type <;> first | exact h.1.elim | rfl

/-! ## Ranks of values -/

/-- Comparable scalars of a type are compared by a rank. -/
def Ranks (type : FieldType) {β : Type} [Ord β] (rank : Scalar → Option β) : Prop :=
  ∀ a b : Scalar, a.IsComparable type → b.IsComparable type →
    ∃ k l, rank a = some k ∧ rank b = some l ∧ a.compare? b = some (compare k l)

/-- Null takes its place below the ranks. -/
theorem Ranks.compare? {type : FieldType} {β : Type} [Ord β] {rank : Scalar → Option β}
    (h : Ranks type rank) (hnull : rank .null = none) {a b : Scalar}
    (ha : a = .null ∨ a.IsComparable type) (hb : b = .null ∨ b.IsComparable type) :
    a.compare? b = some (compare (rank a) (rank b)) := by
  rcases ha with rfl | ha
  · rcases hb with rfl | hb
    · rw [hnull]
      rfl
    · obtain ⟨k, l, hk, -, -⟩ := h b b hb hb
      rw [hnull, hk]
      cases b <;> first | exact absurd rfl hb.ne_null | rfl
  · obtain ⟨k, l, hk, -, -⟩ := h a a ha ha
    rcases hb with rfl | hb
    · rw [hnull, hk]
      cases a <;> first | exact absurd rfl ha.ne_null | rfl
    · obtain ⟨k, l, hk, hl, hcompare⟩ := h a b ha hb
      rw [hcompare, hk, hl]
      rfl

/-! What the scalars of one type are ranked by. -/

namespace Scalar

def truth? : Scalar → Option Bool
  | bool b => some b
  | _ => none

def integer? : Scalar → Option Int
  | number n => n.integer?
  | _ => none

def floatKey? : Scalar → Option Int
  | number (.float x) => x.key?
  | _ => none

def text? : Scalar → Option String
  | string s => some s
  | _ => none

def instant? : Scalar → Option (Int × Nat)
  | timestamp t => some (t.seconds, t.nanoseconds)
  | _ => none

def uuidBits? : Scalar → Option Nat
  | uuid u => some u.bits.toNat
  | _ => none

def ordinal? : Scalar → Option Nat
  | enum m => some m.ordinal
  | _ => none

end Scalar

/-- **The values of a type, and null below them, are compared by a rank.** -/
theorem FieldType.exists_rank (type : FieldType) :
    ∃ (β : Type) (_ : Ord β) (_ : TransOrd β) (rank : Scalar → Option β),
      rank .null = none ∧ Ranks type rank := by
  cases type with
  | bool =>
      refine ⟨Bool, inferInstance, inferInstance, Scalar.truth?, rfl, ?_⟩
      rintro a b ⟨ha, -⟩ ⟨hb, -⟩
      cases a <;> cases b <;> first | exact ha.elim | exact hb.elim | exact ⟨_, _, rfl, rfl, rfl⟩
  | int =>
      refine ⟨Int, inferInstance, inferInstance, Scalar.integer?, rfl, ?_⟩
      rintro a b ⟨ha, -⟩ ⟨hb, -⟩
      match a, b with
      | .number (.int m), .number (.int n) => exact ⟨_, _, rfl, rfl, rfl⟩
  | uint =>
      refine ⟨Int, inferInstance, inferInstance, Scalar.integer?, rfl, ?_⟩
      rintro a b ⟨ha, -⟩ ⟨hb, -⟩
      match a, b with
      | .number (.uint m), .number (.uint n) => exact ⟨_, _, rfl, rfl, rfl⟩
  | float =>
      refine ⟨Int, inferInstance, inferInstance, Scalar.floatKey?, rfl, ?_⟩
      rintro a b ⟨ha, hna⟩ ⟨hb, hnb⟩
      match a, b with
      | .number (.float (.signed _ _)), .number (.float (.signed _ _)) =>
          exact ⟨_, _, rfl, rfl, rfl⟩
  | string =>
      refine ⟨String, inferInstance, inferInstance, Scalar.text?, rfl, ?_⟩
      rintro a b ⟨ha, -⟩ ⟨hb, -⟩
      cases a <;> cases b <;> first | exact ha.elim | exact hb.elim | exact ⟨_, _, rfl, rfl, rfl⟩
  | timestamp =>
      refine ⟨Int × Nat, lexOrd, inferInstance, Scalar.instant?, rfl, ?_⟩
      rintro a b ⟨ha, -⟩ ⟨hb, -⟩
      cases a <;> cases b <;> first | exact ha.elim | exact hb.elim | exact ⟨_, _, rfl, rfl, rfl⟩
  | uuid =>
      refine ⟨Nat, inferInstance, inferInstance, Scalar.uuidBits?, rfl, ?_⟩
      rintro a b ⟨ha, -⟩ ⟨hb, -⟩
      cases a <;> cases b <;> first | exact ha.elim | exact hb.elim | exact ⟨_, _, rfl, rfl, rfl⟩
  | enum variants =>
      refine ⟨Nat, inferInstance, inferInstance, Scalar.ordinal?, rfl, ?_⟩
      rintro a b ⟨ha, -⟩ ⟨hb, -⟩
      cases a <;> cases b <;> first | exact ha.elim | exact hb.elim | exact ⟨_, _, rfl, rfl, rfl⟩
  -- no scalar is of a type of records or lists
  | record place => exact ⟨Nat, inferInstance, inferInstance, fun _ => none, rfl, fun a _ ha => by
      cases a <;> exact ha.1.elim⟩
  | list element => exact ⟨Nat, inferInstance, inferInstance, fun _ => none, rfl, fun a _ ha => by
      cases a <;> exact ha.1.elim⟩

/-! ## Ranks of tuples -/

/-- The key can tell where the value stands: null, or a comparable value of its type. -/
def SortKey.Places (key : SortKey) (s : Scalar) : Prop :=
  s = .null ∨ s.IsComparable key.path.last.type

/-- A tuple has for each key a value that the key places. -/
inductive SortOrder.Places : SortOrder → List Scalar → Prop
  | nil : Places [] []
  | cons {key : SortKey} {keys : SortOrder} {s : Scalar} {values : List Scalar}
      (head : key.Places s) (tail : Places keys values) : Places (key :: keys) (s :: values)

/-- What a key places it also takes. -/
theorem SortOrder.Places.takes {keys : SortOrder} {values : List Scalar} (h : keys.Places values) :
    keys.Takes values := by
  induction h with
  | nil => exact .nil
  | cons head _ ih => exact .cons (head.imp id fun h => ⟨h.isOf, h.2⟩) ih

/-- The values of a key are compared by a rank, which a descending key turns round. -/
theorem SortKey.exists_rank (key : SortKey) :
    ∃ (β : Type) (_ : Ord β) (_ : TransOrd β) (rank : Scalar → β),
      ∀ a b : Scalar, key.Places a → key.Places b →
        key.compareScalars a b = Ord.compare (rank a) (rank b) := by
  obtain ⟨β, _, _, rank, hnull, hrank⟩ := FieldType.exists_rank key.path.last.type
  have hcompare {a b : Scalar} (ha : key.Places a) (hb : key.Places b) :
      a.compare? b = some (Ord.compare (rank a) (rank b)) := hrank.compare? hnull ha hb
  cases hdir : key.direction with
  | asc =>
      refine ⟨Option β, inferInstance, inferInstance, rank, ?_⟩
      intro a b ha hb
      rw [SortKey.compareScalars, hcompare ha hb, hdir]
      rfl
  | desc =>
      refine ⟨Option β, Ord.opposite inferInstance, TransOrd.opposite, rank, ?_⟩
      intro a b ha hb
      rw [SortKey.compareScalars, hcompare ha hb, hdir]
      exact OrientedOrd.eq_swap.symm

/-- **Tuples are compared by a rank**, each key by its own and the first key foremost. -/
theorem SortOrder.exists_tuple_rank (keys : SortOrder) :
    ∃ (β : Type) (_ : Ord β) (_ : TransOrd β) (rank : List Scalar → β),
      ∀ as bs : List Scalar, keys.Places as → keys.Places bs →
        keys.compareTuples as bs = Ord.compare (rank as) (rank bs) := by
  induction keys with
  | nil => exact ⟨Nat, inferInstance, inferInstance, fun _ => 0, fun as bs _ _ => rfl⟩
  | cons key keys ih =>
      obtain ⟨β, _, _, first, hfirst⟩ := key.exists_rank
      obtain ⟨γ, _, _, rest, hrest⟩ := ih
      refine ⟨β × γ, lexOrd, inferInstance,
        fun | a :: as => (first a, rest as) | [] => (first .null, rest []), ?_⟩
      intro as bs ha hb
      cases ha with
      | cons ha has =>
          cases hb with
          | cons hb hbs =>
              rw [SortOrder.compareTuples, hfirst _ _ ha hb, hrest _ _ has hbs]
              rfl

end RecordQuery
