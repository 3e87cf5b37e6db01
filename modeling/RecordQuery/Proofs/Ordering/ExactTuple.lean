import RecordQuery.Proofs.Calendar.Timestamp
import RecordQuery.Proofs.Ordering.Rank

/-!
# `Proofs.Ordering.ExactTuple` — key values as their types hold them

A field may be declared an integer and hold a floating-point number; comparisons then round, and
rounding is not transitive. An **exact** value is of the very kind that its type names, so that the
values of a key are ranked in a total order, and a cursor can carry them.

## Contents
- `Scalar.IsExactly`, `KeyType.Holds`, `KeyType.Tuple`: exact values, and tuples of them.
- `SortOrder.Exact`: records that have such values for the keys of an ordering.
- `SortOrder.exists_rank`: such tuples are compared by a rank in some linear preorder.
-/

namespace RecordQuery

open Std

/-! ## Exact values -/

/-- The scalar is of the kind that the type names: a number is held in the declared kind and is
    finite, and a member stands at its place among distinct variants. -/
def Scalar.IsExactly : FieldType → Scalar → Prop
  | .bool, .bool _ => True
  | .int, .number (.int _) => True
  | .uint, .number (.uint _) => True
  | .float, .number (.float x) => x.isFinite = true
  | .string, .string _ => True
  | .timestamp, .timestamp t => t.IsRepresentable
  | .uuid, .uuid _ => True
  | .enum variants, .enum m => variants.Nodup ∧ variants[m.ordinal]? = some m.name
  | _, _ => False

/-- A key of the type may have the value: an exact one, or null where it may be null. -/
def KeyType.Holds (key : KeyType) (s : Scalar) : Prop :=
  (key.nullable = true ∧ s = .null) ∨ s.IsExactly key.type

/-- A tuple has for each key type a value that it holds. -/
inductive KeyType.Tuple : List KeyType → List Scalar → Prop
  | nil : Tuple [] []
  | cons {key : KeyType} {keys : List KeyType} {s : Scalar} {values : List Scalar}
      (head : key.Holds s) (tail : Tuple keys values) : Tuple (key :: keys) (s :: values)

theorem Scalar.IsExactly.isComparable {type : FieldType} {s : Scalar} (h : s.IsExactly type) :
    s.IsComparable type := by
  cases s with
  | number n =>
      cases n with
      | float x =>
          cases x with
          | nan => cases type <;> first | exact h.elim | cases h
          | signed negative rank =>
              cases type <;> first | exact h.elim | exact ⟨trivial, fun h => by cases h⟩
      | _ => cases type <;> first | exact h.elim | exact ⟨trivial, fun h => by cases h⟩
  | _ => cases type <;> first | exact h.elim | exact ⟨trivial, fun h => by cases h⟩

theorem KeyType.Tuple.places {keys : SortOrder} {values : List Scalar}
    (h : KeyType.Tuple keys.keyTypes values) : keys.Places values := by
  induction keys generalizing values with
  | nil =>
      cases h
      exact .nil
  | cons key keys ih =>
      cases h with
      | cons head tail =>
          exact .cons (head.imp (fun h => h.2) Scalar.IsExactly.isComparable) (ih tail)

theorem KeyType.Tuple.takes {keys : SortOrder} {values : List Scalar}
    (h : KeyType.Tuple keys.keyTypes values) : keys.Takes values := h.places.takes

/-! ## Ranks -/

/-- Tuples of exact values are compared by a rank. -/
theorem SortOrder.exists_rank (keys : SortOrder) :
    ∃ (β : Type) (_ : Ord β) (_ : TransOrd β) (rank : List Scalar → β),
      ∀ as bs : List Scalar, KeyType.Tuple keys.keyTypes as → KeyType.Tuple keys.keyTypes bs →
        keys.compareTuples as bs = Ord.compare (rank as) (rank bs) := by
  obtain ⟨β, ord, trans, rank, hrank⟩ := keys.exists_tuple_rank
  exact ⟨β, ord, trans, rank, fun as bs ha hb => hrank as bs ha.places hb.places⟩

/-! ## Records with exact values -/

/-- What the record has for the keys is null or exact. -/
def SortOrder.Exact (keys : SortOrder) (record : Record) : Prop :=
  ∀ key ∈ keys, ∀ s, key.read record = .scalar s → s = .null ∨ s.IsExactly key.path.last.type

variable {catalog : Catalog} {schema : Schema} {record : Record} {keys : SortOrder}

theorem SortOrder.Exact.avoidsNan (h : keys.Exact record) : ∀ key ∈ keys, key.AvoidsNan record := by
  intro key hkey hread
  rcases h key hkey _ hread with hnull | hexact
  · cases hnull
  · exact hexact.isComparable.2 rfl

/-- **The tuple of a conforming record is one of the key types**, if its values are exact. -/
theorem SortOrder.tuple_keyValues (h : ∀ key ∈ keys, ∃ s, SortKey.Reads catalog record key s)
    (hexact : keys.Exact record) : KeyType.Tuple keys.keyTypes (keys.keyValues record) := by
  induction keys with
  | nil => exact .nil
  | cons key keys ih =>
      obtain ⟨s, hs⟩ := h key List.mem_cons_self
      rw [hs.keyValues_cons]
      refine .cons ?_ (ih (fun key hkey => h key (List.mem_cons_of_mem _ hkey))
        fun key hkey => hexact key (List.mem_cons_of_mem _ hkey))
      rcases hexact key List.mem_cons_self s hs.read with hnull | hexact
      · cases hn : key.path.nullable with
        | true => exact Or.inl ⟨hn, hnull⟩
        | false => exact absurd hnull (hs.ne_null_of_not_nullable hn)
      · exact Or.inr hexact

end RecordQuery
