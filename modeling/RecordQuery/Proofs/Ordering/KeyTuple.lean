import RecordQuery.Ordering.SortOrder
import RecordQuery.Proofs.Schema.Conformance

/-!
# `Proofs.Ordering.KeyTuple` — the order of key tuples

Records are listed in the order of what they have for the keys. `compareTuples` is that order on the
tuples alone, so that a tuple that no record has, such as that of a cursor, takes part in it.

## Contents
- `SortKey.compareScalars`, `SortOrder.compareTuples`: the order of two values of a key, and the
  lexicographic order of two tuples. Reversed keys swap it (`compareTuples_reversed`).
- `SortKey.Takes`, `SortOrder.Takes`: the values that compare under a key, and tuples of them.
- `SortOrder.Resolved`, `SortKey.Reads`: keys found in a schema, and what such a key is on a
  conforming record (`Resolved.reads`).
- `compare_eq_of_scalars`, `compare_eq_compareTuples`: the order of records is that of their tuples.
-/

namespace RecordQuery

theorem Direction.apply_reversed (direction : Direction) (order : Ordering) :
    direction.reversed.apply order = (direction.apply order).swap := by
  cases direction with
  | asc => rfl
  | desc => exact (Ordering.swap_swap).symm

@[simp] theorem Direction.apply_eq_eq {direction : Direction} {order : Ordering} :
    direction.apply order = .eq ↔ order = .eq := by
  cases direction <;> cases order <;> decide

/-! ## The order of tuples -/

/-- The order of two values of the key in its direction; values that do not compare tie. -/
def SortKey.compareScalars (key : SortKey) (a b : Scalar) : Ordering :=
  key.direction.apply ((a.compare? b).getD .eq)

/-- The order of two tuples of values: that of the first key under which they differ. -/
def SortOrder.compareTuples : SortOrder → List Scalar → List Scalar → Ordering
  | key :: keys, a :: as, b :: bs => (key.compareScalars a b).then (compareTuples keys as bs)
  | _, _, _ => .eq

theorem SortKey.compareScalars_reversed (key : SortKey) (a b : Scalar) :
    key.reversed.compareScalars a b = (key.compareScalars a b).swap :=
  Direction.apply_reversed _ _

theorem SortOrder.compareTuples_reversed (keys : SortOrder) (as bs : List Scalar) :
    keys.reversed.compareTuples as bs = (keys.compareTuples as bs).swap := by
  induction keys generalizing as bs with
  | nil => rfl
  | cons key keys ih =>
      cases as with
      | nil => rfl
      | cons a as =>
          cases bs with
          | nil => rfl
          | cons b bs =>
              show (key.reversed.compareScalars a b).then
                (SortOrder.compareTuples (SortOrder.reversed keys) as bs) = _
              rw [ih, SortKey.compareScalars_reversed, ← Ordering.swap_then]
              rfl

theorem SortOrder.compare_reversed (keys : SortOrder) (a b : Record) :
    keys.reversed.compare a b = (keys.compare a b).swap := by
  induction keys with
  | nil => rfl
  | cons key keys ih =>
      show (key.reversed.compare a b).then (SortOrder.compare (SortOrder.reversed keys) a b) = _
      rw [ih, show key.reversed.compare a b = (key.compare a b).swap from
        Direction.apply_reversed _ _, ← Ordering.swap_then]
      rfl

theorem SortOrder.keyValues_reversed (keys : SortOrder) (record : Record) :
    keys.reversed.keyValues record = keys.keyValues record := by
  simp only [SortOrder.keyValues, SortOrder.reversed, List.map_map]
  rfl

/-! ## Values that compare -/

/-- A value that the key may have in a cursor: null, or one of its type other than `nan`. -/
def SortKey.Takes (key : SortKey) (s : Scalar) : Prop :=
  s = .null ∨ s.isOf key.path.last.type = true ∧ s ≠ .number (.float .nan)

/-- A tuple has for each key a value that the key takes. -/
inductive SortOrder.Takes : SortOrder → List Scalar → Prop
  | nil : Takes [] []
  | cons {key : SortKey} {keys : SortOrder} {s : Scalar} {values : List Scalar}
      (head : key.Takes s) (tail : Takes keys values) : Takes (key :: keys) (s :: values)

theorem SortOrder.Takes.length_eq {keys : SortOrder} {values : List Scalar}
    (h : keys.Takes values) : keys.length = values.length := by
  induction h with
  | nil => rfl
  | cons _ _ ih => rw [List.length_cons, List.length_cons, ih]

theorem SortOrder.Takes.reversed {keys : SortOrder} {values : List Scalar} (h : keys.Takes values) :
    keys.reversed.Takes values := by
  induction h with
  | nil => exact .nil
  | cons head _ ih => exact .cons head ih

theorem Number.compare?_of_ne_nan {a b : Number} (ha : a ≠ .float .nan) (hb : b ≠ .float .nan) :
    ∃ o, a.compare? b = some o := by
  have hkey {x : Number} (hx : x ≠ .float .nan) : ∃ k, x.toFloat.key? = some k := by
    cases x with
    | int n => exact ⟨_, rfl⟩
    | uint n => exact ⟨_, rfl⟩
    | float x =>
        cases x with
        | nan => exact absurd rfl hx
        | signed negative rank => exact ⟨_, rfl⟩
  obtain ⟨k, hk⟩ := hkey ha
  obtain ⟨l, hl⟩ := hkey hb
  unfold Number.compare?
  split
  · exact ⟨_, rfl⟩
  · rw [Binary64.compare?, hk, hl]
    exact ⟨_, rfl⟩

/-- Two values of one type compare, `nan` aside. -/
theorem Scalar.compare?_of_isOf {type : FieldType} {a b : Scalar} (ha : a.isOf type = true)
    (hb : b.isOf type = true) (hna : a ≠ .number (.float .nan))
    (hnb : b ≠ .number (.float .nan)) : ∃ o, a.compare? b = some o := by
  have hnumber {m n : Number} (hm : Scalar.number m ≠ .number (.float .nan))
      (hn : Scalar.number n ≠ .number (.float .nan)) :
      ∃ o, (Scalar.number m).compare? (.number n) = some o :=
    Number.compare?_of_ne_nan (fun h => hm (by rw [h])) (fun h => hn (by rw [h]))
  cases a with
  | null => simp [Scalar.isOf] at ha
  | number m =>
      cases b with
      | number n => exact hnumber hna hnb
      | _ => cases type <;> simp [Scalar.isOf] at ha hb
  | _ => cases type <;> cases b <;> first | exact ⟨_, rfl⟩ | simp [Scalar.isOf] at ha hb

/-- Two values that a key takes compare. -/
theorem SortKey.Takes.compare? {key : SortKey} {a b : Scalar} (ha : key.Takes a)
    (hb : key.Takes b) : ∃ o, a.compare? b = some o := by
  rcases ha with rfl | ⟨ha, hna⟩
  · cases b <;> exact ⟨_, rfl⟩
  · rcases hb with rfl | ⟨hb, hnb⟩
    · cases a <;> exact ⟨_, rfl⟩
    · exact Scalar.compare?_of_isOf ha hb hna hnb

/-! ## Keys on records -/

/-- The path of every key was found in the schema. -/
def SortOrder.Resolved (catalog : Catalog) (schema : Schema) (keys : SortOrder) : Prop :=
  ∀ key ∈ keys, ∃ text, catalog.key schema text = .ok key.path

/-- What a record has for the key is no `nan`. -/
def SortKey.AvoidsNan (key : SortKey) (record : Record) : Prop :=
  key.read record ≠ .scalar (.number (.float .nan))

/-- The key reads as a value that it takes, at the end of its path or where the path ends early. -/
structure SortKey.Reads (catalog : Catalog) (record : Record) (key : SortKey) (s : Scalar) : Prop
    where
  reach : Reach catalog record key.path
  read : key.read record = .scalar s
  takes : key.Takes s

variable {catalog : Catalog} {schema : Schema} {record : Record} {keys : SortOrder}

theorem SortKey.reads_of_route {key : SortKey} (route : catalog.Route schema key.path.through
    key.path.last) (hscalar : key.path.last.type.isScalar = true)
    (hr : record.Conforms catalog schema) (hn : key.AvoidsNan record) :
    ∃ s, SortKey.Reads catalog record key s := by
  have reach := route.reach hr
  cases reach with
  | absent terminal readOrNull blocked =>
      exact ⟨.null, .absent terminal readOrNull blocked, readOrNull, Or.inl rfl⟩
  | value v admits terminal read readOrNull clear =>
      have reach : Reach catalog record key.path :=
        .value v admits terminal read readOrNull clear
      rcases admits with ⟨-, rfl⟩ | htype
      · exact ⟨.null, reach, readOrNull, Or.inl rfl⟩
      · obtain ⟨s, rfl, hs⟩ := htype.exists_scalar hscalar
        refine ⟨s, reach, readOrNull, Or.inr ⟨hs, ?_⟩⟩
        rintro rfl
        exact hn readOrNull

theorem SortOrder.Resolved.reads (hk : keys.Resolved catalog schema)
    (hr : record.Conforms catalog schema) (hn : ∀ key ∈ keys, key.AvoidsNan record) :
    ∀ key ∈ keys, ∃ s, SortKey.Reads catalog record key s := by
  intro key hkey
  obtain ⟨text, htext⟩ := hk key hkey
  obtain ⟨route, hscalar⟩ := Catalog.key_route htext
  exact SortKey.reads_of_route route hscalar hr (hn key hkey)

theorem ResolvedPath.nullablePaths_of_any {fields : List Field}
    (h : fields.any (·.nullable) = false) (walked : Path) : nullablePaths walked fields = [] := by
  induction fields generalizing walked with
  | nil => rfl
  | cons field fields ih =>
      rw [List.any_cons, Bool.or_eq_false_iff] at h
      simp only [nullablePaths, h.1, Bool.false_eq_true, if_false]
      exact ih h.2 _

/-- A key that may not be null is not. -/
theorem SortKey.Reads.ne_null_of_not_nullable {key : SortKey} {s : Scalar}
    (h : SortKey.Reads catalog record key s) (hn : key.path.nullable = false) : s ≠ .null := by
  rw [ResolvedPath.nullable, Bool.or_eq_false_iff] at hn
  cases h.reach with
  | absent _ _ blocked =>
      rw [ResolvedPath.nullableRecords, ResolvedPath.nullablePaths_of_any hn.1] at blocked
      exact blocked.elim
  | value v admits _ _ readOrNull _ =>
      have hv : v = .scalar s := readOrNull.symm.trans h.read
      subst hv
      rcases admits with ⟨hnull, -⟩ | htype
      · rw [hn.2] at hnull
        cases hnull
      · rintro rfl
        exact Bool.noConfusion htype.isNull_eq_false

theorem SortOrder.keyValues_cons {key : SortKey} {s : Scalar} (h : key.read record = .scalar s) :
    SortOrder.keyValues (key :: keys) record = s :: keys.keyValues record := by
  rw [SortOrder.keyValues, List.map_cons, h]
  rfl

theorem SortKey.Reads.keyValues_cons {key : SortKey} {s : Scalar}
    (h : SortKey.Reads catalog record key s) :
    SortOrder.keyValues (key :: keys) record = s :: keys.keyValues record :=
  SortOrder.keyValues_cons h.read

/-- A conforming record has for its keys what the keys take. -/
theorem SortOrder.takes_keyValues (h : ∀ key ∈ keys, ∃ s, SortKey.Reads catalog record key s) :
    keys.Takes (keys.keyValues record) := by
  induction keys with
  | nil => exact .nil
  | cons key keys ih =>
      obtain ⟨s, hs⟩ := h key List.mem_cons_self
      rw [hs.keyValues_cons]
      exact .cons hs.takes (ih fun key hkey => h key (List.mem_cons_of_mem _ hkey))

/-- **The order of two records is the order of their tuples**, if they have scalars for the keys. -/
theorem SortOrder.compare_eq_of_scalars {other : Record}
    (h : ∀ key ∈ keys, ∃ s, key.read record = .scalar s)
    (ho : ∀ key ∈ keys, ∃ s, key.read other = .scalar s) :
    keys.compare record other =
      keys.compareTuples (keys.keyValues record) (keys.keyValues other) := by
  induction keys with
  | nil => rfl
  | cons key keys ih =>
      obtain ⟨s, hs⟩ := h key List.mem_cons_self
      obtain ⟨t, ht⟩ := ho key List.mem_cons_self
      rw [SortOrder.keyValues_cons hs, SortOrder.keyValues_cons ht, SortOrder.compareTuples,
        SortOrder.compare, ih (fun key hkey => h key (List.mem_cons_of_mem _ hkey))
          (fun key hkey => ho key (List.mem_cons_of_mem _ hkey)),
        SortKey.compare, hs, ht]
      rfl

/-- Conforming records have scalars for the keys. -/
theorem SortOrder.compare_eq_compareTuples {other : Record}
    (h : ∀ key ∈ keys, ∃ s, SortKey.Reads catalog record key s)
    (ho : ∀ key ∈ keys, ∃ s, SortKey.Reads catalog other key s) :
    keys.compare record other =
      keys.compareTuples (keys.keyValues record) (keys.keyValues other) :=
  SortOrder.compare_eq_of_scalars (fun key hkey => (h key hkey).imp fun _ hs => hs.read)
    fun key hkey => (ho key hkey).imp fun _ hs => hs.read

end RecordQuery
