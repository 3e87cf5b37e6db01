import RecordQuery.Ordering.Seek
import RecordQuery.Proofs.Ordering.KeyTuple
import RecordQuery.Proofs.Predicate.Connectives

/-!
# `Proofs.Ordering.Seek` — a seek finds the records past a cursor

The predicate of a seek and the order of tuples are two accounts of one order: the first is built of
null tests, guards and comparisons, the second compares values. They agree on every conforming
record (`predicate_answers`), and the seek under the reversed keys finds what lies on the other side
(`predicate_trichotomy`).

One key is settled by `equal_answers` and `after_answers`, whose verdict is the order `o` of what the
record has against the value of the cursor; `steps_answers` adds the keys up.
-/

namespace RecordQuery

open RecordQuery.Filter (Connective)

/-- An operator that decides by the order of two values does so when a value is tested. -/
theorem Operator.holdsOf_of_compare? {op : Operator} {s c : Scalar} {o : Ordering}
    (hop : op.isRelational = true) (hs : s ≠ .null) (h : s.compare? c = some o) :
    op.holdsOf (.scalar s) c false = op.holds o := by
  have hvalue : (Value.scalar s).compare? (.scalar c) = some o := h
  cases s with
  | null => exact absurd rfl hs
  | string a =>
      cases c with
      | string b =>
          cases h
          cases op <;> first | rfl | simp [isRelational] at hop
      | _ => simp only [holdsOf, hop, hvalue, if_true]
  | _ => simp only [holdsOf, hop, hvalue, if_true]

/-! ## Null in the order of scalars -/

theorem Scalar.isNull_iff {s : Scalar} : s.isNull = true ↔ s = .null := by
  cases s <;> simp [Scalar.isNull]

theorem Scalar.isNull_eq_false {s : Scalar} (h : s ≠ .null) : s.isNull = false := by
  rw [← Bool.not_eq_true, Scalar.isNull_iff]
  exact h

theorem Scalar.compare?_null_right {s : Scalar} {o : Ordering} (h : s.compare? .null = some o) :
    (o = .eq ↔ s = .null) ∧ (o = .gt ↔ s ≠ .null) := by
  cases s <;> cases h <;> simp

theorem Scalar.compare?_null_left {c : Scalar} {o : Ordering} (hc : c ≠ .null)
    (h : Scalar.compare? .null c = some o) : o = .lt := by
  cases c <;> first | exact absurd rfl hc | (cases h; rfl)

namespace Seek

open Predicate

variable {catalog : Catalog} {schema : Schema} {record : Record} {key : SortKey} {s c : Scalar}
  (parameter : Bool)

/-! ## One key -/

/-- A comparison with a value that is not null is false of a key that is. -/
theorem compare_answers {op : Operator} {o : Ordering} (hkey : SortKey.Reads catalog record key s)
    (hop : op.isRelational = true) (hne : op ≠ .ne) (h : s.compare? c = some o) :
    Answers ((compare parameter key.path op c).evaluate record)
      (s ≠ .null ∧ op.holds o = true) := by
  cases hkey.reach with
  | absent _ readOrNull blocked =>
      -- the guards stop at the absent record, and the key reads as null
      have hs : s = .null := by
        have := hkey.read.symm.trans readOrNull
        cases this
        rfl
      exact ⟨false, evaluate_behind_blocked .and blocked _, by simp [hs]⟩
  | value v _ _ read readOrNull clear =>
      have hv : v = .scalar s := readOrNull.symm.trans hkey.read
      subst hv
      refine behind_clear_answers .and clear ?_
      simp only [evaluate, Operand.read, read, Except.map]
      refine (answers_ok _).congr ?_
      by_cases hs : s = .null
      · subst hs
        simp [Operator.holdsOf, hne]
      · rw [Operator.holdsOf_of_compare? hop hs h]
        simp [hs]

/-- The null tests along the path of a key say whether the key is null. -/
theorem evaluate_nullSources (connective : Connective) (hkey : SortKey.Reads catalog record key s) :
    (connect connective ((nullSources key.path).map (nullTest connective))).evaluate record =
      .ok (s.isNull != connective.neutral) := by
  rw [nullSources, List.map_append, List.map_singleton]
  cases hkey.reach with
  | absent _ readOrNull blocked =>
      have hs : Value.scalar s = .null := hkey.read.symm.trans readOrNull
      cases hs
      rw [evaluate_behind_blocked connective blocked]
      cases connective <;> rfl
  | value v _ _ read readOrNull clear =>
      have hv : v = .scalar s := readOrNull.symm.trans hkey.read
      subst hv
      apply evaluate_connect_of_ok
      rw [evaluate_chain_clear clear, evaluate_chain_singleton, evaluate_nullTest read]
      rfl

theorem isNull_answers (hkey : SortKey.Reads catalog record key s) :
    Answers ((isNull key.path).evaluate record) (s = .null) := by
  unfold isNull
  split
  · refine ⟨_, evaluate_nullSources .or hkey, ?_⟩
    rw [Connective.neutral_or, Bool.bne_false, Scalar.isNull_iff]
  · rename_i hn
    exact ⟨false, rfl, by simp [hkey.ne_null_of_not_nullable (by simpa using hn)]⟩

theorem isNotNull_answers (hkey : SortKey.Reads catalog record key s) :
    Answers ((isNotNull key.path).evaluate record) (s ≠ .null) := by
  unfold isNotNull
  split
  · refine ⟨_, evaluate_nullSources .and hkey, ?_⟩
    rw [Connective.neutral_and, Bool.bne_true, Bool.not_eq_true', ← Bool.not_eq_true,
      Scalar.isNull_iff]
  · rename_i hn
    exact ⟨true, rfl, by simp [hkey.ne_null_of_not_nullable (by simpa using hn)]⟩

/-- **One key**: whether it is the value of the cursor. -/
theorem equal_answers {o : Ordering} (hkey : SortKey.Reads catalog record key s)
    (h : s.compare? c = some o) :
    Answers ((equal parameter key.path c).evaluate record) (o = .eq) := by
  unfold equal
  split
  · rename_i hc
    rw [Scalar.isNull_iff] at hc
    subst hc
    exact (isNull_answers hkey).congr (Scalar.compare?_null_right h).1.symm
  · rename_i hc
    rw [Scalar.isNull_iff] at hc
    refine (compare_answers parameter hkey rfl (by decide) h).congr ?_
    by_cases hs : s = .null
    · subst hs
      simp [Scalar.compare?_null_left hc h]
    · simp [hs, Operator.holds]

/-- **One key**: whether it comes after the value of the cursor. -/
theorem after_answers {o : Ordering} (hkey : SortKey.Reads catalog record key s)
    (h : s.compare? c = some o) :
    Answers ((after parameter key c).evaluate record) (key.direction.apply o = .gt) := by
  unfold after
  cases hdir : key.direction with
  | asc =>
      by_cases hc : c = .null
      · -- every value comes after null
        subst hc
        exact (isNotNull_answers hkey).congr (Scalar.compare?_null_right h).2.symm
      · rw [Scalar.isNull_eq_false hc]
        refine (compare_answers parameter hkey rfl (by decide) h).congr ?_
        by_cases hs : s = .null
        · subst hs
          simp [Scalar.compare?_null_left hc h, Direction.apply]
        · simp [hs, Operator.holds, Direction.apply]
  | desc =>
      by_cases hc : c = .null
      · -- nothing comes after null
        subst hc
        refine ⟨false, rfl, ?_⟩
        obtain ⟨heq, hgt⟩ := Scalar.compare?_null_right h
        by_cases hs : s = .null
        · rw [heq.mpr hs]
          simp [Direction.apply]
        · rw [hgt.mpr hs]
          simp [Direction.apply]
      · rw [Scalar.isNull_eq_false hc]
        -- smaller values come after a value, and so does null
        refine connect_answers .or ?_
        have hnull : Answers ((chain .or [isNull key.path]).evaluate record) (s = .null) := by
          rw [evaluate_chain_singleton]
          exact isNull_answers hkey
        refine (chain_cons_answers (compare_answers parameter hkey rfl (by decide) h) hnull).congr ?_
        by_cases hs : s = .null
        · subst hs
          simp [Scalar.compare?_null_left hc h, Direction.apply]
        · simp [hs, Operator.holds, Direction.apply]

/-! ## All keys -/

/-- **The steps of a seek**: once the ties hold, one of them is met exactly if the tuple of the
    record comes after the values. By induction on the keys; the ties grow by one key at a time. -/
theorem steps_answers {keys : SortOrder} {values : List Scalar} {ties : List Predicate} {Q : Prop}
    (hvalues : keys.Takes values)
    (hkeys : ∀ key ∈ keys, ∃ s, SortKey.Reads catalog record key s)
    (hties : Answers ((chain .and ties).evaluate record) Q) :
    Answers ((chain .or (steps parameter ties (keys.zip values))).evaluate record)
      (Q ∧ keys.compareTuples (keys.keyValues record) values = .gt) := by
  induction hvalues generalizing ties Q with
  | nil => exact ⟨false, rfl, by simp [SortOrder.compareTuples]⟩
  | @cons key keys c values hc _ ih =>
      obtain ⟨s, hs⟩ := hkeys key List.mem_cons_self
      obtain ⟨o, ho⟩ := hs.takes.compare? hc
      have hafter := chain_snoc_answers hties (after_answers parameter hs ho)
      have hequal := chain_snoc_answers hties (equal_answers parameter hs ho)
      have hrest := ih (fun key hkey => hkeys key (List.mem_cons_of_mem _ hkey)) hequal
      refine (chain_cons_answers (connect_answers .and hafter) hrest).congr ?_
      rw [Connective.joined_or, Connective.joined_and, Connective.joined_and, hs.keyValues_cons,
        SortOrder.compareTuples, Ordering.then_eq_gt, SortKey.compareScalars, ho, Option.getD_some,
        Direction.apply_eq_eq, and_or_left, and_assoc]

theorem exists_predicate {keys : SortOrder} {values : List Scalar} (h : keys.Takes values) :
    ∃ p, predicate keys values parameter = .ok p := ⟨_, if_pos h.length_eq⟩

variable {parameter} in
/-- A seek can be tested on a conforming record, and it finds the record exactly if its tuple comes
    after the values. -/
theorem predicate_answers {keys : SortOrder} {values : List Scalar} {p : Predicate}
    (hp : predicate keys values parameter = .ok p) (hvalues : keys.Takes values)
    (hkeys : ∀ key ∈ keys, ∃ s, SortKey.Reads catalog record key s) :
    Answers (p.evaluate record) (keys.compareTuples (keys.keyValues record) values = .gt) := by
  rw [predicate, if_pos hvalues.length_eq] at hp
  cases hp
  refine connect_answers .or ?_
  refine (steps_answers parameter hvalues hkeys ⟨true, rfl, Iff.rfl⟩).congr ?_
  simp

theorem reads_reversed {keys : SortOrder}
    (h : ∀ key ∈ keys, ∃ s, SortKey.Reads catalog record key s) :
    ∀ key ∈ keys.reversed, ∃ s, SortKey.Reads catalog record key s := by
  intro key hkey
  obtain ⟨key, hmem, rfl⟩ := List.mem_map.mp hkey
  obtain ⟨s, hs⟩ := h key hmem
  exact ⟨s, hs.reach, hs.read, hs.takes⟩

variable {parameter} in
/-- Under the reversed keys a seek finds the records whose tuples come before the values. -/
theorem predicate_reversed_answers {keys : SortOrder} {values : List Scalar} {p : Predicate}
    (hp : predicate keys.reversed values parameter = .ok p) (hvalues : keys.Takes values)
    (hkeys : ∀ key ∈ keys, ∃ s, SortKey.Reads catalog record key s) :
    Answers (p.evaluate record) (keys.compareTuples (keys.keyValues record) values = .lt) := by
  refine (predicate_answers hp hvalues.reversed (reads_reversed hkeys)).congr ?_
  rw [SortOrder.keyValues_reversed, SortOrder.compareTuples_reversed, Ordering.swap_eq_gt]

/-- Two tuples have for every key values that compare as equal. -/
def EqualOnEveryKey (as bs : List Scalar) : Prop :=
  ∀ pair ∈ as.zip bs, pair.1.compare? pair.2 = some .eq

theorem compareTuples_eq_iff {keys : SortOrder} {as bs : List Scalar} (ha : keys.Takes as)
    (hb : keys.Takes bs) : keys.compareTuples as bs = .eq ↔ EqualOnEveryKey as bs := by
  unfold EqualOnEveryKey
  induction ha generalizing bs with
  | nil => simp [SortOrder.compareTuples]
  | @cons key keys a as ha _ ih =>
      cases hb with
      | @cons _ _ b bs hb htail =>
          obtain ⟨o, ho⟩ := ha.compare? hb
          rw [SortOrder.compareTuples, Ordering.then_eq_eq, ih htail, SortKey.compareScalars, ho]
          simp [ho]

/-- **A seek and its reverse split the records.** For keys found in the schema, values that the keys
    take and a conforming record, both seeks can be built and tested: one finds the record exactly if
    its tuple comes after the values, the other exactly if it comes before them, and neither does
    exactly if the two are equal on every key. The order is that of records where some record has
    the values. -/
theorem predicate_trichotomy {catalog : Catalog} {schema : Schema} {record : Record}
    {keys : SortOrder} {values : List Scalar} (parameter : Bool)
    (hkeys : keys.Resolved catalog schema) (hvalues : keys.Takes values)
    (hr : record.Conforms catalog schema) (hn : ∀ key ∈ keys, key.AvoidsNan record) :
    ∃ forward backward f b,
      predicate keys values parameter = .ok forward ∧
      predicate keys.reversed values parameter = .ok backward ∧
      forward.evaluate record = .ok f ∧ backward.evaluate record = .ok b ∧
      (f = true ↔ keys.compareTuples (keys.keyValues record) values = .gt) ∧
      (b = true ↔ keys.compareTuples (keys.keyValues record) values = .lt) ∧
      ((f = true ∧ b = false ∧ ¬EqualOnEveryKey (keys.keyValues record) values) ∨
        (f = false ∧ b = true ∧ ¬EqualOnEveryKey (keys.keyValues record) values) ∨
        (f = false ∧ b = false ∧ EqualOnEveryKey (keys.keyValues record) values)) ∧
      ∀ anchor : Record, anchor.Conforms catalog schema → (∀ key ∈ keys, key.AvoidsNan anchor) →
        keys.keyValues anchor = values →
        keys.compareTuples (keys.keyValues record) values = keys.compare record anchor := by
  have hreads := hkeys.reads hr hn
  obtain ⟨forward, hforward⟩ := exists_predicate parameter hvalues
  obtain ⟨backward, hbackward⟩ := exists_predicate parameter hvalues.reversed
  obtain ⟨f, hf, hfiff⟩ := predicate_answers hforward hvalues hreads
  obtain ⟨b, hb, hbiff⟩ := predicate_reversed_answers hbackward hvalues hreads
  refine ⟨forward, backward, f, b, hforward, hbackward, hf, hb, hfiff, hbiff, ?_, ?_⟩
  · have heq := compareTuples_eq_iff (SortOrder.takes_keyValues hreads) hvalues
    cases ho : keys.compareTuples (keys.keyValues record) values with
    | lt =>
        rw [ho] at hfiff hbiff heq
        exact Or.inr (Or.inl ⟨by simpa using hfiff, by simpa using hbiff,
          fun h => Ordering.noConfusion (heq.mpr h)⟩)
    | eq =>
        rw [ho] at hfiff hbiff heq
        exact Or.inr (Or.inr ⟨by simpa using hfiff, by simpa using hbiff, heq.mp rfl⟩)
    | gt =>
        rw [ho] at hfiff hbiff heq
        exact Or.inl ⟨by simpa using hfiff, by simpa using hbiff,
          fun h => Ordering.noConfusion (heq.mpr h)⟩
  · intro anchor ha hna hvalues
    rw [← hvalues, SortOrder.compare_eq_compareTuples hreads (hkeys.reads ha hna)]

/-- By city from the end, nobody's city last, and then by number. -/
def byCity : SortOrder :=
  [⟨⟨[⟨"home", .record 1, true⟩], ⟨"city", .string, true⟩⟩, .desc⟩, ⟨⟨[], ⟨"id", .int, false⟩⟩, .asc⟩]

theorem byCity_resolved : byCity.Resolved people people.root := by
  intro key hkey
  rcases List.mem_cons.mp hkey with rfl | hkey
  · exact ⟨"home.city", rfl⟩
  · cases List.mem_singleton.mp hkey
    exact ⟨"id", rfl⟩

theorem predicate_trichotomy_wanderer :
    ∃ forward backward, predicate byCity [.null, .number (.int 5)] false = .ok forward ∧
      predicate byCity.reversed [.null, .number (.int 5)] false = .ok backward ∧
      forward.evaluate wanderer = .ok true ∧ backward.evaluate wanderer = .ok false := by
  have hvalues : byCity.Takes [.null, .number (.int 5)] :=
    .cons (Or.inl rfl) (.cons (Or.inr ⟨rfl, by decide⟩) .nil)
  have hn : ∀ key ∈ byCity, key.AvoidsNan wanderer := by
    intro key hkey
    rcases List.mem_cons.mp hkey with rfl | hkey
    · exact fun h => by cases h
    · cases List.mem_singleton.mp hkey
      exact fun h => by cases h
  obtain ⟨forward, backward, f, b, hforward, hbackward, hf, hb, hfiff, hbiff, -⟩ :=
    predicate_trichotomy false byCity_resolved hvalues wanderer_conforms hn
  have hgt : byCity.compareTuples (byCity.keyValues wanderer) [.null, .number (.int 5)] = .gt := by
    decide
  rw [hgt] at hfiff hbiff
  refine ⟨forward, backward, hforward, hbackward, ?_, ?_⟩
  · rw [hf, hfiff.mpr rfl]
  · rw [hb, show b = false by simpa using hbiff]

end Seek
end RecordQuery
