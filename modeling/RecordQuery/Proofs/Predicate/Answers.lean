import RecordQuery.Filter.Node
import RecordQuery.Predicate.Evaluate

/-!
# `Proofs.Predicate.Answers` — what tests say, and tests one after the other

A connective tests its terms from left to right, a quantifier the elements of a collection, and both
stop at the first result that decides. The two connectives differ only in the answer that decides
nothing, so what follows is said of both at once: `any` goes with the disjunction, `all` with the
conjunction.

## Contents
- `Answers`, `Partly`: a test says whether a proposition holds; it does if it says anything.
- `Connective.neutral`: the answer that decides nothing.
- `Connective.joined`, `Connective.across`: what a connective makes of propositions.
- `Connective.combine`, `Connective.verdict`: what it makes of results, two or many.
- `combine_answers`, `combine_partly`: **the result says what the connective makes of what the two
  say.**
- `verdict_cases`: **a verdict is an answer, or the error of a result behind neutral ones.**
- `verdict_not`: **the opposite verdict is that of the opposite results under the other one.**
-/

namespace RecordQuery

/-! ## Tests -/

/-- A test ends without an error and says whether `P` holds. -/
def Answers (result : Except EvalError Bool) (P : Prop) : Prop :=
  ∃ b, result = .ok b ∧ (b = true ↔ P)

/-- If the test ends with an answer, it says whether `P` holds. -/
def Partly (result : Except EvalError Bool) (P : Prop) : Prop :=
  ∀ b, result = .ok b → (b = true ↔ P)

section Tests

variable {result : Except EvalError Bool} {P Q : Prop}

theorem answers_ok (b : Bool) : Answers (.ok b) (b = true) := ⟨b, rfl, Iff.rfl⟩

theorem Answers.congr (h : Answers result P) (hpq : P ↔ Q) : Answers result Q := by
  obtain ⟨b, hb, hp⟩ := h
  exact ⟨b, hb, hp.trans hpq⟩

theorem Answers.not (h : Answers result P) : Answers (result.map (!·)) (¬P) := by
  obtain ⟨b, rfl, hp⟩ := h
  exact ⟨!b, rfl, by rw [← hp]; simp⟩

/-- Two tests that say whether the same holds give the same answer. -/
theorem Answers.agree {a b : Except EvalError Bool} (ha : Answers a P) (hb : Answers b P) :
    ∃ answer, a = .ok answer ∧ b = .ok answer := by
  obtain ⟨x, rfl, hx⟩ := ha
  obtain ⟨y, rfl, hy⟩ := hb
  rw [Bool.eq_iff_iff.mpr (hy.trans hx.symm)]
  exact ⟨x, rfl, rfl⟩

theorem Answers.partly (h : Answers result P) : Partly result P := by
  obtain ⟨b, rfl, hp⟩ := h
  rintro _ ⟨⟩
  exact hp

theorem Partly.answers {b : Bool} (h : Partly result P) (hb : result = .ok b) : Answers result P :=
  ⟨b, hb, h b hb⟩

theorem partly_error {e : EvalError} : Partly (.error e) P := fun _ h => by cases h

theorem Partly.congr (h : Partly result P) (hpq : P ↔ Q) : Partly result Q :=
  fun b hb => (h b hb).trans hpq

theorem Partly.not (h : Partly result P) : Partly (result.map (!·)) (¬P) := by
  cases result with
  | error e => exact partly_error
  | ok b => exact (((h.answers rfl).not).partly)

end Tests

namespace Filter.Connective

/-! ## Connectives of propositions -/

/-- The constant that a connective leaves out; the other constant decides it. -/
def neutral : Connective → Bool
  | .and => true
  | .or => false

/-- What a connective makes of two propositions. -/
def joined : Connective → Prop → Prop → Prop
  | .and => And
  | .or => Or

/-- What a connective makes of a proposition about each member of a list. -/
def across {α : Type} (connective : Connective) (xs : List α) (P : α → Prop) : Prop :=
  match connective with
  | .and => ∀ x ∈ xs, P x
  | .or => ∃ x ∈ xs, P x

variable {connective : Connective} {P Q : Prop} {b : Bool}

@[simp] theorem neutral_and : Connective.and.neutral = true := rfl

@[simp] theorem neutral_or : Connective.or.neutral = false := rfl

@[simp] theorem joined_and : Connective.and.joined P Q = (P ∧ Q) := rfl

@[simp] theorem joined_or : Connective.or.joined P Q = (P ∨ Q) := rfl

@[simp] theorem across_and {α : Type} {xs : List α} {P : α → Prop} :
    Connective.and.across xs P = ∀ x ∈ xs, P x := rfl

@[simp] theorem across_or {α : Type} {xs : List α} {P : α → Prop} :
    Connective.or.across xs P = ∃ x ∈ xs, P x := rfl

/-- A proposition that decides nothing leaves it to the other. -/
theorem joined_of_eq_neutral (hb : b = connective.neutral) (hp : b = true ↔ P) :
    connective.joined P Q ↔ Q := by
  cases connective <;> cases hb <;> simp [← hp]

theorem joined_of_ne_neutral (hb : b ≠ connective.neutral) (hp : b = true ↔ P) :
    b = true ↔ connective.joined P Q := by
  cases connective <;> cases b <;> simp_all

theorem across_nil {α : Type} {P : α → Prop} :
    connective.across [] P ↔ connective.neutral = true := by
  cases connective <;> simp

theorem across_cons {α : Type} {x : α} {xs : List α} {P : α → Prop} :
    connective.across (x :: xs) P ↔ connective.joined (P x) (connective.across xs P) := by
  cases connective <;> simp

/-! ## Connectives of results -/

/-- Two results under a connective: the second one counts if the first is neutral. -/
def combine (connective : Connective) (first second : Except EvalError Bool) :
    Except EvalError Bool :=
  first.bind fun b => if b = connective.neutral then second else .ok b

/-- Results under a connective, from left to right. -/
def verdict (connective : Connective) (results : List (Except EvalError Bool)) :
    Except EvalError Bool :=
  results.foldr connective.combine (.ok connective.neutral)

variable {first second third : Except EvalError Bool} {results : List (Except EvalError Bool)}

theorem combine_neutral : connective.combine (.ok connective.neutral) second = second := if_pos rfl

theorem combine_of_ne (hb : b ≠ connective.neutral) :
    connective.combine (.ok b) second = .ok b := if_neg hb

theorem combine_neutral_right (connective : Connective) (first : Except EvalError Bool) :
    connective.combine first (.ok connective.neutral) = first := by
  cases first with
  | error e => rfl
  | ok b => cases connective <;> cases b <;> rfl

theorem combine_assoc :
    connective.combine (connective.combine first second) third =
      connective.combine first (connective.combine second third) := by
  cases first with
  | error e => rfl
  | ok b => cases connective <;> cases b <;> rfl

/-- **Where it says anything, the combined result says what the connective makes of what both
    say.** -/
theorem combine_partly (hp : Partly first P) (hq : Partly second Q) :
    Partly (connective.combine first second) (connective.joined P Q) := by
  cases first with
  | error e => exact partly_error
  | ok b =>
      have hp := hp b rfl
      by_cases hb : b = connective.neutral
      · rw [hb, combine_neutral]
        exact hq.congr (joined_of_eq_neutral hb hp).symm
      · rw [combine_of_ne hb]
        rintro _ ⟨⟩
        exact joined_of_ne_neutral hb hp

/-- **If both say something, so does the combined result.** -/
theorem combine_answers (hp : Answers first P) (hq : Answers second Q) :
    Answers (connective.combine first second) (connective.joined P Q) := by
  have hpartly : Partly (connective.combine first second) (connective.joined P Q) :=
    combine_partly hp.partly hq.partly
  obtain ⟨b, rfl, -⟩ := hp
  obtain ⟨answer, rfl, -⟩ := hq
  by_cases hb : b = connective.neutral
  · exact hpartly.answers (if_pos hb)
  · exact hpartly.answers (if_neg hb)

theorem verdict_append (connective : Connective) (front back : List (Except EvalError Bool)) :
    connective.verdict (front ++ back) =
      connective.combine (connective.verdict front) (connective.verdict back) := by
  induction front with
  | nil => exact combine_neutral.symm
  | cons result front ih =>
      show connective.combine result (connective.verdict (front ++ back)) =
        connective.combine (connective.combine result (connective.verdict front)) _
      rw [ih, combine_assoc]

/-- **A verdict is an answer, or the error of a result behind neutral ones.** -/
theorem verdict_cases (connective : Connective) (results : List (Except EvalError Bool)) :
    (∃ b, connective.verdict results = .ok b) ∨
      ∃ front e back, results = front ++ .error e :: back ∧
        (∀ result ∈ front, result = .ok connective.neutral) ∧
        connective.verdict results = .error e := by
  induction results with
  | nil => exact Or.inl ⟨_, rfl⟩
  | cons result results ih =>
      show (∃ b, connective.combine result (connective.verdict results) = .ok b) ∨ _
      cases result with
      | error e =>
          refine Or.inr ⟨[], e, results, rfl, ?_, rfl⟩
          exact fun result hresult => absurd hresult List.not_mem_nil
      | ok b =>
          by_cases hb : b = connective.neutral
          · subst hb
            rw [combine_neutral]
            refine ih.imp id ?_
            rintro ⟨front, e, back, rfl, hfront, he⟩
            exact ⟨.ok connective.neutral :: front, e, back, rfl,
              List.forall_mem_cons.mpr ⟨rfl, hfront⟩, combine_neutral.trans he⟩
          · exact Or.inl ⟨b, combine_of_ne hb⟩

section Members

variable {α : Type} {xs : List α} {test : α → Except EvalError Bool} {P : α → Prop}

theorem verdict_partly (h : ∀ x ∈ xs, Partly (test x) (P x)) :
    Partly (connective.verdict (xs.map test)) (connective.across xs P) := by
  induction xs with
  | nil =>
      rintro _ ⟨⟩
      exact across_nil.symm
  | cons x xs ih =>
      obtain ⟨hx, hxs⟩ := List.forall_mem_cons.mp h
      exact (combine_partly hx (ih hxs)).congr across_cons.symm

theorem verdict_answers (h : ∀ x ∈ xs, Answers (test x) (P x)) :
    Answers (connective.verdict (xs.map test)) (connective.across xs P) := by
  have hpartly : Partly (connective.verdict (xs.map test)) (connective.across xs P) :=
    verdict_partly fun x hx => (h x hx).partly
  rcases verdict_cases connective (xs.map test) with ⟨b, hb⟩ | ⟨front, e, back, hxs, -, -⟩
  · exact hpartly.answers hb
  · -- no result is an error
    have he : .error e ∈ xs.map test := hxs ▸ List.mem_append_right front List.mem_cons_self
    obtain ⟨x, hx, htest⟩ := List.mem_map.mp he
    obtain ⟨b, hb, -⟩ := h x hx
    cases hb.symm.trans htest

end Members

/-! ## Opposites -/

/-- The other connective. -/
def opposite : Connective → Connective
  | .and => .or
  | .or => .and

@[simp] theorem opposite_or : Connective.or.opposite = .and := rfl

theorem combine_not :
    (connective.combine first second).map (!·) =
      connective.opposite.combine (first.map (!·)) (second.map (!·)) := by
  cases first with
  | error e => rfl
  | ok b => cases connective <;> cases b <;> rfl

/-- **The opposite verdict is that of the opposite results under the other connective**, and an error
    ends both at the same result. -/
theorem verdict_not (connective : Connective) (results : List (Except EvalError Bool)) :
    (connective.verdict results).map (!·) =
      connective.opposite.verdict (results.map fun result => result.map (!·)) := by
  induction results with
  | nil => cases connective <;> rfl
  | cons result results ih => exact combine_not.trans (congrArg _ ih)

end Filter.Connective
end RecordQuery
