import RecordQuery.Proofs.Predicate.Answers
import RecordQuery.Proofs.Schema.Conformance

/-!
# `Proofs.Predicate.Connectives` — what the predicate builders mean

The builders leave constants out, splice terms and drop double negations, and terms are tested from
left to right until one decides. This module says what they mean all the same, for both connectives
and for both quantifiers at once.

## Contents
- `Predicate.chain`, `connect`: terms under a connective, as they are and simplified.
- `evaluate_chain`: **the verdict of the terms.**
- `collect?`, `pack`, `connect_eq`: the builder of a connective collects its terms and packs them.
- `evaluate_connect`: **a built connective and the plain one give the same**, but for an error before
  a deciding constant; `connect_answers`, `connect_partly` say what follows for answers.
- `evaluate_negate`: a negated predicate gives the opposite answer, or the same error.
- `evaluate_chain_clear`, `evaluate_chain_blocked`: null tests in front of other terms, on paths that
  are `Clear` or `Blocked`.
- `testElements_eq`, `evaluate_quantified`: **the verdict of the elements.**
-/

namespace RecordQuery

open RecordQuery.Filter (Connective)

namespace Predicate

variable {connective : Connective} {record : Record} {term : Predicate}
  {terms flat : List Predicate} {P Q : Prop}

/-! ## Chains from left to right -/

/-- Terms under a connective, as they are. -/
def chain : Connective → List Predicate → Predicate
  | .and, terms => .and terms
  | .or, terms => .or terms

theorem evaluate_chain_nil (connective : Connective) (record : Record) :
    (chain connective []).evaluate record = .ok connective.neutral := by
  cases connective <;> rfl

/-- A term that is not neutral decides. -/
theorem evaluate_chain_cons (connective : Connective) (term : Predicate) (terms : List Predicate)
    (record : Record) :
    (chain connective (term :: terms)).evaluate record =
      connective.combine (term.evaluate record) ((chain connective terms).evaluate record) := by
  cases connective with
  | and =>
      show evaluateAll (term :: terms) record = _
      rw [evaluateAll]
      rcases term.evaluate record with e | _ | _ <;> rfl
  | or =>
      show evaluateAny (term :: terms) record = _
      rw [evaluateAny]
      rcases term.evaluate record with e | _ | _ <;> rfl

/-- **A chain gives the verdict of its terms.** -/
theorem evaluate_chain (connective : Connective) (terms : List Predicate) (record : Record) :
    (chain connective terms).evaluate record =
      connective.verdict (terms.map fun term => term.evaluate record) := by
  induction terms with
  | nil => exact evaluate_chain_nil connective record
  | cons term terms ih =>
      rw [evaluate_chain_cons, ih]
      rfl

theorem evaluate_chain_append (connective : Connective) (front back : List Predicate)
    (record : Record) :
    (chain connective (front ++ back)).evaluate record =
      connective.combine ((chain connective front).evaluate record)
        ((chain connective back).evaluate record) := by
  rw [evaluate_chain, evaluate_chain, evaluate_chain, List.map_append, Connective.verdict_append]

theorem evaluate_chain_singleton (connective : Connective) (term : Predicate) (record : Record) :
    (chain connective [term]).evaluate record = term.evaluate record := by
  rw [evaluate_chain_cons, evaluate_chain_nil, Connective.combine_neutral_right]

/-- The deciding constant ends a chain. -/
theorem evaluate_chain_decided (connective : Connective) (after : List Predicate)
    (record : Record) :
    (chain connective (.const (!connective.neutral) :: after)).evaluate record =
      .ok !connective.neutral := by
  rw [evaluate_chain_cons]
  cases connective <;> rfl

/-- **An error of a chain is the error of one of its terms.** -/
theorem exists_error_of_chain {e : EvalError}
    (h : (chain connective terms).evaluate record = .error e) :
    ∃ term ∈ terms, term.evaluate record = .error e := by
  rw [evaluate_chain] at h
  rcases Connective.verdict_cases connective (terms.map fun term => term.evaluate record) with
    ⟨b, hb⟩ | ⟨front, e', back, hterms, -, he⟩
  · cases hb.symm.trans h
  · cases he.symm.trans h
    exact List.mem_map.mp (hterms ▸ List.mem_append_right front List.mem_cons_self)

theorem chain_cons_answers (hp : Answers (term.evaluate record) P)
    (hq : Answers ((chain connective terms).evaluate record) Q) :
    Answers ((chain connective (term :: terms)).evaluate record) (connective.joined P Q) := by
  rw [evaluate_chain_cons]
  exact Connective.combine_answers hp hq

theorem chain_append_answers {front back : List Predicate}
    (hp : Answers ((chain connective front).evaluate record) P)
    (hq : Answers ((chain connective back).evaluate record) Q) :
    Answers ((chain connective (front ++ back)).evaluate record) (connective.joined P Q) := by
  rw [evaluate_chain_append]
  exact Connective.combine_answers hp hq

theorem chain_snoc_answers (hp : Answers ((chain connective terms).evaluate record) P)
    (hq : Answers (term.evaluate record) Q) :
    Answers ((chain connective (terms ++ [term])).evaluate record) (connective.joined P Q) := by
  rw [evaluate_chain_append, evaluate_chain_singleton]
  exact Connective.combine_answers hp hq

/-! ## The builders of the connectives -/

/-- Terms under a connective, simplified. -/
def connect : Connective → List Predicate → Predicate
  | .and, terms => conjunction terms
  | .or, terms => disjunction terms

/-- What a term adds to a chain of the connective; nothing if it decides the whole. -/
def share? (connective : Connective) : Predicate → Option (List Predicate)
  | .const value => if value = connective.neutral then some [] else none
  | .and terms => if connective = .and then some terms else some [.and terms]
  | .or terms => if connective = .or then some terms else some [.or terms]
  | term => some [term]

/-- What the terms add to a chain of the connective, one after the other. -/
def collect? (connective : Connective) : List Predicate → Option (List Predicate)
  | [] => some []
  | term :: terms =>
    (share? connective term).bind fun front => (collect? connective terms).map (front ++ ·)

/-- The chain of what was collected. -/
def pack (connective : Connective) : Option (List Predicate) → Predicate
  | none => .const !connective.neutral
  | some [] => .const connective.neutral
  | some [only] => only
  | some flat => chain connective flat

/-- The terms that the builder of a connective goes on with. -/
def gathered? : Connective → List Predicate → Option (List Predicate)
  | .and => conjuncts?
  | .or => disjuncts?

theorem gathered?_eq (connective : Connective) (terms : List Predicate) :
    gathered? connective terms = collect? connective terms := by
  induction terms with
  | nil => cases connective <;> rfl
  | cons term terms ih =>
      rw [collect?, ← ih]
      cases term with
      | const value =>
          cases connective <;> cases value <;>
            simp [gathered?, conjuncts?, disjuncts?, share?]
      | _ => cases connective <;> rfl

/-- The builder collects its terms and packs them. -/
theorem connect_eq (connective : Connective) (terms : List Predicate) :
    connect connective terms = pack connective (collect? connective terms) := by
  rw [← gathered?_eq]
  cases connective with
  | and =>
      show conjunction terms = pack .and (conjuncts? terms)
      rw [conjunction]
      rcases conjuncts? terms with _ | _ | ⟨_, _ | _⟩ <;> rfl
  | or =>
      show disjunction terms = pack .or (disjuncts? terms)
      rw [disjunction]
      rcases disjuncts? terms with _ | _ | ⟨_, _ | _⟩ <;> rfl

theorem collect?_append (connective : Connective) (front back : List Predicate) :
    collect? connective (front ++ back) =
      (collect? connective front).bind fun terms =>
        (collect? connective back).map (terms ++ ·) := by
  induction front with
  | nil => simp [collect?]
  | cons term front ih =>
      simp only [List.cons_append, collect?, ih]
      cases share? connective term with
      | none => rfl
      | some first =>
          cases collect? connective front with
          | none => rfl
          | some terms => cases collect? connective back <;> simp

theorem collect?_singleton (connective : Connective) (term : Predicate) :
    collect? connective [term] = share? connective term := by
  rw [collect?]
  cases share? connective term <;> simp [collect?]

/-- The neutral constant adds nothing, a chain of the connective adds its terms, and every other term
adds itself. -/
theorem share_cases {front : List Predicate} (h : share? connective term = some front) :
    (term = .const connective.neutral ∧ front = []) ∨ term = chain connective front ∨
      front = [term] := by
  cases term with
  | const value =>
      rw [share?] at h
      split at h <;> cases h
      rename_i hvalue
      exact Or.inl ⟨congrArg _ hvalue, rfl⟩
  | and terms =>
      cases connective <;> cases h
      · exact Or.inr (Or.inl rfl)
      · exact Or.inr (Or.inr rfl)
  | or terms =>
      cases connective <;> cases h
      · exact Or.inr (Or.inr rfl)
      · exact Or.inr (Or.inl rfl)
  | _ =>
      cases h
      exact Or.inr (Or.inr rfl)

/-- What holds of all that the terms add holds of all that is collected. -/
theorem forall_mem_collect {R : Predicate → Prop} (hflat : collect? connective terms = some flat)
    (h : ∀ term ∈ terms, ∀ front, share? connective term = some front → ∀ part ∈ front, R part) :
    ∀ part ∈ flat, R part := by
  induction terms generalizing flat with
  | nil =>
      cases hflat
      exact fun part hpart => absurd hpart List.not_mem_nil
  | cons term terms ih =>
      rw [collect?] at hflat
      obtain ⟨front, hshare, hflat⟩ := Option.bind_eq_some_iff.mp hflat
      obtain ⟨back, hback, rfl⟩ := Option.map_eq_some_iff.mp hflat
      obtain ⟨hterm, hterms⟩ := List.forall_mem_cons.mp h
      exact List.forall_mem_append.mpr ⟨hterm front hshare, ih hback hterms⟩

/-- Only the deciding constant adds nothing at all. -/
theorem eq_const_of_share_none (h : share? connective term = none) :
    term = .const !connective.neutral := by
  cases term with
  | const value => cases connective <;> cases value <;> first | rfl | cases h
  | and terms => cases connective <;> cases h
  | or terms => cases connective <;> cases h
  | _ => cases h

/-- The builder drops the terms only for the deciding constant among them. -/
theorem const_mem_of_collect_none (h : collect? connective terms = none) :
    .const (!connective.neutral) ∈ terms := by
  induction terms with
  | nil => cases h
  | cons term terms ih =>
      cases hshare : share? connective term with
      | none =>
          rw [eq_const_of_share_none hshare]
          exact List.mem_cons_self
      | some front =>
          rw [collect?, hshare] at h
          exact List.mem_cons_of_mem _ (ih (Option.map_eq_none_iff.mp h))

/-- What a term adds means what the term means. -/
theorem evaluate_chain_share {front : List Predicate} (h : share? connective term = some front)
    (record : Record) : (chain connective front).evaluate record = term.evaluate record := by
  rcases share_cases h with ⟨rfl, rfl⟩ | rfl | rfl
  · rw [evaluate_chain_nil]
    rfl
  · rfl
  · exact evaluate_chain_singleton connective term record

/-- What was collected means what the terms mean. -/
theorem evaluate_chain_collect (h : collect? connective terms = some flat) :
    (chain connective flat).evaluate record = (chain connective terms).evaluate record := by
  induction terms generalizing flat with
  | nil =>
      cases h
      rfl
  | cons term terms ih =>
      rw [collect?] at h
      obtain ⟨front, hshare, h⟩ := Option.bind_eq_some_iff.mp h
      obtain ⟨back, hback, rfl⟩ := Option.map_eq_some_iff.mp h
      rw [evaluate_chain_append, evaluate_chain_cons, evaluate_chain_share hshare, ih hback]

/-- Packing a list changes nothing: a single term is tested as it would be in a chain. -/
theorem evaluate_pack (connective : Connective) (flat : List Predicate) (record : Record) :
    (pack connective (some flat)).evaluate record = (chain connective flat).evaluate record := by
  match flat with
  | [] => rw [evaluate_chain_nil]; rfl
  | [only] => exact (evaluate_chain_singleton connective only record).symm
  | first :: second :: rest => rfl

/-- **A built connective and the plain one give the same**, unless the plain one ends with the error
of a term before a deciding constant. -/
theorem evaluate_connect (connective : Connective) (terms : List Predicate) (record : Record) :
    (connect connective terms).evaluate record = (chain connective terms).evaluate record ∨
      (connect connective terms).evaluate record = .ok (!connective.neutral) ∧
        ∃ e, (chain connective terms).evaluate record = .error e ∧
          ∃ before after, terms = before ++ .const (!connective.neutral) :: after ∧
            ∃ term ∈ before, term.evaluate record = .error e := by
  rw [connect_eq]
  cases hflat : collect? connective terms with
  | some flat =>
      left
      rw [evaluate_pack, evaluate_chain_collect hflat]
  | none =>
      -- What stands before the deciding constant settles the plain chain, or ends it in an error.
      obtain ⟨before, after, rfl⟩ := List.append_of_mem (const_mem_of_collect_none hflat)
      rw [evaluate_chain_append, evaluate_chain_decided]
      cases hbefore : (chain connective before).evaluate record with
      | ok b =>
          left
          cases connective <;> cases b <;> rfl
      | error e =>
          right
          exact ⟨rfl, e, rfl, before, after, rfl, exists_error_of_chain hbefore⟩

theorem evaluate_connect_of_ok {b : Bool} (h : (chain connective terms).evaluate record = .ok b) :
    (connect connective terms).evaluate record = .ok b := by
  rcases evaluate_connect connective terms record with hsame | ⟨-, e, he, -⟩
  · exact hsame.trans h
  · cases he.symm.trans h

/-- **A built connective gives the answer of its terms.** -/
theorem connect_answers (connective : Connective)
    (h : Answers ((chain connective terms).evaluate record) P) :
    Answers ((connect connective terms).evaluate record) P := by
  obtain ⟨b, hb, hp⟩ := h
  exact ⟨b, evaluate_connect_of_ok hb, hp⟩

/-- **A built connective says what its terms say.** The deciding constant decides even behind a term
that cannot be tested. -/
theorem connect_partly (connective : Connective)
    (h : Partly ((chain connective terms).evaluate record) P)
    (hdecided : .const (!connective.neutral) ∈ terms → ((!connective.neutral) = true ↔ P)) :
    Partly ((connect connective terms).evaluate record) P := by
  rcases evaluate_connect connective terms record with hsame | ⟨hconst, -, -, before, after, rfl, -⟩
  · rwa [hsame]
  · rw [hconst]
    rintro _ ⟨⟩
    exact hdecided (List.mem_append_right before List.mem_cons_self)

/-- **A negated predicate gives the opposite answer**, or the same error. -/
theorem evaluate_negate (p : Predicate) :
    p.negate.evaluate record = (p.evaluate record).map (!·) := by
  cases p with
  | not inner =>
      -- the builder takes the negation away instead of adding one
      simp only [negate, evaluate]
      cases inner.evaluate record <;> simp [Except.map]
  | const b => rfl
  | _ => rfl

/-! ## Null tests in front -/

theorem evaluate_isNull {path : Path} {v : Value} (h : path.read record = .ok v) :
    (isNull path).evaluate record = .ok v.isNull := by
  simp [evaluate, h, Except.map]

theorem evaluate_isNotNull {path : Path} {v : Value} (h : path.read record = .ok v) :
    (isNotNull path).evaluate record = .ok (!v.isNull) := by
  rw [isNotNull, evaluate_negate, evaluate_isNull h]; rfl

/-- The null test that decides a connective where the path is null. -/
def nullTest : Connective → Path → Predicate
  | .and => isNotNull
  | .or => isNull

theorem evaluate_nullTest {path : Path} {v : Value} (h : path.read record = .ok v) :
    (nullTest connective path).evaluate record = .ok (v.isNull != connective.neutral) := by
  cases connective with
  | and => rw [nullTest, evaluate_isNotNull h, Connective.neutral_and, Bool.bne_true]
  | or => rw [nullTest, evaluate_isNull h, Connective.neutral_or, Bool.bne_false]

/-- Behind null tests on paths that are not null the other terms decide. -/
theorem evaluate_chain_clear {paths : List Path} (h : Clear record paths) :
    (chain connective (paths.map (nullTest connective) ++ terms)).evaluate record =
      (chain connective terms).evaluate record := by
  induction paths with
  | nil => rfl
  | cons path paths ih =>
      obtain ⟨v, hv, hn⟩ := h path List.mem_cons_self
      rw [List.map_cons, List.cons_append, evaluate_chain_cons, evaluate_nullTest hv, hn,
        Bool.false_bne, Connective.combine_neutral]
      exact ih fun q hq => h q (List.mem_cons_of_mem _ hq)

/-- A null test on a path that is null decides. -/
theorem evaluate_chain_blocked {paths : List Path} (h : Blocked record paths) :
    (chain connective (paths.map (nullTest connective) ++ terms)).evaluate record =
      .ok !connective.neutral := by
  induction paths with
  | nil => exact h.elim
  | cons path paths ih =>
      rw [List.map_cons, List.cons_append, evaluate_chain_cons]
      rcases h with h | ⟨⟨v, hv, hn⟩, h⟩
      · rw [evaluate_nullTest h]
        cases connective <;> rfl
      · rw [evaluate_nullTest hv, hn, Bool.false_bne, Connective.combine_neutral]
        exact ih h

theorem behind_clear_answers (connective : Connective) {paths : List Path}
    (hc : Clear record paths) (h : Answers (term.evaluate record) P) :
    Answers ((connect connective (paths.map (nullTest connective) ++ [term])).evaluate record) P := by
  apply connect_answers
  rwa [evaluate_chain_clear hc, evaluate_chain_singleton]

theorem evaluate_behind_blocked (connective : Connective) {paths : List Path}
    (hb : Blocked record paths) (term : Predicate) :
    (connect connective (paths.map (nullTest connective) ++ [term])).evaluate record =
      .ok !connective.neutral :=
  evaluate_connect_of_ok (evaluate_chain_blocked hb)

/-! ## Elements -/

/-- Tests of elements under a connective, as the quantifiers make them. -/
def testElements : Connective → (Record → Except EvalError Bool) → Path → List Value →
    Except EvalError Bool
  | .and => everyElement
  | .or => someElement

/-- The quantifier that tests elements under a connective. -/
def quantified : Connective → Path → Predicate → Predicate
  | .and => all
  | .or => any

theorem testElements_cons (connective : Connective) (test : Record → Except EvalError Bool)
    (path : Path) (item : Value) (items : List Value) :
    testElements connective test path (item :: items) =
      connective.combine ((path.elementRecord item).bind test)
        (testElements connective test path items) := by
  cases connective with
  | and =>
      show everyElement test path (item :: items) = _
      rw [everyElement]
      cases path.elementRecord item with
      | error e => rfl
      | ok fields =>
          show Except.bind (test fields) _ = Connective.combine .and (test fields) _
          rcases test fields with e | _ | _ <;> rfl
  | or =>
      show someElement test path (item :: items) = _
      rw [someElement]
      cases path.elementRecord item with
      | error e => rfl
      | ok fields =>
          show Except.bind (test fields) _ = Connective.combine .or (test fields) _
          rcases test fields with e | _ | _ <;> rfl

/-- **Elements are tested for the verdict of their results**, those that are no records included. -/
theorem testElements_eq (connective : Connective) (test : Record → Except EvalError Bool)
    (path : Path) (items : List Value) :
    testElements connective test path items =
      connective.verdict (items.map fun item => (path.elementRecord item).bind test) := by
  induction items with
  | nil => cases connective <;> rfl
  | cons item items ih =>
      rw [testElements_cons, ih]
      rfl

variable {path : Path} {inner : Predicate} {records : List Record}

theorem evaluate_quantified_eq (connective : Connective) (path : Path) (inner : Predicate)
    (record : Record) :
    (quantified connective path inner).evaluate record =
      (path.readList record).bind
        (testElements connective (fun element => inner.evaluate element) path) := by
  cases connective <;> rfl

/-- **A quantifier gives the verdict of the elements.** -/
theorem evaluate_quantified (connective : Connective) (inner : Predicate)
    (hread : path.readList record = .ok (records.map .record)) :
    (quantified connective path inner).evaluate record =
      connective.verdict (records.map fun fields => inner.evaluate fields) := by
  rw [evaluate_quantified_eq, hread]
  show testElements connective _ path (records.map .record) = _
  rw [testElements_eq, List.map_map]
  rfl

variable {R : Record → Prop}

theorem quantified_answers (connective : Connective)
    (hread : path.readList record = .ok (records.map .record))
    (h : ∀ fields ∈ records, Answers (inner.evaluate fields) (R fields)) :
    Answers ((quantified connective path inner).evaluate record) (connective.across records R) := by
  rw [evaluate_quantified connective inner hread]
  exact Connective.verdict_answers h

theorem quantified_partly (connective : Connective)
    (hread : path.readList record = .ok (records.map .record))
    (h : ∀ fields ∈ records, Partly (inner.evaluate fields) (R fields)) :
    Partly ((quantified connective path inner).evaluate record) (connective.across records R) := by
  rw [evaluate_quantified connective inner hread]
  exact Connective.verdict_partly h

end Predicate
end RecordQuery
