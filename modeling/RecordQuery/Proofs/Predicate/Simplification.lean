import RecordQuery.Proofs.Predicate.Connectives
import RecordQuery.Query.MemoryQuery

/-!
# `Proofs.Predicate.Simplification` — simplified connectives and plain ones

A query tests its filters one after the other, while a provider is given one predicate for all of
them, which was simplified. Both test from left to right, and simplifying keeps the order of the
terms. Only a constant that decides the whole is found early: it hides the error of a term before
it.

## Contents
- `Simplifies`: how far a simplified predicate may differ from a plain one.
- `simplifies_connect`: a built connective simplifies its terms.
- `simplification_agrees`: **the same for both connectives, and for the filters of a query.**
-/

namespace RecordQuery

open RecordQuery.Filter (Connective)

namespace Predicate

/-! ## A built connective -/

/-- How a simplified predicate goes with the plain one over the terms, where a constant decides the
whole: it has the answer of the plain one, an error of it is one of the plain one, and they differ
only if a term before a deciding constant cannot be tested. -/
structure Simplifies (simplified plain : Predicate) (deciding : Bool) (terms : List Predicate)
    (record : Record) : Prop where
  answer : ∀ b, plain.evaluate record = .ok b → simplified.evaluate record = .ok b
  error : ∀ e, simplified.evaluate record = .error e → plain.evaluate record = .error e
  differ : simplified.evaluate record ≠ plain.evaluate record →
    simplified.evaluate record = .ok deciding ∧
      ∃ before after, terms = before ++ .const deciding :: after ∧
        ∃ term ∈ before, ∃ e, term.evaluate record = .error e

theorem simplifies_connect (connective : Connective) (terms : List Predicate) (record : Record) :
    Simplifies (connect connective terms) (chain connective terms) (!connective.neutral) terms
      record := by
  rcases evaluate_connect connective terms record with
    hsame | ⟨hdecided, e, herror, before, after, hterms, term, hterm, hfails⟩
  · exact ⟨fun b hb => hsame.trans hb, fun e he => hsame.symm.trans he, fun hne => absurd hsame hne⟩
  · refine ⟨?_, ?_, fun _ => ⟨hdecided, before, after, hterms, term, hterm, e, hfails⟩⟩
    · intro b hb
      cases herror.symm.trans hb
    · intro e' he
      cases hdecided.symm.trans he

end Predicate

namespace MemoryQuery

/-- A query tests its filters like a plain conjunction. -/
theorem meetsAll_eq (predicates : List Predicate) (record : Record) :
    meetsAll predicates record = (Predicate.and predicates).evaluate record := by
  show _ = Predicate.evaluateAll predicates record
  induction predicates with
  | nil => rfl
  | cons p ps ih => rw [meetsAll, Predicate.evaluateAll, ih]

end MemoryQuery

/-- **Simplified connectives agree with plain ones.** Whatever the terms are, the builders give the
answer of the plain connective, and an error only if it is that of the plain connective; they answer
where it has an error only if a constant that decides stands behind the term that cannot be tested.
So an item that a query can test meets its filters if and only if it meets the one predicate made of
them. -/
theorem simplification_agrees :
    (∀ (terms : List Predicate) (record : Record),
      Predicate.Simplifies (.conjunction terms) (.and terms) false terms record) ∧
    (∀ (terms : List Predicate) (record : Record),
      Predicate.Simplifies (.disjunction terms) (.or terms) true terms record) ∧
    ∀ {α : Type} (query : MemoryQuery α) (item : α) (b : Bool), query.meets item = .ok b →
      query.predicate.evaluate (query.view item) = .ok b := by
  refine ⟨Predicate.simplifies_connect .and, Predicate.simplifies_connect .or, ?_⟩
  intro α query item b hmeets
  have hplain : (Predicate.and query.predicates).evaluate (query.view item) = .ok b := by
    rw [← MemoryQuery.meetsAll_eq]
    exact hmeets
  exact (Predicate.simplifies_connect .and query.predicates (query.view item)).answer b hplain

/-- The city of a home that is not there, before a constant that decides. -/
def cityBeforeFalse : List Predicate := [.isNull ["home", "city"], .const false]

/-- The people without a home who have friends. -/
def befriended : MemoryQuery Record :=
  ((MemoryQuery.ofItems id [wanderer]).filter (.isNull ["home"])).filter (.nonempty ["friends"])

theorem simplification_agrees_befriended :
    (Predicate.and cityBeforeFalse).evaluate wanderer = .error (.nullReference "home") ∧
    (Predicate.conjunction cityBeforeFalse).evaluate wanderer = .ok false ∧
    Predicate.Simplifies (.conjunction cityBeforeFalse) (.and cityBeforeFalse) false cityBeforeFalse
      wanderer ∧
    befriended.meets wanderer = .ok true ∧
    befriended.predicate.evaluate wanderer = .ok true := by
  have hmeets : befriended.meets wanderer = .ok true := by rfl
  refine ⟨by rfl, by rfl, simplification_agrees.1 cityBeforeFalse wanderer, hmeets, ?_⟩
  exact simplification_agrees.2.2 befriended wanderer true hmeets

end RecordQuery
