import RecordQuery.Proofs.Predicate.Connectives

/-!
# `Proofs.Predicate.NormalForm` — predicates without redundant layers

A predicate is in normal form if each of its chains has two terms at least, none of them a constant
or a chain of the same connective, if nothing is negated twice and no constant is negated, and if
every list of values has a value. The builders give normal forms from normal forms, and on normal
forms a negation can be taken back and a group of terms can be dissolved.

## Contents
- `Predicate.IsNormal`: predicates in normal form.
- `share?_of_fits`, `share?_connect`: what terms that fit, and built connectives, add to a chain.
- `IsNormal.connect`, `IsNormal.negate`: the builders keep normal forms.
- `IsNormal.negate_negate`: **negating twice gives the predicate back.**
- `connect_group`: **a group that was built from normal forms can be dissolved.**
-/

namespace RecordQuery

open RecordQuery.Filter (Connective)

namespace Predicate

/-! ## Normal form -/

/-- The predicate may be a term of the connective: it is no constant and no chain of that
connective. -/
def FitsUnder (connective : Connective) : Predicate → Prop
  | .const _ => False
  | .and _ => connective ≠ .and
  | .or _ => connective ≠ .or
  | _ => True

/-- The predicate may be negated by a layer of its own: it is no constant and no negation. -/
def FitsUnderNot : Predicate → Prop
  | .const _ | .not _ => False
  | _ => True

/-- The predicate is in normal form. A constant can only be the whole of it, or the whole of what a
quantifier asks of the elements. -/
inductive IsNormal : Predicate → Prop where
  | const (value : Bool) : IsNormal (.const value)
  | and {terms : List Predicate} (several : 2 ≤ terms.length)
      (fit : ∀ term ∈ terms, term.FitsUnder .and) (normal : ∀ term ∈ terms, IsNormal term) :
      IsNormal (.and terms)
  | or {terms : List Predicate} (several : 2 ≤ terms.length)
      (fit : ∀ term ∈ terms, term.FitsUnder .or) (normal : ∀ term ∈ terms, IsNormal term) :
      IsNormal (.or terms)
  | not {inner : Predicate} (fit : inner.FitsUnderNot) (normal : IsNormal inner) :
      IsNormal (.not inner)
  | isNull (path : Path) : IsNormal (.isNull path)
  | compare (operand : Operand) (op : Operator) (bound : Bound) (ignoreCase : Bool) :
      IsNormal (.compare operand op bound ignoreCase)
  | oneOf (operand : Operand) {bounds : List Bound} (some : bounds ≠ []) (ignoreCase : Bool) :
      IsNormal (.oneOf operand bounds ignoreCase)
  | nonempty (collection : Path) : IsNormal (.nonempty collection)
  | any (collection : Path) {inner : Predicate} (normal : IsNormal inner) :
      IsNormal (.any collection inner)
  | all (collection : Path) {inner : Predicate} (normal : IsNormal inner) :
      IsNormal (.all collection inner)

/-! ## Negation -/

theorem negate_of_fits {p : Predicate} (h : p.FitsUnderNot) : p.negate = .not p := by
  cases p with
  | const value => exact h.elim
  | not inner => exact h.elim
  | _ => rfl

theorem IsNormal.negate {p : Predicate} (h : p.IsNormal) : p.negate.IsNormal := by
  cases h with
  | const value => exact .const !value
  | not fit normal => exact normal
  | and several fit normal => exact .not trivial (.and several fit normal)
  | or several fit normal => exact .not trivial (.or several fit normal)
  | isNull path => exact .not trivial (.isNull path)
  | compare operand op bound ignoreCase =>
      exact .not trivial (.compare operand op bound ignoreCase)
  | oneOf operand some ignoreCase => exact .not trivial (.oneOf operand some ignoreCase)
  | nonempty collection => exact .not trivial (.nonempty collection)
  | any collection normal => exact .not trivial (.any collection normal)
  | all collection normal => exact .not trivial (.all collection normal)

/-- **Negating a normal form twice gives it back.** -/
theorem IsNormal.negate_negate {p : Predicate} (h : p.IsNormal) : p.negate.negate = p := by
  cases h with
  | const value => simp only [Predicate.negate, Bool.not_not]
  | not fit normal => exact negate_of_fits fit
  | _ => rfl

theorem isNormal_isNotNull (path : Path) : (isNotNull path).IsNormal :=
  (IsNormal.isNull path).negate

/-! ## Normal forms under a connective -/

section Connect

variable {connective : Connective} {term : Predicate} {terms flat : List Predicate}

/-- The predicate is a normal form that may be a term of the connective. -/
def IsTermOf (connective : Connective) (term : Predicate) : Prop :=
  term.FitsUnder connective ∧ term.IsNormal

theorem share?_of_fits (h : term.FitsUnder connective) :
    share? connective term = some [term] := by
  cases term with
  | const value => exact h.elim
  | and terms => exact if_neg h
  | or terms => exact if_neg h
  | _ => rfl

theorem share?_chain (connective : Connective) (terms : List Predicate) :
    share? connective (chain connective terms) = some terms := by
  cases connective <;> rfl

theorem IsNormal.chain (several : 2 ≤ terms.length)
    (h : ∀ term ∈ terms, term.IsTermOf connective) : (chain connective terms).IsNormal := by
  cases connective with
  | and => exact .and several (fun term ht => (h term ht).1) fun term ht => (h term ht).2
  | or => exact .or several (fun term ht => (h term ht).1) fun term ht => (h term ht).2

/-- What a normal form adds to a chain are terms of it. -/
theorem IsNormal.isTermOf_share {front : List Predicate} (h : term.IsNormal)
    (hshare : share? connective term = some front) :
    ∀ part ∈ front, part.IsTermOf connective := by
  by_cases hfits : term.FitsUnder connective
  · rw [share?_of_fits hfits] at hshare
    cases hshare
    exact List.forall_mem_singleton.mpr ⟨hfits, h⟩
  · -- a constant, which adds nothing, or a chain of the connective
    cases h with
    | const value =>
        rw [share?] at hshare
        split at hshare <;> cases hshare
        exact fun part hpart => absurd hpart List.not_mem_nil
    | and several fit normal =>
        obtain rfl : connective = .and := Decidable.not_not.mp hfits
        cases hshare
        exact fun part hpart => ⟨fit part hpart, normal part hpart⟩
    | or several fit normal =>
        obtain rfl : connective = .or := Decidable.not_not.mp hfits
        cases hshare
        exact fun part hpart => ⟨fit part hpart, normal part hpart⟩
    | _ => exact absurd trivial hfits

theorem isTermOf_collect (h : ∀ term ∈ terms, term.IsNormal)
    (hflat : collect? connective terms = some flat) :
    ∀ term ∈ flat, term.IsTermOf connective :=
  forall_mem_collect hflat fun term hterm _ hshare => (h term hterm).isTermOf_share hshare

/-- **A connective built from normal forms is in normal form.** -/
theorem IsNormal.connect (connective : Connective) (h : ∀ term ∈ terms, term.IsNormal) :
    (connect connective terms).IsNormal := by
  rw [connect_eq]
  cases hflat : collect? connective terms with
  | none => exact .const _
  | some flat =>
      have hflat := isTermOf_collect h hflat
      match flat with
      | [] => exact .const _
      | [only] => exact (hflat only List.mem_cons_self).2
      | first :: second :: rest => exact .chain (Nat.le_add_left 2 rest.length) hflat

/-- Tests of paths, under a connective. -/
theorem isNormal_connect_map (connective : Connective) {test : Path → Predicate}
    (htest : ∀ path, (test path).IsNormal) (paths : List Path) :
    (connect connective (paths.map test)).IsNormal :=
  .connect connective (List.forall_mem_map.mpr fun path _ => htest path)

/-- Tests of paths in front of another predicate, under a connective. -/
theorem IsNormal.connect_behind (connective : Connective) {test : Path → Predicate}
    (htest : ∀ path, (test path).IsNormal) (paths : List Path) (h : term.IsNormal) :
    (Predicate.connect connective (paths.map test ++ [term])).IsNormal := by
  refine .connect connective (List.forall_mem_append.mpr ⟨?_, List.forall_mem_singleton.mpr h⟩)
  exact List.forall_mem_map.mpr fun path _ => htest path

/-- A built connective adds to a chain of the same connective what its terms add to it. -/
theorem share?_connect (h : ∀ term ∈ terms, term.IsNormal) :
    share? connective (connect connective terms) = collect? connective terms := by
  rw [connect_eq]
  cases hflat : collect? connective terms with
  | none => cases connective <;> rfl
  | some flat =>
      match flat with
      | [] => exact if_pos rfl
      | [only] =>
          -- a single term stands for itself, and it is no chain of the connective
          have honly := isTermOf_collect h hflat only List.mem_cons_self
          exact share?_of_fits honly.1
      | first :: second :: rest => exact share?_chain connective _

theorem connect_singleton (connective : Connective) {p : Predicate} (h : p.IsNormal) :
    connect connective [p] = p := by
  rw [connect_eq, collect?_singleton]
  by_cases hfits : p.FitsUnder connective
  · rw [share?_of_fits hfits]
    rfl
  · cases h with
    | const value => cases connective <;> cases value <;> rfl
    | @and terms several fit normal =>
        obtain rfl : connective = .and := Decidable.not_not.mp hfits
        match terms, several with
        | _ :: _ :: _, _ => rfl
    | @or terms several fit normal =>
        obtain rfl : connective = .or := Decidable.not_not.mp hfits
        match terms, several with
        | _ :: _ :: _, _ => rfl
    | _ => exact absurd trivial hfits

/-- **A group built from normal forms can be dissolved**: its terms may as well stand in the chain
around it. -/
theorem connect_group {inner : List Predicate} (h : ∀ term ∈ inner, term.IsNormal)
    (before after : List Predicate) :
    connect connective (before ++ connect connective inner :: after) =
      connect connective (before ++ inner ++ after) := by
  have hgroup : collect? connective (before ++ [connect connective inner] ++ after) =
      collect? connective (before ++ inner ++ after) := by
    simp only [collect?_append, collect?_singleton, share?_connect h]
  rw [connect_eq connective (before ++ inner ++ after), ← hgroup, ← connect_eq, List.append_assoc,
    List.singleton_append]

end Connect

end Predicate
end RecordQuery
