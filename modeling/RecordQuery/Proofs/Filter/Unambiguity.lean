import RecordQuery.Proofs.Filter.Derivation

/-!
# `Proofs.Filter.Unambiguity` — one derivation for a yield

Operands are told apart by their first terminals and end by themselves; a chain ends where its
separator is missing. So the yields of two derivations are equal, whatever follows them, only if the
derivations are.

## Contents
- `StopsAt`: the terminals do not go on with a sign.
- `Names.yield_injective`, `Test.yield_injective`: the parts without recursion.
- `Disjunction.yield_injective`: the grammar is unambiguous.
-/

namespace RecordQuery.Filter

/-- The list does not go on with a sign of the kind. -/
def StopsAt (kind : TokenKind) (rest : List Terminal) : Prop := rest.head? ≠ some (.sign kind)

@[simp]
theorem stopsAt_nil (kind : TokenKind) : StopsAt kind [] := fun h => by cases h

@[simp]
theorem stopsAt_cons (kind : TokenKind) (terminal : Terminal) (rest : List Terminal) :
    StopsAt kind (terminal :: rest) ↔ terminal ≠ .sign kind := by
  rw [StopsAt, List.head?_cons, ne_eq, Option.some.injEq]

theorem separated_cons (separator : TokenKind) (terminal : Terminal) (terminals : List Terminal) :
    separated separator (terminal :: terminals) =
      .sign separator :: terminal :: separated separator terminals := rfl

theorem separated_injective {separator : TokenKind} {as bs r s : List Terminal}
    (hr : StopsAt separator r) (hs : StopsAt separator s)
    (h : separated separator as ++ r = separated separator bs ++ s) : as = bs ∧ r = s := by
  induction as generalizing bs with
  | nil =>
      cases bs with
      | nil => exact ⟨rfl, h⟩
      | cons b bs =>
          rw [separated_cons] at h
          have h : r = _ := h
          exact absurd (by rw [h]; rfl) hr
  | cons a as ih =>
      cases bs with
      | nil =>
          rw [separated_cons] at h
          have h : _ = s := h
          exact absurd (by rw [← h]; rfl) hs
      | cons b bs =>
          rw [separated_cons, separated_cons] at h
          obtain ⟨hab, h⟩ := List.cons_eq_cons.mp (List.cons_eq_cons.mp h).2
          obtain ⟨rfl, hrest⟩ := ih h
          rw [hab]
          exact ⟨rfl, hrest⟩

theorem Names.yield_injective {a b : Names} {r s : List Terminal} (hr : StopsAt .dot r)
    (hs : StopsAt .dot s) (h : a.yield ++ r = b.yield ++ s) : a = b ∧ r = s := by
  obtain ⟨hfirst, h⟩ := List.cons_eq_cons.mp h
  obtain ⟨hfurther, hrest⟩ := separated_injective hr hs h
  rw [List.map_inj_right fun x y hxy => by cases hxy; rfl] at hfurther
  cases a
  cases b
  cases hfirst
  cases hfurther
  exact ⟨rfl, hrest⟩

theorem Constant.terminal_injective {a b : Constant} (h : a.terminal = b.terminal) : a = b := by
  cases a <;> cases b <;> cases h <;> rfl

theorem Constant.terminal_ne (a : Constant) :
    a.terminal ≠ .sign .colon ∧ a.terminal ≠ .sign .leftBracket ∧
      a.terminal ≠ .sign .rightBracket := by
  cases a <;> simp [Constant.terminal]

theorem itemsYield_injective {as bs : List Constant} {r s : List Terminal}
    (h : itemsYield as ++ .sign .rightBracket :: r = itemsYield bs ++ .sign .rightBracket :: s) :
    as = bs ∧ r = s := by
  cases as with
  | nil =>
      cases bs with
      | nil => exact ⟨rfl, (List.cons_eq_cons.mp h).2⟩
      | cons b bs => exact absurd (List.cons_eq_cons.mp h).1.symm b.terminal_ne.2.2
  | cons a as =>
      cases bs with
      | nil => exact absurd (List.cons_eq_cons.mp h).1 a.terminal_ne.2.2
      | cons b bs =>
          obtain ⟨hfirst, h⟩ := List.cons_eq_cons.mp h
          have hends (R : List Terminal) : StopsAt .comma (.sign .rightBracket :: R) := by simp
          obtain ⟨hfurther, hrest⟩ := separated_injective (hends r) (hends s) h
          rw [List.map_inj_right fun x y => Constant.terminal_injective] at hfurther
          rw [Constant.terminal_injective hfirst, hfurther]
          exact ⟨rfl, (List.cons_eq_cons.mp hrest).2⟩

/-- No colon is taken for a modifier. -/
theorem modifierYield_injective {name : String} {a b : Bool} {t u : Terminal} {r s : List Terminal}
    (ht : t ≠ .sign .colon) (hu : u ≠ .sign .colon)
    (h : modifierYield name a ++ t :: r = modifierYield name b ++ u :: s) :
    a = b ∧ t = u ∧ r = s := by
  cases a with
  | false =>
      cases b with
      | false => exact ⟨rfl, List.cons_eq_cons.mp h⟩
      | true => exact absurd (List.cons_eq_cons.mp h).1 ht
  | true =>
      cases b with
      | false => exact absurd (List.cons_eq_cons.mp h).1.symm hu
      | true => exact ⟨rfl, List.cons_eq_cons.mp (List.append_cancel_left h)⟩

theorem Test.yield_injective {a b : Test} {r s : List Terminal}
    (h : a.yield ++ r = b.yield ++ s) : a = b ∧ r = s := by
  cases a with
  | scalar op single ignoreCase right =>
      cases b with
      | scalar op' single' ignoreCase' right' =>
          simp only [Test.yield, List.cons_append, List.append_assoc, List.nil_append] at h
          obtain ⟨hop, h⟩ := List.cons_eq_cons.mp h
          obtain ⟨rfl, hright, hrest⟩ :=
            modifierYield_injective right.terminal_ne.1 right'.terminal_ne.1 h
          cases hop
          rw [Constant.terminal_injective hright]
          exact ⟨rfl, hrest⟩
      | list ignoreCase' items' =>
          simp only [Test.yield, List.cons_append] at h
          cases (List.cons_eq_cons.mp h).1
          exact absurd rfl single
  | list ignoreCase items =>
      cases b with
      | scalar op' single' ignoreCase' right' =>
          simp only [Test.yield, List.cons_append] at h
          cases (List.cons_eq_cons.mp h).1
          exact absurd rfl single'
      | list ignoreCase' items' =>
          simp only [Test.yield, List.cons_append, List.append_assoc, List.nil_append] at h
          obtain ⟨rfl, -, h⟩ :=
            modifierYield_injective (by simp) (by simp) (List.cons_eq_cons.mp h).2
          obtain ⟨rfl, hrest⟩ := itemsYield_injective h
          exact ⟨rfl, hrest⟩

theorem Test.yield_cons (test : Test) :
    ∃ op terminals, test.yield = .sign (.operator op) :: terminals := by
  cases test with
  | scalar op single ignoreCase right => exact ⟨op, _, rfl⟩
  | list ignoreCase items => exact ⟨.oneOf, _, rfl⟩

/-- What follows a path is no dot. -/
theorem Suffix.stopsAt_dot (suffix : Suffix) (rest : List Terminal) :
    StopsAt .dot (suffix.yield ++ rest) := by
  cases suffix with
  | nonempty => simp [Suffix.yield]
  | quantified quantifier body => simp [Suffix.yield]
  | test counted test =>
      obtain ⟨op, terminals, htest⟩ := test.yield_cons
      cases counted <;> simp [Suffix.yield, modifierYield, htest]

/-- A quantifier follows a path in no other way than as one. -/
theorem Suffix.test_yield_ne (counted : Bool) (test : Test) (quantifier : Quantifier)
    (r s : List Terminal) :
    (Suffix.test counted test).yield ++ r ≠ .sign .colon :: .sign (.quantifier quantifier) :: s := by
  obtain ⟨op, terminals, htest⟩ := test.yield_cons
  cases counted <;> simp [Suffix.yield, modifierYield, htest]

/-- The first terminal of an operand. -/
theorem Unary.yield_cons (operand : Unary) : ∃ terminal terminals,
    operand.yield = terminal :: terminals ∧ (terminal = .sign .not ∨
      terminal = .sign .leftParen ∨ ∃ text, terminal = .name text) := by
  cases operand with
  | not inner => exact ⟨_, _, rfl, Or.inl rfl⟩
  | group inner => exact ⟨_, _, rfl, Or.inr (Or.inl rfl)⟩
  | property names suffix => exact ⟨_, _, rfl, Or.inr (Or.inr ⟨_, rfl⟩)⟩

/-- A disjunction starts with an operand. -/
theorem Disjunction.yield_eq_unary (disjunction : Disjunction) :
    ∃ (operand : Unary) (rest : List Terminal), disjunction.yield = operand.yield ++ rest := by
  have hfront (first : Conjunction) :
      ∃ (operand : Unary) (rest : List Terminal), first.yield = operand.yield ++ rest := by
    cases first with
    | one first => exact ⟨first, [], (List.append_nil _).symm⟩
    | more first rest => exact ⟨first, _, rfl⟩
  cases disjunction with
  | one first => exact hfront first
  | more first rest =>
      obtain ⟨operand, terminals, hfirst⟩ := hfront first
      exact ⟨operand, _, by rw [Disjunction.yield, hfirst, List.append_assoc]⟩

/-- A body is no closing parenthesis. -/
theorem Disjunction.stopsAt_rightParen (disjunction : Disjunction) (rest : List Terminal) :
    StopsAt .rightParen (disjunction.yield ++ rest) := by
  obtain ⟨operand, terminals, hyield⟩ := disjunction.yield_eq_unary
  obtain ⟨terminal, _, hoperand, hterminal⟩ := operand.yield_cons
  rw [hyield, hoperand]
  rcases hterminal with rfl | rfl | ⟨text, rfl⟩ <;> simp

mutual

theorem Disjunction.yield_injective (a b : Disjunction) {r s : List Terminal}
    (hr : StopsAt .and r ∧ StopsAt .or r) (hs : StopsAt .and s ∧ StopsAt .or s)
    (h : a.yield ++ r = b.yield ++ s) : a = b ∧ r = s := by
  have hor (rest : List Terminal) : StopsAt .and (.sign .or :: rest) := by simp
  cases a with
  | one first =>
      cases b with
      | one first' =>
          obtain ⟨hfirst, hrest⟩ := first.yield_injective first' hr.1 hs.1 h
          exact ⟨congrArg _ hfirst, hrest⟩
      | more first' rest' =>
          simp only [Disjunction.yield, List.append_assoc, List.cons_append] at h
          obtain ⟨-, hrest⟩ := first.yield_injective first' hr.1 (hor _) h
          exact absurd (by rw [hrest]; rfl) hr.2
  | more first rest =>
      cases b with
      | one first' =>
          simp only [Disjunction.yield, List.append_assoc, List.cons_append] at h
          obtain ⟨-, hrest⟩ := first.yield_injective first' (hor _) hs.1 h
          exact absurd (by rw [← hrest]; rfl) hs.2
      | more first' rest' =>
          simp only [Disjunction.yield, List.append_assoc, List.cons_append] at h
          obtain ⟨hfirst, h⟩ := first.yield_injective first' (hor _) (hor _) h
          obtain ⟨hrest, hr⟩ := rest.yield_injective rest' hr hs (List.cons_eq_cons.mp h).2
          rw [hfirst, hrest]
          exact ⟨rfl, hr⟩

theorem Conjunction.yield_injective (a b : Conjunction) {r s : List Terminal}
    (hr : StopsAt .and r) (hs : StopsAt .and s) (h : a.yield ++ r = b.yield ++ s) :
    a = b ∧ r = s := by
  cases a with
  | one first =>
      cases b with
      | one first' =>
          obtain ⟨hfirst, hrest⟩ := first.yield_injective first' h
          exact ⟨congrArg _ hfirst, hrest⟩
      | more first' rest' =>
          simp only [Conjunction.yield, List.append_assoc, List.cons_append] at h
          obtain ⟨-, hrest⟩ := first.yield_injective first' h
          exact absurd (by rw [hrest]; rfl) hr
  | more first rest =>
      cases b with
      | one first' =>
          simp only [Conjunction.yield, List.append_assoc, List.cons_append] at h
          obtain ⟨-, hrest⟩ := first.yield_injective first' h
          exact absurd (by rw [← hrest]; rfl) hs
      | more first' rest' =>
          simp only [Conjunction.yield, List.append_assoc, List.cons_append] at h
          obtain ⟨hfirst, h⟩ := first.yield_injective first' h
          obtain ⟨hrest, hr⟩ := rest.yield_injective rest' hr hs (List.cons_eq_cons.mp h).2
          rw [hfirst, hrest]
          exact ⟨rfl, hr⟩

theorem Unary.yield_injective (a b : Unary) {r s : List Terminal}
    (h : a.yield ++ r = b.yield ++ s) : a = b ∧ r = s := by
  have hclose (rest : List Terminal) : StopsAt .and (.sign .rightParen :: rest) ∧
      StopsAt .or (.sign .rightParen :: rest) := by simp
  cases a with
  | not inner =>
      cases b with
      | not inner' =>
          obtain ⟨hinner, hrest⟩ := inner.yield_injective inner' (List.cons_eq_cons.mp h).2
          exact ⟨congrArg _ hinner, hrest⟩
      | group inner' => cases (List.cons_eq_cons.mp h).1
      | property names' suffix' => cases (List.cons_eq_cons.mp h).1
  | group inner =>
      cases b with
      | not inner' => cases (List.cons_eq_cons.mp h).1
      | group inner' =>
          simp only [Unary.yield, List.append_assoc, List.cons_append, List.nil_append] at h
          obtain ⟨hinner, h⟩ := inner.yield_injective inner' (hclose _) (hclose _)
            (List.cons_eq_cons.mp h).2
          exact ⟨congrArg _ hinner, (List.cons_eq_cons.mp h).2⟩
      | property names' suffix' => cases (List.cons_eq_cons.mp h).1
  | property names suffix =>
      cases b with
      | not inner' => cases (List.cons_eq_cons.mp h).1
      | group inner' => cases (List.cons_eq_cons.mp h).1
      | property names' suffix' =>
          simp only [Unary.yield, List.append_assoc] at h
          obtain ⟨hnames, h⟩ :=
            Names.yield_injective (suffix.stopsAt_dot r) (suffix'.stopsAt_dot s) h
          obtain ⟨hsuffix, hrest⟩ := suffix.yield_injective suffix' h
          rw [hnames, hsuffix]
          exact ⟨rfl, hrest⟩

theorem Suffix.yield_injective (a b : Suffix) {r s : List Terminal}
    (h : a.yield ++ r = b.yield ++ s) : a = b ∧ r = s := by
  have hclose (rest : List Terminal) : StopsAt .and (.sign .rightParen :: rest) ∧
      StopsAt .or (.sign .rightParen :: rest) := by simp
  cases a with
  | nonempty =>
      cases b with
      | nonempty => exact ⟨rfl, List.append_cancel_left h⟩
      | quantified quantifier' body' =>
          simp only [Suffix.yield, List.append_assoc, List.cons_append, List.nil_append] at h
          have h := (List.cons_eq_cons.mp (List.cons_eq_cons.mp (List.cons_eq_cons.mp h).2).2).2
          exact absurd (by rw [← h]; rfl) (body'.stopsAt_rightParen _)
      | test counted' test' => exact absurd h.symm (Suffix.test_yield_ne _ _ _ _ _)
  | quantified quantifier body =>
      cases b with
      | nonempty =>
          simp only [Suffix.yield, List.append_assoc, List.cons_append, List.nil_append] at h
          have h := (List.cons_eq_cons.mp (List.cons_eq_cons.mp (List.cons_eq_cons.mp h).2).2).2
          exact absurd (by rw [h]; rfl) (body.stopsAt_rightParen _)
      | quantified quantifier' body' =>
          simp only [Suffix.yield, List.append_assoc, List.cons_append, List.nil_append] at h
          obtain ⟨hquantifier, hparen⟩ := List.cons_eq_cons.mp (List.cons_eq_cons.mp h).2
          obtain ⟨hbody, hrest⟩ := body.yield_injective body' (hclose _) (hclose _)
            (List.cons_eq_cons.mp hparen).2
          cases hquantifier
          rw [hbody]
          exact ⟨rfl, (List.cons_eq_cons.mp hrest).2⟩
      | test counted' test' => exact absurd h.symm (Suffix.test_yield_ne _ _ _ _ _)
  | test counted test =>
      cases b with
      | nonempty => exact absurd h (Suffix.test_yield_ne _ _ _ _ _)
      | quantified quantifier' body' => exact absurd h (Suffix.test_yield_ne _ _ _ _ _)
      | test counted' test' =>
          obtain ⟨op, terminals, htest⟩ := test.yield_cons
          obtain ⟨op', terminals', htest'⟩ := test'.yield_cons
          simp only [Suffix.yield, htest, htest', List.append_assoc, List.cons_append] at h
          obtain ⟨rfl, hop, h⟩ := modifierYield_injective (by simp) (by simp) h
          have htests : test.yield ++ r = test'.yield ++ s := by
            rw [htest, htest', List.cons_append, List.cons_append, hop, h]
          obtain ⟨rfl, hrest⟩ := Test.yield_injective htests
          exact ⟨rfl, hrest⟩

end

end RecordQuery.Filter
