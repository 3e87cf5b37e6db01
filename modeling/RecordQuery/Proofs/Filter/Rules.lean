import RecordQuery.Proofs.Filter.Unambiguity

/-!
# `Proofs.Filter.Rules` — the rules below the connectives

For each rule of the parser two lemmas. `…_sound`: what the rule took from the tokens is the yield
of a derivation of what it read. `…_complete`: where the tokens start with the yield of a derivation
that ends there, the rule reads that derivation and leaves what follows.

## Contents
- `terminals`: tokens as the grammar sees them.
- `Reads`: what a rule reads and what it leaves.
- `Literal.ofToken?_eq_some`: the literals of single tokens are the constants.
- `furtherSegments`, `listItems`, `listLiteral`, `scalarLiteral`, `caseFlag`: leaves.
- `comparison_sound`, `comparison_complete`: tests.
-/

namespace RecordQuery.Filter

/-! ## Tokens as terminals -/

/-- What the grammar sees of tokens. -/
def terminals (tokens : List Token) : List Terminal := tokens.map Token.terminal

theorem terminals_append (tokens others : List Token) :
    terminals (tokens ++ others) = terminals tokens ++ terminals others := List.map_append

theorem kind_of_terminal {token : Token} {kind : TokenKind} (h : token.terminal = .sign kind) :
    token.kind = kind := by
  obtain ⟨kind', text, position⟩ := token
  cases kind' <;> cases h <;> rfl

/-- Tokens that start with a sign. -/
theorem tokens_of_sign {tokens : List Token} {kind : TokenKind} {R : List Terminal}
    (h : terminals tokens = .sign kind :: R) :
    ∃ text position rest, tokens = ⟨kind, text, position⟩ :: rest ∧ terminals rest = R := by
  obtain ⟨⟨kind', text, position⟩, rest, rfl, htoken, hrest⟩ := List.map_eq_cons_iff.mp h
  obtain rfl := kind_of_terminal htoken
  exact ⟨text, position, rest, rfl, hrest⟩

/-- Tokens that start with a name. -/
theorem tokens_of_name {tokens : List Token} {name : String} {R : List Terminal}
    (h : terminals tokens = .name name :: R) :
    ∃ position rest, tokens = ⟨.identifier, name, position⟩ :: rest ∧ terminals rest = R := by
  obtain ⟨⟨kind, text, position⟩, rest, rfl, htoken, hrest⟩ := List.map_eq_cons_iff.mp h
  cases kind <;> cases htoken
  exact ⟨position, rest, rfl, hrest⟩

/-- Terminals that stop at a kind are not those of tokens that start with it. -/
theorem StopsAt.terminals_ne {kind : TokenKind} {R : List Terminal} {token : Token}
    {rest : List Token} (hR : StopsAt kind R) (htoken : token.terminal = .sign kind) :
    terminals (token :: rest) ≠ R := by
  rintro rfl
  exact hR (congrArg some htoken)

/-- **The literals of single tokens are the constants.** -/
theorem Literal.ofToken?_eq_some {token : Token} {literal : Literal} :
    ofToken? token = some literal ↔
      ∃ constant : Constant, token.terminal = constant.terminal ∧ constant.literal = literal := by
  obtain ⟨kind, text, position⟩ := token
  constructor
  · intro h
    cases kind <;> cases h
    · exact ⟨.boolean _, rfl, rfl⟩
    · exact ⟨.null, rfl, rfl⟩
    · exact ⟨.number text, rfl, rfl⟩
    · exact ⟨.string text, rfl, rfl⟩
  · rintro ⟨constant, hterminal, rfl⟩
    cases constant <;> cases kind <;> cases hterminal <;> rfl

theorem ok_of_bind {ε α β : Type} {x : Except ε α} {f : α → Except ε β} {b : β}
    (h : x >>= f = .ok b) : ∃ a, x = .ok a ∧ f a = .ok b := by
  cases x with
  | error e => cases h
  | ok a => exact ⟨a, rfl, h⟩

/-- Where it stands, the rule reads the value and leaves tokens with these terminals. -/
def Reads {α : Type} (rule : Rule α) (tokens : List Token) (a : α) (R : List Terminal) : Prop :=
  ∃ rest, rule tokens = .ok (a, rest) ∧ terminals rest = R

section Rules

variable {stop : Except LexError Token} {tokens rest : List Token} {R : List Terminal}

theorem reject_ne_ok {α : Type} {cause : SyntaxCause} {a : α} :
    ¬reject stop cause tokens = .ok a := by
  unfold reject
  split
  · nofun
  · split <;> nofun

theorem expect_ok {kind : TokenKind} {cause : SyntaxCause}
    (h : expect stop kind cause tokens = .ok rest) :
    ∃ text position, tokens = ⟨kind, text, position⟩ :: rest := by
  unfold expect at h
  split at h
  · rename_i token tokens
    split at h
    · rename_i hkind
      cases h
      exact ⟨token.text, token.position, by rw [← hkind]⟩
    · exact absurd h reject_ne_ok
  · exact absurd h reject_ne_ok

/-! ## Paths -/

theorem furtherSegments_sound {names : Path}
    (h : furtherSegments stop tokens = .ok (names, rest)) :
    terminals tokens = separated .dot (names.map .name) ++ terminals rest := by
  fun_induction furtherSegments stop tokens generalizing names rest with
  | case1 text position name position' tokens ih =>
      obtain ⟨⟨further, rest'⟩, hfurther, h⟩ := ok_of_bind h
      cases h
      exact congrArg (fun R => Terminal.sign .dot :: .name name :: R) (ih hfurther)
  | case2 => exact absurd h reject_ne_ok
  | case3 =>
      cases h
      rfl

theorem furtherSegments_complete (stop : Except LexError Token) {names : Path} (hR : StopsAt .dot R)
    (h : terminals tokens = separated .dot (names.map .name) ++ R) :
    Reads (furtherSegments stop) tokens names R := by
  induction names generalizing tokens with
  | nil =>
      refine ⟨tokens, ?_, h⟩
      unfold furtherSegments
      split
      · exact absurd h (hR.terminals_ne rfl)
      · exact absurd h (hR.terminals_ne rfl)
      · rfl
  | cons name names ih =>
      rw [List.map_cons, separated_cons, List.cons_append, List.cons_append] at h
      obtain ⟨text, position, tail, rfl, htail⟩ := tokens_of_sign h
      obtain ⟨position', tail', rfl, htail'⟩ := tokens_of_name htail
      obtain ⟨rest, hread, hrest⟩ := ih htail'
      exact ⟨rest, by rw [furtherSegments, hread]; rfl, hrest⟩

/-! ## Literals -/

theorem itemsYield_cons (item : Constant) {items : List Constant} (hne : items ≠ []) :
    itemsYield (item :: items) = item.terminal :: .sign .comma :: itemsYield items := by
  cases items with
  | nil => exact absurd rfl hne
  | cons next items => rfl

theorem listItems_sound {opened : Nat} {literals : List Literal}
    (h : listItems stop opened tokens = .ok (literals, rest)) :
    ∃ items, items ≠ [] ∧ literals = items.map Constant.literal ∧
      terminals tokens = itemsYield items ++ .sign .rightBracket :: terminals rest := by
  fun_induction listItems stop opened tokens generalizing literals rest with
  | case1 => exact absurd h reject_ne_ok
  | case2 => exact absurd h reject_ne_ok
  | case3 => exact absurd h reject_ne_ok
  | case4 token literal hliteral =>
      obtain ⟨item, hterminal, rfl⟩ := Literal.ofToken?_eq_some.mp hliteral
      cases h
      exact ⟨[item], List.cons_ne_nil _ _, rfl, congrArg (· :: _) hterminal⟩
  | case5 token literal hliteral text position rest ih =>
      obtain ⟨item, hterminal, rfl⟩ := Literal.ofToken?_eq_some.mp hliteral
      obtain ⟨⟨literals', rest'⟩, hrest, h⟩ := ok_of_bind h
      cases h
      obtain ⟨items, hne, rfl, hitems⟩ := ih hrest
      refine ⟨item :: items, List.cons_ne_nil _ _, rfl, ?_⟩
      rw [itemsYield_cons item hne, List.cons_append, List.cons_append, ← hitems, ← hterminal]
      rfl
  | case6 => exact absurd h reject_ne_ok

theorem listItems_complete (stop : Except LexError Token) (opened : Nat) {items : List Constant}
    (hne : items ≠ [])
    (h : terminals tokens = itemsYield items ++ .sign .rightBracket :: R) :
    Reads (listItems stop opened) tokens (items.map Constant.literal) R := by
  induction items generalizing tokens with
  | nil => exact absurd rfl hne
  | cons item items ih =>
      obtain ⟨token, tail, rfl, hterminal, htail⟩ := List.map_eq_cons_iff.mp h
      have hliteral := Literal.ofToken?_eq_some.mpr ⟨item, hterminal, rfl⟩
      by_cases hitems : items = []
      · subst hitems
        obtain ⟨text, position, rest, rfl, hrest⟩ := tokens_of_sign htail
        exact ⟨rest, by rw [listItems, hliteral]; rfl, hrest⟩
      · rw [itemsYield_cons item hitems, List.cons_append, List.cons_append] at h
        obtain ⟨text, position, tail', rfl, htail'⟩ := tokens_of_sign (List.cons_eq_cons.mp h).2
        obtain ⟨rest, hread, hrest⟩ := ih hitems htail'
        refine ⟨rest, ?_, hrest⟩
        rw [listItems, hliteral]
        dsimp only
        rw [hread]
        rfl

theorem listLiteral_sound {literal : Literal}
    (h : listLiteral stop tokens = .ok (literal, rest)) :
    ∃ items : List Constant, literal = .list (items.map Constant.literal) ∧ terminals tokens =
      .sign .leftBracket :: (itemsYield items ++ .sign .rightBracket :: terminals rest) := by
  unfold listLiteral at h
  split at h
  · cases h
    exact ⟨[], rfl, rfl⟩
  · obtain ⟨⟨literals, rest'⟩, hread, h⟩ := ok_of_bind h
    cases h
    obtain ⟨items, -, rfl, hitems⟩ := listItems_sound hread
    exact ⟨items, rfl, congrArg (Terminal.sign .leftBracket :: ·) hitems⟩
  · exact absurd h reject_ne_ok

theorem listLiteral_complete (stop : Except LexError Token) {items : List Constant}
    (h : terminals tokens =
      .sign .leftBracket :: (itemsYield items ++ .sign .rightBracket :: R)) :
    Reads (listLiteral stop) tokens (.list (items.map Constant.literal)) R := by
  obtain ⟨text, position, tail, rfl, htail⟩ := tokens_of_sign h
  cases items with
  | nil =>
      obtain ⟨text', position', rest, rfl, hrest⟩ := tokens_of_sign htail
      exact ⟨rest, rfl, hrest⟩
  | cons item items =>
      obtain ⟨rest, hread, hrest⟩ := listItems_complete stop position
        (List.cons_ne_nil item items) htail
      refine ⟨rest, ?_, hrest⟩
      unfold listLiteral
      split
      · rename_i heq
        cases heq
        exact absurd (List.cons_eq_cons.mp htail).1.symm item.terminal_ne.2.2
      · rename_i heq
        cases heq
        rw [hread]
        rfl
      · rename_i hother
        exact absurd rfl (hother _ _ _)

theorem scalarLiteral_sound {literal : Literal}
    (h : scalarLiteral stop tokens = .ok (literal, rest)) :
    ∃ constant : Constant, literal = constant.literal ∧
      terminals tokens = constant.terminal :: terminals rest := by
  unfold scalarLiteral at h
  split at h
  · exact absurd h reject_ne_ok
  · split at h
    · rename_i hliteral
      cases h
      obtain ⟨constant, hterminal, rfl⟩ := Literal.ofToken?_eq_some.mp hliteral
      exact ⟨constant, rfl, congrArg (· :: _) hterminal⟩
    · split at h <;> exact absurd h reject_ne_ok

theorem scalarLiteral_complete (stop : Except LexError Token) {constant : Constant}
    (h : terminals tokens = constant.terminal :: R) :
    Reads (scalarLiteral stop) tokens constant.literal R := by
  obtain ⟨token, rest, rfl, hterminal, hrest⟩ := List.map_eq_cons_iff.mp h
  have hliteral := Literal.ofToken?_eq_some.mpr ⟨constant, hterminal, rfl⟩
  exact ⟨rest, by rw [scalarLiteral, hliteral], hrest⟩

/-! ## Tests -/

theorem caseFlag_sound {ignoreCase : Bool} (h : caseFlag stop tokens = .ok (ignoreCase, rest)) :
    terminals tokens = modifierYield "i" ignoreCase ++ terminals rest := by
  unfold caseFlag at h
  split at h
  · split at h
    · rename_i hname
      cases h
      rw [hname]
      rfl
    · exact absurd h reject_ne_ok
  · exact absurd h reject_ne_ok
  · cases h
    rfl

theorem caseFlag_complete (stop : Except LexError Token) {ignoreCase : Bool} (hR : StopsAt .colon R)
    (h : terminals tokens = modifierYield "i" ignoreCase ++ R) :
    Reads (caseFlag stop) tokens ignoreCase R := by
  cases ignoreCase with
  | true =>
      obtain ⟨text, position, tail, rfl, htail⟩ := tokens_of_sign h
      obtain ⟨position', rest, rfl, hrest⟩ := tokens_of_name htail
      exact ⟨rest, by rw [caseFlag, if_pos rfl], hrest⟩
  | false =>
      refine ⟨tokens, ?_, h⟩
      unfold caseFlag
      split
      · exact absurd h (hR.terminals_ne rfl)
      · exact absurd h (hR.terminals_ne rfl)
      · rfl

theorem comparison_sound {left : Subject} {node : Node}
    (h : comparison stop left tokens = .ok (node, rest)) :
    ∃ test : Test, node = test.tree left ∧ terminals tokens = test.yield ++ terminals rest := by
  unfold comparison at h
  split at h
  · rename_i op text position tokens
    obtain ⟨⟨ignoreCase, rest₁⟩, hflag, h⟩ := ok_of_bind h
    have hflag := caseFlag_sound hflag
    dsimp only at h
    split at h
    · rename_i hop
      obtain ⟨⟨right, rest₂⟩, hright, h⟩ := ok_of_bind h
      cases h
      obtain ⟨items, rfl, hitems⟩ := listLiteral_sound hright
      refine ⟨.list ignoreCase items, by rw [hop]; rfl, ?_⟩
      simp only [Test.yield, List.cons_append, List.append_assoc, List.nil_append]
      rw [← hitems, ← hflag, hop]
      rfl
    · rename_i hop
      obtain ⟨⟨right, rest₂⟩, hright, h⟩ := ok_of_bind h
      cases h
      obtain ⟨constant, rfl, hconstant⟩ := scalarLiteral_sound hright
      refine ⟨.scalar op hop ignoreCase constant, rfl, ?_⟩
      simp only [Test.yield, List.cons_append, List.append_assoc, List.nil_append]
      rw [← hconstant, ← hflag]
      rfl
  · exact absurd h reject_ne_ok

theorem comparison_complete (stop : Except LexError Token) (left : Subject) {test : Test}
    (h : terminals tokens = test.yield ++ R) :
    Reads (comparison stop left) tokens (test.tree left) R := by
  cases test with
  | scalar op single ignoreCase constant =>
      simp only [Test.yield, List.cons_append, List.append_assoc, List.nil_append] at h
      obtain ⟨text, position, tail, rfl, htail⟩ := tokens_of_sign h
      have hcolon : StopsAt .colon (constant.terminal :: R) :=
        (stopsAt_cons _ _ _).mpr constant.terminal_ne.1
      obtain ⟨tail₁, hflag, htail₁⟩ := caseFlag_complete stop hcolon htail
      obtain ⟨rest, hright, hrest⟩ := scalarLiteral_complete stop htail₁
      refine ⟨rest, ?_, hrest⟩
      rw [comparison, hflag]
      dsimp only [bind, Except.bind]
      rw [if_neg single, hright]
      rfl
  | list ignoreCase items =>
      simp only [Test.yield, List.cons_append, List.append_assoc, List.nil_append] at h
      obtain ⟨text, position, tail, rfl, htail⟩ := tokens_of_sign h
      have hcolon : StopsAt .colon (.sign .leftBracket ::
        (itemsYield items ++ .sign .rightBracket :: R)) := by simp
      obtain ⟨tail₁, hflag, htail₁⟩ := caseFlag_complete stop hcolon htail
      obtain ⟨rest, hright, hrest⟩ := listLiteral_complete stop htail₁
      refine ⟨rest, ?_, hrest⟩
      rw [comparison, hflag]
      dsimp only [bind, Except.bind]
      rw [if_pos rfl, hright]
      rfl

end Rules
end RecordQuery.Filter
