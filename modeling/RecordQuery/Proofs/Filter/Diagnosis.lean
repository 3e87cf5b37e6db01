import RecordQuery.Proofs.Filter.Grammar
import RecordQuery.Proofs.Filter.NormalForm

/-!
# `Proofs.Filter.Diagnosis` — where a rule fails

A rule reads phrases, and where it stands tells what may follow one. It settles the tokens if it
takes a phrase where no other could be taken, or else fails at the first token that no phrase goes
on with: what stands before that token can be completed to a phrase, and with the token it cannot.
The parser looks one token ahead, so both are said of the next token only (`StartsLike`), whatever
comes behind it.

A rule that calls another one settles the tokens if the other one does and if, after what was read
before the call, nothing but a phrase of the other rule can stand there (`Phrases.Expects`).

## Contents
- `Phrases`: the phrases of a rule and what may follow one.
- `Phrases.Takes`, `Phrases.Diagnosed`: how a rule succeeds and how it fails.
- `Phrases.Settled`, `Phrases.Settles`: both, for some tokens and for all.
- `Phrases.Settled.reject`, `.expect`, `.bind`, `.after`: what rules are built from.
- `furtherSegments_settled` … `caseFlag_settled`: the leaves.
- `comparison_settled`: **a test is taken, or refused at the first token out of place.**
-/

namespace RecordQuery.Filter

/-! ## What is next -/

/-- The terminals start as the tokens do; there are none if there are no tokens. -/
def StartsLike (next : List Terminal) (tokens : List Token) : Prop :=
  next.head? = (terminals tokens).head?

namespace StartsLike

variable {terminal : Terminal} {kind : TokenKind} {next : List Terminal} {tokens : List Token}

theorem refl (tokens : List Token) : StartsLike (terminals tokens) tokens := rfl

theorem cons (token : Token) (next : List Terminal) (tokens : List Token) :
    StartsLike (token.terminal :: next) (token :: tokens) := rfl

theorem append (read : List Token) (h : StartsLike next tokens) :
    StartsLike (terminals read ++ next) (read ++ tokens) := by
  cases read with
  | nil => exact h
  | cons token read => rfl

theorem exists_token (h : StartsLike (terminal :: next) tokens) :
    ∃ token rest, tokens = token :: rest ∧ token.terminal = terminal := by
  cases tokens with
  | nil => cases h
  | cons token rest => exact ⟨token, rest, rfl, (Option.some.inj h).symm⟩

theorem exists_sign (h : StartsLike (.sign kind :: next) tokens) :
    ∃ text position rest, tokens = ⟨kind, text, position⟩ :: rest := by
  obtain ⟨token, rest, rfl, hterminal⟩ := h.exists_token
  exact ⟨token.text, token.position, rest, by rw [← kind_of_terminal hterminal]⟩

/-- Where the tokens do not start with a sign, the terminals do not either. -/
theorem stopsAt (h : StartsLike next tokens)
    (hkind : ∀ text position rest, tokens ≠ ⟨kind, text, position⟩ :: rest) :
    StopsAt kind next := by
  cases next with
  | nil => exact stopsAt_nil kind
  | cons terminal next =>
      rw [stopsAt_cons]
      rintro rfl
      obtain ⟨text, position, rest, hrest⟩ := h.exists_sign
      exact hkind text position rest hrest

theorem exists_name {name : String} (h : StartsLike (.name name :: next) tokens) :
    ∃ position rest, tokens = ⟨.identifier, name, position⟩ :: rest := by
  obtain ⟨⟨kind, text, position⟩, rest, rfl, hterminal⟩ := h.exists_token
  cases kind <;> cases hterminal
  exact ⟨position, rest, rfl⟩

end StartsLike

/-! ## Phrases -/

/-- The phrases that a rule reads and what may follow one. -/
structure Phrases (ι : Type) where
  yield : ι → List Terminal
  Follows : List Terminal → Prop

/-- The error that a rule gives at the tokens. -/
def rejection (stop : Except LexError Token) (cause : SyntaxCause) : List Token → ParseError
  | token :: _ => .grammatical ⟨cause, token⟩
  | [] =>
    match stop with
    | .ok token => .grammatical ⟨cause, token⟩
    | .error e => .lexical e

theorem reject_eq {α : Type} (stop : Except LexError Token) (cause : SyntaxCause)
    (tokens : List Token) :
    (reject stop cause tokens : Except ParseError α) = .error (rejection stop cause tokens) := by
  cases tokens with
  | nil => cases stop <;> rfl
  | cons token rest => rfl

theorem reject_bind {α β : Type} (stop : Except LexError Token) (cause : SyntaxCause)
    (tokens : List Token) (f : α → Except ParseError β) :
    reject stop cause tokens >>= f = reject stop cause tokens := by
  rw [reject_eq, reject_eq]
  rfl

/-- A syntax error that is not about the nesting: it says of a token that it is out of place. -/
def ParseError.IsFault : ParseError → Prop
  | .lexical _ => False
  | .grammatical e => e.cause ≠ .nestedTooDeeply

theorem not_isFault_rejection (stop : Except LexError Token) (tokens : List Token) :
    ¬(rejection stop .nestedTooDeeply tokens).IsFault := by
  cases tokens with
  | nil => cases stop <;> simp [rejection, ParseError.IsFault]
  | cons token rest => simp [rejection, ParseError.IsFault]

namespace Phrases

variable {ι κ α β : Type} {P : Phrases ι} {Q : Phrases κ} {stop : Except LexError Token}
  {front : List Terminal} {tokens rest left : List Token} {error : ParseError}

/-- Terminals that some text stands for complete the front to a phrase. -/
def Viable (P : Phrases ι) (front : List Terminal) : Prop :=
  ∃ phrase more, P.yield phrase = front ++ more ∧ AllReadable more

/-- No phrase goes on from the front as the tokens do, nor does what may follow a phrase. -/
def DeadEnd (P : Phrases ι) (front : List Terminal) (tokens : List Token) : Prop :=
  ∀ phrase after next, P.Follows after → StartsLike next tokens →
    P.yield phrase ++ after ≠ front ++ next

/-- The tokens are a phrase and the rest. Where another phrase stands instead, it ends there too,
however the text goes on after the first token of the rest. -/
def Takes (P : Phrases ι) (tokens rest : List Token) : Prop :=
  ∃ read phrase, tokens = read ++ rest ∧ terminals read = P.yield phrase ∧
    ∀ other after next, P.Follows after → StartsLike next rest →
      P.yield other ++ after = terminals read ++ next → after = next

/-- The error is about the first of the tokens that no phrase goes on with. -/
def Diagnosed (P : Phrases ι) (stop : Except LexError Token) (tokens : List Token)
    (error : ParseError) : Prop :=
  ∃ read rest cause, tokens = read ++ rest ∧ error = rejection stop cause rest ∧
    P.Viable (terminals read) ∧ (error.IsFault → P.DeadEnd (terminals read) rest)

/-- What a rule gives for the tokens if it reads the phrases. -/
structure Settled (P : Phrases ι) (stop : Except LexError Token) (tokens : List Token)
    (result : Except ParseError (α × List Token)) : Prop where
  takes : ∀ a rest, result = .ok (a, rest) → P.Takes tokens rest
  fails : ∀ error, result = .error error → P.Diagnosed stop tokens error

/-- The rule settles any tokens. -/
def Settles (P : Phrases ι) (stop : Except LexError Token) (rule : Rule α) : Prop :=
  ∀ tokens, P.Settled stop tokens (rule tokens)

/-- Where the rest starts like these tokens, the front is followed by a phrase of another rule, and
any phrase of that rule can stand there. -/
structure Expects (P : Phrases ι) (front : List Terminal) (rest : List Token) (Q : Phrases κ) :
    Prop where
  viable : ∀ inner, P.Viable (front ++ Q.yield inner)
  forced : ∀ phrase after next, P.Follows after → StartsLike next rest →
    P.yield phrase ++ after = front ++ next →
      ∃ inner behind, Q.Follows behind ∧ next = Q.yield inner ++ behind

/-- The front is followed by a phrase of another rule, and that is all. -/
structure EndsWith (P : Phrases ι) (front : List Terminal) (rest : List Token) (Q : Phrases κ) :
    Prop where
  complete : ∀ inner, ∃ phrase, P.yield phrase = front ++ Q.yield inner
  forced : ∀ phrase after next, P.Follows after → StartsLike next rest →
    P.yield phrase ++ after = front ++ next →
      Q.Follows after ∧ ∃ inner, next = Q.yield inner ++ after

/-! ## How rules are built -/

theorem viable_nil (phrase : ι) (h : AllReadable (P.yield phrase)) : P.Viable [] :=
  ⟨phrase, _, rfl, h⟩

theorem EndsWith.expects (h : P.EndsWith front rest Q) : P.Expects front rest Q where
  viable inner := by
    obtain ⟨phrase, hphrase⟩ := h.complete inner
    exact ⟨phrase, [], by rw [hphrase, List.append_nil], allReadable_nil⟩
  forced phrase after next hafter hnext heq := by
    obtain ⟨hbehind, inner, hinner⟩ := h.forced phrase after next hafter hnext heq
    exact ⟨inner, after, hbehind, hinner⟩

theorem EndsWith.refl (P : Phrases ι) (tokens : List Token) : P.EndsWith [] tokens P where
  complete phrase := ⟨phrase, rfl⟩
  forced phrase _ _ hafter _ heq := ⟨hafter, phrase, heq.symm⟩

theorem Takes.after (read : List Token) (hends : P.EndsWith (terminals read) rest Q)
    (h : Q.Takes rest left) : P.Takes (read ++ rest) left := by
  obtain ⟨taken, inner, rfl, hinner, hunique⟩ := h
  obtain ⟨phrase, hphrase⟩ := hends.complete inner
  refine ⟨read ++ taken, phrase, (List.append_assoc ..).symm, ?_, ?_⟩
  · rw [hphrase, ← hinner, terminals_append]
  · intro other after next hafter hnext heq
    rw [terminals_append, List.append_assoc] at heq
    obtain ⟨hbehind, inner', hinner'⟩ :=
      hends.forced other after _ hafter (hnext.append taken) heq
    exact hunique inner' after next hbehind hnext hinner'.symm

/-- **An error of the rule that is called is one of the rule that calls it.** -/
theorem Diagnosed.after (read : List Token) (hexpects : P.Expects (terminals read) rest Q)
    (h : Q.Diagnosed stop rest error) : P.Diagnosed stop (read ++ rest) error := by
  obtain ⟨taken, left, cause, rfl, rfl, ⟨inner, more, hinner, hmore⟩, hdead⟩ := h
  refine ⟨read ++ taken, left, cause, (List.append_assoc ..).symm, rfl, ?_, ?_⟩
  · -- first the phrase that was begun is completed, then the one around it
    obtain ⟨phrase, further, hphrase, hfurther⟩ := hexpects.viable inner
    refine ⟨phrase, more ++ further, ?_, allReadable_append.mpr ⟨hmore, hfurther⟩⟩
    rw [hphrase, hinner, terminals_append, List.append_assoc, List.append_assoc,
      List.append_assoc]
  · -- a way out for the rule that calls would be one for the rule that is called
    intro hfault phrase after next hafter hnext heq
    rw [terminals_append, List.append_assoc] at heq
    obtain ⟨inner', behind, hbehind, hinner'⟩ :=
      hexpects.forced phrase after _ hafter (hnext.append taken) heq
    exact hdead hfault inner' behind next hbehind hnext hinner'.symm

theorem Settled.ok {a : α} (h : P.Takes tokens rest) :
    P.Settled stop tokens (.ok (a, rest)) where
  takes := by
    rintro _ _ ⟨⟩
    exact h
  fails := by
    rintro _ ⟨⟩

theorem Settled.of_diagnosed (h : P.Diagnosed stop tokens error) :
    P.Settled stop tokens (.error error : Except ParseError (α × List Token)) where
  takes := by
    rintro _ _ ⟨⟩
  fails := by
    rintro _ ⟨⟩
    exact h

theorem Settled.reject {cause : SyntaxCause} (read : List Token)
    (hviable : P.Viable (terminals read)) (hdead : P.DeadEnd (terminals read) rest) :
    P.Settled stop (read ++ rest)
      (Filter.reject stop cause rest : Except ParseError (α × List Token)) := by
  rw [reject_eq]
  exact .of_diagnosed ⟨read, rest, cause, rfl, rfl, hviable, fun _ => hdead⟩

/-- Nothing is said of a token where the nesting ends the reading. -/
theorem Settled.reject_nesting (hviable : P.Viable []) :
    P.Settled stop tokens
      (Filter.reject stop .nestedTooDeeply tokens : Except ParseError (α × List Token)) := by
  rw [reject_eq]
  exact .of_diagnosed ⟨[], tokens, _, rfl, rfl, hviable,
    fun hfault => absurd hfault (not_isFault_rejection stop tokens)⟩

/-- A sign that has to stand there. -/
theorem Settled.expect {kind : TokenKind} {cause : SyntaxCause}
    {f : List Token → Except ParseError (α × List Token)} (read : List Token)
    (hviable : P.Viable (terminals read))
    (hforced : ∀ phrase after next, P.Follows after → StartsLike next rest →
      P.yield phrase ++ after = terminals read ++ next → ∃ further, next = .sign kind :: further)
    (hf : ∀ text position left, rest = ⟨kind, text, position⟩ :: left →
      P.Settled stop (read ++ rest) (f left)) :
    P.Settled stop (read ++ rest) (Filter.expect stop kind cause rest >>= f) := by
  have hdead (hrest : ∀ text position left, rest ≠ ⟨kind, text, position⟩ :: left) :
      P.DeadEnd (terminals read) rest := by
    intro phrase after next hafter hnext heq
    obtain ⟨further, rfl⟩ := hforced phrase after next hafter hnext heq
    obtain ⟨text, position, left, hleft⟩ := hnext.exists_sign
    exact hrest text position left hleft
  unfold Filter.expect
  split
  · rename_i token left
    split
    · rename_i hkind
      exact hf token.text token.position left (by rw [← hkind])
    · rename_i hkind
      rw [reject_eq]
      refine .of_diagnosed ⟨read, _, cause, rfl, rfl, hviable, fun _ => hdead ?_⟩
      rintro _ _ _ ⟨⟩
      exact hkind rfl
  · -- the text ends here, and the sign would have to come yet
    rw [reject_eq]
    refine .of_diagnosed ⟨read, _, cause, rfl, rfl, hviable, fun _ => hdead ?_⟩
    rintro _ _ _ ⟨⟩

/-- **One rule after another.** -/
theorem Settled.bind {x : Except ParseError (α × List Token)}
    {f : α × List Token → Except ParseError (β × List Token)} (read : List Token)
    (hx : Q.Settled stop rest x) (hexpects : P.Expects (terminals read) rest Q)
    (hf : ∀ a left, Q.Takes rest left → P.Settled stop (read ++ rest) (f (a, left))) :
    P.Settled stop (read ++ rest) (x >>= f) := by
  cases x with
  | error e => exact .of_diagnosed (.after read hexpects (hx.fails e rfl))
  | ok result => exact hf result.1 result.2 (hx.takes _ _ rfl)

/-- A rule that ends with another one. -/
theorem Settled.after {x : Except ParseError (α × List Token)} (read : List Token)
    (hx : Q.Settled stop rest x) (hends : P.EndsWith (terminals read) rest Q) :
    P.Settled stop (read ++ rest) x where
  takes a left h := .after read hends (hx.takes a left h)
  fails error h := .after read hends.expects (hx.fails error h)

/-- A rule that ends with another one and makes something of what that one read. -/
theorem Settled.map {x : Except ParseError (α × List Token)} {f : α → β} (read : List Token)
    (hx : Q.Settled stop rest x) (hends : P.EndsWith (terminals read) rest Q) :
    P.Settled stop (read ++ rest) (x >>= fun result => .ok (f result.1, result.2)) :=
  .bind read hx hends.expects fun _ _ htakes => .ok (.after read hends htakes)

end Phrases

section Leaves

variable (stop : Except LexError Token)

/-! ## Paths -/

theorem isIdentifier_a : IsIdentifier "a" := ⟨⟨'a', [], rfl, rfl, rfl⟩, by decide⟩

/-- The names of a path after the first. -/
def segmentPhrases : Phrases (List String) :=
  ⟨fun names => separated .dot (names.map .name), StopsAt .dot⟩

/-- A dot is followed by a name and then by more of the path. -/
theorem segmentPhrases_forced {names : List String} {after next : List Terminal}
    (hafter : StopsAt .dot after)
    (h : segmentPhrases.yield names ++ after = .sign .dot :: next) :
    ∃ name further, next = .name name :: (segmentPhrases.yield further ++ after) := by
  cases names with
  | nil => exact absurd (by rw [show after = _ from h]; rfl) hafter
  | cons name further => exact ⟨name, further, (List.cons_eq_cons.mp h).2.symm⟩

theorem furtherSegments_settled : segmentPhrases.Settles stop (furtherSegments stop) := by
  intro tokens
  fun_induction furtherSegments stop tokens with
  | case1 text position name position' rest ih =>
      refine .map [⟨.dot, text, position⟩, ⟨.identifier, name, position'⟩] ih ⟨?_, ?_⟩
      · intro names
        exact ⟨name :: names, rfl⟩
      · intro names after next hafter _ heq
        obtain ⟨name', further, hnext⟩ := segmentPhrases_forced hafter heq
        exact ⟨hafter, further, (List.cons_eq_cons.mp hnext).2⟩
  | case2 text position rest hrest =>
      refine .reject [⟨.dot, text, position⟩] ⟨["a"], [.name "a"], rfl, ?_⟩ ?_
      · exact allReadable_cons.mpr ⟨isIdentifier_a, allReadable_nil⟩
      · intro names after next hafter hnext heq
        obtain ⟨name, further, rfl⟩ := segmentPhrases_forced hafter heq
        obtain ⟨position', rest', rfl⟩ := hnext.exists_name
        exact hrest _ _ _ rfl
  | case3 tokens _ hdot =>
      refine .ok ⟨[], [], rfl, rfl, ?_⟩
      intro names after next hafter hnext heq
      have hstops := hnext.stopsAt hdot
      cases names with
      | nil => exact heq
      | cons name names => exact absurd (by rw [← show _ = next from heq]; rfl) hstops

/-! ## Literals -/

/-- A literal that is no list. -/
def scalarPhrases : Phrases Constant := ⟨fun constant => [constant.terminal], fun _ => True⟩

theorem scalarLiteral_settled : scalarPhrases.Settles stop (scalarLiteral stop) := by
  intro tokens
  have hviable : scalarPhrases.Viable [] := by
    refine Phrases.viable_nil .null ?_
    simp [scalarPhrases, Constant.terminal, TokenKind.spelling]
  unfold scalarLiteral
  split
  · refine .reject [] hviable ?_
    rintro constant after next - hnext rfl
    obtain ⟨_, _, hnil, -⟩ := hnext.exists_token
    cases hnil
  · rename_i token rest
    split
    · rename_i literal hliteral
      obtain ⟨constant, hterminal, rfl⟩ := Literal.ofToken?_eq_some.mp hliteral
      refine .ok ⟨[token], constant, rfl, congrArg (fun terminal => [terminal]) hterminal, ?_⟩
      intro other after next _ _ heq
      exact (List.cons_eq_cons.mp heq).2
    · rename_i hliteral
      have hdead : scalarPhrases.DeadEnd [] (token :: rest) := by
        rintro constant after next - hnext rfl
        obtain ⟨_, _, ⟨⟩, hterminal⟩ := hnext.exists_token
        rw [Literal.ofToken?_eq_some.mpr ⟨constant, hterminal, rfl⟩] at hliteral
        cases hliteral
      -- An opening bracket has an error of its own, but no literal starts with it either.
      split
      · exact .reject [] hviable hdead
      · exact .reject [] hviable hdead

/-- The items of a list after its opening bracket, and the closing one. -/
def itemPhrases : Phrases {items : List Constant // items ≠ []} :=
  ⟨fun items => itemsYield items ++ [.sign .rightBracket], fun _ => True⟩

section Items

variable {items : {items : List Constant // items ≠ []}} {after next : List Terminal}

/-- An item is followed by the end of the list or by a comma and more items. -/
theorem itemPhrases_forced {terminal : Terminal}
    (h : itemPhrases.yield items ++ after = terminal :: next) :
    (∃ first : Constant, terminal = first.terminal) ∧ (next = .sign .rightBracket :: after ∨
      ∃ further, next = .sign .comma :: (itemPhrases.yield further ++ after)) := by
  obtain ⟨items, hne⟩ := items
  have h : itemsYield items ++ [.sign .rightBracket] ++ after = terminal :: next := h
  cases items with
  | nil => exact absurd rfl hne
  | cons first items =>
      by_cases hitems : items = []
      · subst hitems
        cases h
        exact ⟨⟨first, rfl⟩, .inl rfl⟩
      · rw [itemsYield_cons first hitems] at h
        cases h
        exact ⟨⟨first, rfl⟩, .inr ⟨⟨items, hitems⟩, rfl⟩⟩

theorem itemPhrases_deadEnd {tokens : List Token}
    (h : ∀ token rest, tokens = token :: rest → Literal.ofToken? token = none) :
    itemPhrases.DeadEnd [] tokens := by
  intro items after next _ hnext heq
  have heq : itemPhrases.yield items ++ after = next := heq
  cases next with
  | nil => simp [itemPhrases] at heq
  | cons terminal next =>
      obtain ⟨⟨first, rfl⟩, -⟩ := itemPhrases_forced heq
      obtain ⟨token, rest, rfl, hterminal⟩ := hnext.exists_token
      have hliteral := Literal.ofToken?_eq_some.mpr ⟨first, hterminal, rfl⟩
      rw [h token rest rfl] at hliteral
      cases hliteral

/-- After an item there is no way but a comma or the closing bracket. -/
theorem itemPhrases_deadEnd_item (token : Token) {tokens : List Token}
    (hbracket : ∀ text position rest, tokens ≠ ⟨.rightBracket, text, position⟩ :: rest)
    (hcomma : ∀ text position rest, tokens ≠ ⟨.comma, text, position⟩ :: rest) :
    itemPhrases.DeadEnd (terminals [token]) tokens := by
  intro items after next _ hnext heq
  have heq : itemPhrases.yield items ++ after = token.terminal :: next := heq
  obtain ⟨-, rfl | ⟨further, rfl⟩⟩ := itemPhrases_forced heq
  · exact hnext.stopsAt hbracket rfl
  · exact hnext.stopsAt hcomma rfl

end Items

theorem listItems_settled (opened : Nat) :
    itemPhrases.Settles stop (listItems stop opened) := by
  intro tokens
  have hviable : itemPhrases.Viable [] := by
    refine Phrases.viable_nil ⟨[.null], List.cons_ne_nil _ _⟩ ?_
    simp [itemPhrases, itemsYield, separated, Constant.terminal, TokenKind.spelling]
  have hone {token : Token} {item : Constant} (hterminal : token.terminal = item.terminal) :
      itemPhrases.Viable (terminals [token]) := by
    refine ⟨⟨[item], List.cons_ne_nil _ _⟩, [.sign .rightBracket], ?_, ?_⟩
    · exact congrArg (fun terminal => [terminal, .sign .rightBracket]) hterminal.symm
    · simp [TokenKind.spelling]
  -- The cases are those of the rule: no item, no literal, an item at the end, before the bracket,
  -- before a comma and before anything else.
  fun_induction listItems stop opened tokens with
  | case1 =>
      refine .reject [] hviable (itemPhrases_deadEnd ?_)
      rintro _ _ ⟨⟩
  | case2 token rest hliteral =>
      refine .reject [] hviable (itemPhrases_deadEnd ?_)
      rintro _ _ ⟨⟩
      exact hliteral
  | case3 token literal hliteral =>
      obtain ⟨item, hterminal, rfl⟩ := Literal.ofToken?_eq_some.mp hliteral
      refine .reject [token] (hone hterminal) (itemPhrases_deadEnd_item token ?_ ?_)
      · rintro _ _ _ ⟨⟩
      · rintro _ _ _ ⟨⟩
  | case4 token literal hliteral text position rest =>
      obtain ⟨item, hterminal, rfl⟩ := Literal.ofToken?_eq_some.mp hliteral
      refine .ok ⟨[token, ⟨.rightBracket, text, position⟩], ⟨[item], List.cons_ne_nil _ _⟩, rfl, ?_,
        ?_⟩
      · exact congrArg (fun terminal => [terminal, .sign .rightBracket]) hterminal
      · intro items after next _ hnext heq
        have heq : itemPhrases.yield items ++ after =
          token.terminal :: .sign .rightBracket :: next := heq
        obtain ⟨-, hlast | ⟨further, hmore⟩⟩ := itemPhrases_forced heq
        · exact (List.cons_eq_cons.mp hlast).2.symm
        · cases (List.cons_eq_cons.mp hmore).1
  | case5 token literal hliteral text position rest ih =>
      obtain ⟨item, hterminal, rfl⟩ := Literal.ofToken?_eq_some.mp hliteral
      refine .map [token, ⟨.comma, text, position⟩] ih ⟨?_, ?_⟩
      · intro items
        refine ⟨⟨item :: items.1, List.cons_ne_nil _ _⟩, ?_⟩
        show itemsYield (item :: items.1) ++ _ = token.terminal :: _
        rw [itemsYield_cons item items.2, hterminal]
        rfl
      · intro items after next _ hnext heq
        have heq : itemPhrases.yield items ++ after = token.terminal :: .sign .comma :: next := heq
        obtain ⟨-, hlast | ⟨further, hmore⟩⟩ := itemPhrases_forced heq
        · cases (List.cons_eq_cons.mp hlast).1
        · exact ⟨trivial, further, (List.cons_eq_cons.mp hmore).2⟩
  | case6 token literal hliteral other rest hbracket hcomma =>
      obtain ⟨item, hterminal, rfl⟩ := Literal.ofToken?_eq_some.mp hliteral
      refine .reject [token] (hone hterminal) (itemPhrases_deadEnd_item token ?_ ?_)
      · rintro text position _ ⟨⟩
        exact hbracket text position rfl
      · rintro text position _ ⟨⟩
        exact hcomma text position rfl

/-- A list literal. -/
def listPhrases : Phrases (List Constant) :=
  ⟨fun items => .sign .leftBracket :: (itemsYield items ++ [.sign .rightBracket]), fun _ => True⟩

theorem listLiteral_settled : listPhrases.Settles stop (listLiteral stop) := by
  intro tokens
  unfold listLiteral
  split
  · rename_i text position text' position' rest
    refine .ok ⟨[⟨.leftBracket, text, position⟩, ⟨.rightBracket, text', position'⟩], [], rfl, rfl,
      ?_⟩
    intro items after next _ _ heq
    have heq : itemsYield items ++ [.sign .rightBracket] ++ after = .sign .rightBracket :: next :=
      (List.cons_eq_cons.mp heq).2
    cases items with
    | nil => exact (List.cons_eq_cons.mp heq).2
    | cons item items => exact absurd (List.cons_eq_cons.mp heq).1 item.terminal_ne.2.2
  · rename_i text opened rest hbracket
    refine .map [⟨.leftBracket, text, opened⟩] (listItems_settled stop opened rest) ⟨?_, ?_⟩
    · intro items
      exact ⟨items.1, rfl⟩
    · intro items after next _ hnext heq
      have heq : itemsYield items ++ [.sign .rightBracket] ++ after = next :=
        (List.cons_eq_cons.mp heq).2
      -- The list is not empty, or its closing bracket would be the next token.
      refine ⟨trivial, ⟨items, ?_⟩, heq.symm⟩
      rintro rfl
      refine hnext.stopsAt hbracket ?_
      rw [← heq]
      rfl
  · rename_i hbracket
    refine .reject [] ?_ ?_
    · refine Phrases.viable_nil [] ?_
      simp [listPhrases, itemsYield, TokenKind.spelling]
    · rintro items after next - hnext rfl
      exact hnext.stopsAt hbracket rfl

/-! ## Tests -/

/-- The flag of an operator, if it is there. -/
def flagPhrases : Phrases Bool := ⟨modifierYield "i", StopsAt .colon⟩

/-- A colon is followed by the flag. -/
theorem flagPhrases_forced {present : Bool} {after next : List Terminal}
    (hafter : StopsAt .colon after)
    (h : flagPhrases.yield present ++ after = .sign .colon :: next) :
    next = .name "i" :: after := by
  cases present with
  | false => exact absurd (by rw [show after = _ from h]; rfl) hafter
  | true => exact (List.cons_eq_cons.mp h).2.symm

theorem caseFlag_settled : flagPhrases.Settles stop (caseFlag stop) := by
  intro tokens
  have hviable : flagPhrases.Viable [.sign .colon] := by
    refine ⟨true, [.name "i"], rfl, allReadable_cons.mpr ⟨?_, allReadable_nil⟩⟩
    exact ⟨⟨'i', [], rfl, rfl, rfl⟩, by decide⟩
  unfold caseFlag
  split
  · rename_i text position name position' rest
    split
    · rename_i hname
      subst hname
      refine .ok ⟨[⟨.colon, text, position⟩, ⟨.identifier, "i", position'⟩], true, rfl, rfl, ?_⟩
      intro present after next hafter _ heq
      exact (List.cons_eq_cons.mp (flagPhrases_forced hafter heq)).2.symm
    · rename_i hname
      refine .reject [⟨.colon, text, position⟩] hviable ?_
      intro present after next hafter hnext heq
      obtain rfl := flagPhrases_forced hafter heq
      obtain ⟨_, _, ⟨⟩⟩ := hnext.exists_name
      exact hname rfl
  · rename_i text position rest hname
    refine .reject [⟨.colon, text, position⟩] hviable ?_
    intro present after next hafter hnext heq
    obtain rfl := flagPhrases_forced hafter heq
    obtain ⟨position', rest', rfl⟩ := hnext.exists_name
    exact hname _ _ _ rfl
  · rename_i hcolon
    refine .ok ⟨[], false, rfl, rfl, ?_⟩
    intro present after next hafter hnext heq
    have hstops := hnext.stopsAt hcolon
    cases present with
    | false => exact heq
    | true => exact absurd (by rw [← show _ = next from heq]; rfl) hstops

/-- A test; anything may follow it. -/
def Test.phrases : Phrases Test := ⟨Test.yield, fun _ => True⟩

/-- The test `== null`, with which every path makes a filter. -/
def Test.isNull : Test := .scalar .eq (by decide) false .null

theorem Test.allReadable_isNull : AllReadable Test.isNull.yield := by
  simp [Test.isNull, Test.yield, modifierYield, Constant.terminal, TokenKind.spelling,
    Operator.text]

/-- A test starts with an operator. -/
theorem Test.starts (test : Test) {after next : List Terminal} (h : test.yield ++ after = next) :
    ∃ op further, next = .sign (.operator op) :: further := by
  obtain ⟨op, terminals, htest⟩ := test.yield_cons
  exact ⟨op, terminals ++ after, by rw [← h, htest, List.cons_append]⟩

/-- An operator is followed by its flag, and that by a list or by a single literal. -/
theorem Test.forced {test : Test} {op : Operator} {after next : List Terminal}
    (h : test.yield ++ after = .sign (.operator op) :: next) :
    ∃ ignoreCase right, next = modifierYield "i" ignoreCase ++ (right ++ after) ∧
      StopsAt .colon (right ++ after) ∧
      ((op = .oneOf ∧ ∃ items, right = listPhrases.yield items) ∨
        (op ≠ .oneOf ∧ ∃ constant, right = scalarPhrases.yield constant)) := by
  cases test with
  | scalar op' single ignoreCase constant =>
      simp only [Test.yield, List.cons_append, List.append_assoc] at h
      cases h
      refine ⟨ignoreCase, _, rfl, ?_, .inr ⟨single, constant, rfl⟩⟩
      exact (stopsAt_cons _ _ _).mpr constant.terminal_ne.1
  | list ignoreCase items =>
      simp only [Test.yield, List.cons_append, List.append_assoc] at h
      cases h
      refine ⟨ignoreCase, listPhrases.yield items, ?_, ?_, .inl ⟨rfl, items, rfl⟩⟩
      · simp [listPhrases]
      · simp [listPhrases]

/-- The literal of a test, after an operator and its flag. -/
theorem literal_settled (left : Subject) (op : Operator) (ignoreCase : Bool) (text : String)
    (position : Nat) {tokens rest : List Token} (htakes : flagPhrases.Takes tokens rest) :
    Test.phrases.Settled stop (⟨.operator op, text, position⟩ :: tokens) (do
      let (right, rest) ← if op = .oneOf then listLiteral stop rest else scalarLiteral stop rest
      .ok (Node.comparison left op ignoreCase right, rest)) := by
  obtain ⟨flag, present, rfl, hflag, hunique⟩ := htakes
  -- The flag is over, in whatever test these tokens start, so the literal of that test is next.
  have hforced {test : Test} {after next : List Terminal} (hnext : StartsLike next rest)
      (heq : test.yield ++ after = .sign (.operator op) :: terminals flag ++ next) :
      (op = .oneOf ∧ ∃ items, next = listPhrases.yield items ++ after) ∨
        (op ≠ .oneOf ∧ ∃ constant, next = scalarPhrases.yield constant ++ after) := by
    obtain ⟨present', right, hright, hcolon, hcases⟩ := Test.forced heq
    obtain rfl := hunique present' (right ++ after) next hcolon hnext hright.symm
    rcases hcases with ⟨hop, items, rfl⟩ | ⟨hop, constant, rfl⟩
    · exact .inl ⟨hop, items, rfl⟩
    · exact .inr ⟨hop, constant, rfl⟩
  split
  · rename_i hop
    refine .map (⟨.operator op, text, position⟩ :: flag) (listLiteral_settled stop rest) ⟨?_, ?_⟩
    · intro items
      refine ⟨.list present items, ?_⟩
      show _ = .sign (.operator op) :: terminals flag ++ _
      rw [hop, hflag]
      rfl
    · intro test after next _ hnext heq
      rcases hforced hnext heq with ⟨-, hitems⟩ | ⟨hne, -⟩
      · exact ⟨trivial, hitems⟩
      · exact absurd hop hne
  · rename_i hop
    refine .map (⟨.operator op, text, position⟩ :: flag) (scalarLiteral_settled stop rest) ⟨?_, ?_⟩
    · intro constant
      refine ⟨.scalar op hop present constant, ?_⟩
      show _ = .sign (.operator op) :: terminals flag ++ _
      rw [hflag]
      rfl
    · intro test after next _ hnext heq
      rcases hforced hnext heq with ⟨hin, -⟩ | ⟨-, hconstant⟩
      · exact absurd hin hop
      · exact ⟨trivial, hconstant⟩

/-- **A test is taken, or refused at the first token out of place.** -/
theorem comparison_settled (left : Subject) :
    Test.phrases.Settles stop (comparison stop left) := by
  intro tokens
  unfold comparison
  split
  · rename_i op text position rest
    refine .bind [⟨.operator op, text, position⟩] (caseFlag_settled stop rest) ⟨?_, ?_⟩ ?_
    · intro present
      by_cases hop : op = .oneOf
      · subst hop
        refine ⟨.list present [], [.sign .leftBracket, .sign .rightBracket], rfl, ?_⟩
        simp [TokenKind.spelling]
      · refine ⟨.scalar op hop present .null, [.sign .null], rfl, ?_⟩
        simp [TokenKind.spelling]
    · intro test after next _ _ heq
      obtain ⟨present, right, rfl, hcolon, -⟩ := Test.forced heq
      exact ⟨present, right ++ after, hcolon, rfl⟩
    · intro ignoreCase rest htakes
      exact literal_settled stop left op ignoreCase text position htakes
  · rename_i hop
    refine .reject [] (Phrases.viable_nil Test.isNull Test.allReadable_isNull) ?_
    intro test after next _ hnext heq
    obtain ⟨op, further, rfl⟩ := test.starts heq
    exact hnext.stopsAt (hop op) rfl

end Leaves

end RecordQuery.Filter
