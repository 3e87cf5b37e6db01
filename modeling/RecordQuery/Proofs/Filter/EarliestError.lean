import RecordQuery.Proofs.Filter.Diagnosis

/-!
# `Proofs.Filter.EarliestError` — the parser reports the first token out of place

Chains, what follows a path, operands and whole texts settle their tokens, each because the rules
that it calls do. The nesting limit is the only reason to fail that is not about a token: an error
for the nesting says nothing of the token it names, but what was read before it can be continued.

For a text this means that the parser stops neither before nor after the first token with which the
text can no longer become a filter, so it gets to a lexical error only if there is no such token.

## Contents
- `Phrases.Chains`: phrases that are chains of others.
- `quantified_settled`, `afterPath_settled`, `unary_settled`: the recursion.
- `whole_diagnosed`: the same for all tokens of a text.
- `Continuable`, `FirstOffence`: what can become a sentence, and the first token that spoils it.
- `earliest_offence`: **the error of a text that cannot be parsed is about that token.**
-/

namespace RecordQuery.Filter

/-! ## Chains -/

section Chains

variable {ι κ : Type} {P : Phrases ι} {Q : Phrases κ} {stop : Except LexError Token}
  {connective : Connective} {tokens rest : List Token}

/-- The phrases are chains of phrases of another rule. -/
structure Phrases.Chains (P : Phrases ι) (connective : Connective) (Q : Phrases κ) : Prop where
  one : ∀ first, ∃ phrase, Q.yield phrase = P.yield first
  more : ∀ first others, ∃ phrase,
    Q.yield phrase = P.yield first ++ .sign connective.kind :: Q.yield others
  cases : ∀ phrase, (∃ first, Q.yield phrase = P.yield first) ∨
    ∃ first others, Q.yield phrase = P.yield first ++ .sign connective.kind :: Q.yield others
  follows : ∀ {after}, Q.Follows after → P.Follows after ∧ StopsAt connective.kind after
  separates : ∀ after, P.Follows (.sign connective.kind :: after)

namespace Phrases.Chains

/-- A chain starts with an item. -/
theorem expects (h : P.Chains connective Q) (tokens : List Token) : Q.Expects [] tokens P where
  viable first := by
    obtain ⟨phrase, hphrase⟩ := h.one first
    exact ⟨phrase, [], by rw [hphrase, List.append_nil, List.nil_append], allReadable_nil⟩
  forced phrase after next hafter _ heq := by
    rcases h.cases phrase with ⟨first, hphrase⟩ | ⟨first, others, hphrase⟩
    · exact ⟨first, after, (h.follows hafter).1, by rw [← hphrase, heq, List.nil_append]⟩
    · refine ⟨first, .sign connective.kind :: (Q.yield others ++ after), h.separates _, ?_⟩
      rw [hphrase, List.append_assoc, List.cons_append, List.nil_append] at heq
      exact heq.symm

/-- An item that no separator follows is the chain. -/
theorem takes_one (h : P.Chains connective Q) (htakes : P.Takes tokens rest)
    (hstop : ∀ text position left, rest ≠ ⟨connective.kind, text, position⟩ :: left) :
    Q.Takes tokens rest := by
  obtain ⟨read, first, rfl, hread, hunique⟩ := htakes
  obtain ⟨phrase, hphrase⟩ := h.one first
  refine ⟨read, phrase, rfl, hread.trans hphrase.symm, ?_⟩
  intro other after next hafter hnext heq
  rcases h.cases other with ⟨first', hother⟩ | ⟨first', others, hother⟩
  · rw [hother] at heq
    exact hunique first' after next (h.follows hafter).1 hnext heq
  · -- a longer chain would have the separator next
    rw [hother, List.append_assoc] at heq
    obtain rfl := hunique first' _ next (h.separates _) hnext heq
    exact absurd rfl (hnext.stopsAt hstop)

/-- After an item and a separator the chain goes on with a chain. -/
theorem endsWith (h : P.Chains connective Q) {token : Token} {left : List Token}
    (hkind : token.kind = connective.kind) (htakes : P.Takes tokens (token :: left)) :
    ∃ read, tokens = read ++ left ∧ Q.EndsWith (terminals read) left Q := by
  obtain ⟨read, first, rfl, hread, hunique⟩ := htakes
  have htoken : token.terminal = .sign connective.kind :=
    (List.cons_eq_cons.mp (Connective.terminals_cons hkind [])).1
  have hterminals (next : List Terminal) : terminals (read ++ [token]) ++ next =
      terminals read ++ .sign connective.kind :: next := by
    rw [← htoken, terminals_append, List.append_assoc]
    rfl
  refine ⟨read ++ [token], (List.append_assoc read [token] left).symm, ?_, ?_⟩
  · intro others
    obtain ⟨phrase, hphrase⟩ := h.more first others
    exact ⟨phrase, by rw [hphrase, hterminals, hread]⟩
  · intro phrase after next hafter _ heq
    have hnext : StartsLike (.sign connective.kind :: next) (token :: left) :=
      congrArg some htoken.symm
    rw [hterminals] at heq
    rcases h.cases phrase with ⟨first', hphrase⟩ | ⟨first', others, hphrase⟩
    · -- nothing that follows a chain starts with the separator
      rw [hphrase] at heq
      obtain ⟨hfollows, hstops⟩ := h.follows hafter
      rw [hunique first' after _ hfollows hnext heq] at hstops
      exact absurd rfl hstops
    · rw [hphrase, List.append_assoc] at heq
      have hrest := hunique first' _ _ (h.separates _) hnext heq
      exact ⟨hafter, others, (List.cons_eq_cons.mp hrest).2.symm⟩

/-- **A chain settles the tokens if its items do.** -/
theorem settled (h : P.Chains connective Q) {item : Rule Node} (hitem : P.Settles stop item)
    (tokens : List Token) : Q.Settled stop tokens (chain connective.kind item tokens) := by
  fun_induction chain connective.kind item tokens with
  | case1 tokens error herror =>
      exact .of_diagnosed (.after [] (h.expects tokens) ((hitem tokens).fails error herror))
  | case2 tokens node hok =>
      refine .ok (h.takes_one ((hitem tokens).takes node [] hok) ?_)
      rintro _ _ _ ⟨⟩
  | case3 tokens node token rest hok hstep error herror ih =>
      obtain ⟨read, rfl, hends⟩ := h.endsWith hstep.1 ((hitem tokens).takes node _ hok)
      rw [herror] at ih
      exact .of_diagnosed (.after read hends.expects (ih.fails error rfl))
  | case4 tokens node token rest hok hstep nodes left hmore ih =>
      obtain ⟨read, rfl, hends⟩ := h.endsWith hstep.1 ((hitem tokens).takes node _ hok)
      rw [hmore] at ih
      exact .ok (.after read hends (ih.takes nodes left rfl))
  | case5 tokens node token rest hok hstep =>
      have htakes := (hitem tokens).takes node _ hok
      refine .ok (h.takes_one htakes ?_)
      -- The rest is shorter anyway, so the item is not followed by the separator.
      obtain ⟨read, -, htokens, -⟩ := htakes
      rintro text position left ⟨⟩
      refine hstep ⟨rfl, ?_⟩
      rw [htokens, List.length_append, List.length_cons]
      omega

end Phrases.Chains
end Chains

/-! ## Phrases of the grammar -/

def Suffix.phrases : Phrases Suffix := ⟨Suffix.yield, EndsUnary⟩

def Unary.phrases : Phrases Unary := ⟨Unary.yield, EndsUnary⟩

def Conjunction.phrases : Phrases Conjunction := ⟨Conjunction.yield, EndsConjunction⟩

def Disjunction.phrases : Phrases Disjunction := ⟨Disjunction.yield, EndsDisjunction⟩

theorem Conjunction.chains : Unary.phrases.Chains .and Conjunction.phrases where
  one first := ⟨.one first, rfl⟩
  more first others := ⟨.more first others, rfl⟩
  cases
    | .one first => .inl ⟨first, rfl⟩
    | .more first others => .inr ⟨first, others, rfl⟩
  follows hafter := ⟨hafter.toEndsUnary, hafter.and⟩
  separates _ := endsUnary_and

theorem Disjunction.chains : Conjunction.phrases.Chains .or Disjunction.phrases where
  one first := ⟨.one first, rfl⟩
  more first others := ⟨.more first others, rfl⟩
  cases
    | .one first => .inl ⟨first, rfl⟩
    | .more first others => .inr ⟨first, others, rfl⟩
  follows hafter := ⟨hafter.toEndsConjunction, hafter.or⟩
  separates _ := endsConjunction_or

/-- The operand `a == null`. -/
def Unary.isNull : Unary := .property ⟨"a", []⟩ (.test false .isNull)

theorem Unary.allReadable_isNull : AllReadable Unary.isNull.yield :=
  allReadable_cons.mpr ⟨isIdentifier_a, Test.allReadable_isNull⟩

def Disjunction.isNull : Disjunction := .one (.one .isNull)

theorem Disjunction.allReadable_isNull : AllReadable Disjunction.isNull.yield :=
  Unary.allReadable_isNull

section Rules

variable {stop : Except LexError Token} {item body : Rule Node}

theorem joined_settled {ι κ : Type} {P : Phrases ι} {Q : Phrases κ} {connective : Connective}
    (h : P.Chains connective Q) (hitem : P.Settles stop item) :
    Q.Settles stop (joined connective item) :=
  fun tokens => .map [] (h.settled hitem tokens) (.refl Q tokens)

/-- **The two connectives, over operands that are settled.** -/
theorem connected_settled (hitem : Unary.phrases.Settles stop item) :
    Disjunction.phrases.Settles stop (connected item) :=
  joined_settled Disjunction.chains (joined_settled Conjunction.chains hitem)

/-! ## Quantifiers -/

section Suffixes

variable {suffix : Suffix} {quantifier : Quantifier} {front : List Token}
  {after next : List Terminal}

/-- A colon after a path is followed by a quantifier or by `count` and a test. -/
theorem Suffix.forced_colon (h : suffix.yield ++ after = .sign .colon :: next) :
    (∃ quantifier further, next = .sign (.quantifier quantifier) :: further) ∨
      ∃ test : Test, next = .name "count" :: (test.yield ++ after) := by
  cases suffix with
  | nonempty =>
      cases h
      exact .inl ⟨_, _, rfl⟩
  | quantified quantifier body =>
      cases h
      exact .inl ⟨_, _, rfl⟩
  | test counted test =>
      cases counted with
      | true =>
          cases h
          exact .inr ⟨test, rfl⟩
      | false =>
          obtain ⟨op, further, hfurther⟩ := test.starts h
          cases hfurther

/-- Without a colon it is a test that follows a path. -/
theorem Suffix.forced_test (hcolon : StopsAt .colon next) (h : suffix.yield ++ after = next) :
    ∃ test : Test, next = test.yield ++ after := by
  cases suffix with
  | nonempty => exact absurd (by rw [← h]; rfl) hcolon
  | quantified quantifier body => exact absurd (by rw [← h]; rfl) hcolon
  | test counted test =>
      cases counted with
      | true => exact absurd (by rw [← h]; rfl) hcolon
      | false => exact ⟨test, h.symm⟩

/-- A quantifier is followed by an opening parenthesis, and that by a closing one, which only `any`
allows, or by a body. -/
theorem Suffix.forced_quantifier
    (h : suffix.yield ++ after = .sign .colon :: .sign (.quantifier quantifier) :: next) :
    (quantifier = .any ∧ next = .sign .leftParen :: .sign .rightParen :: after) ∨
      ∃ body : Disjunction,
        next = .sign .leftParen :: (body.yield ++ .sign .rightParen :: after) := by
  cases suffix with
  | nonempty =>
      cases h
      exact .inl ⟨rfl, rfl⟩
  | quantified quantifier' body =>
      simp only [Suffix.yield, List.cons_append, List.append_assoc, List.nil_append] at h
      cases h
      exact .inr ⟨body, rfl⟩
  | test counted test => exact absurd h (Suffix.test_yield_ne _ _ _ _ _)

/-- What stands in the parentheses. -/
theorem Suffix.forced_body
    (hfront : terminals front =
      [.sign .colon, .sign (.quantifier quantifier), .sign .leftParen])
    (h : suffix.yield ++ after = terminals front ++ next) :
    (quantifier = .any ∧ next = .sign .rightParen :: after) ∨
      ∃ body : Disjunction, next = body.yield ++ .sign .rightParen :: after := by
  rw [hfront] at h
  rcases Suffix.forced_quantifier h with ⟨hany, hnext⟩ | ⟨body, hnext⟩
  · exact .inl ⟨hany, (List.cons_eq_cons.mp hnext).2⟩
  · exact .inr ⟨body, (List.cons_eq_cons.mp hnext).2⟩

/-- Any quantifier may have a body. -/
theorem Suffix.viable_quantified
    (hfront : terminals front =
      [.sign .colon, .sign (.quantifier quantifier), .sign .leftParen]) :
    Suffix.phrases.Viable (terminals front) := by
  refine ⟨.quantified quantifier .isNull, Disjunction.isNull.yield ++ [.sign .rightParen], ?_, ?_⟩
  · rw [hfront]
    rfl
  · exact allReadable_append.mpr ⟨Disjunction.allReadable_isNull, by simp [TokenKind.spelling]⟩

end Suffixes

/-- With its closing parenthesis the quantifier is over, and no modifier or name may follow. -/
theorem closed_settled (quantifier : Quantifier) (path : Path) (inner : Option Node)
    (suffix : Suffix) {read : List Token} (tokens : List Token)
    (hread : suffix.yield = terminals read ++ [.sign .rightParen])
    (hforced : ∀ (other : Suffix) (after next : List Terminal), EndsUnary after →
      StartsLike next tokens → other.yield ++ after = terminals read ++ next →
        ∃ further, next = .sign .rightParen :: further) :
    Suffix.phrases.Settled stop (read ++ tokens) (closed stop quantifier path inner tokens) := by
  refine .expect read ⟨suffix, _, hread, by simp [TokenKind.spelling]⟩ hforced ?_
  rintro text position left rfl
  rw [List.append_cons]
  have hyield : terminals (read ++ [⟨.rightParen, text, position⟩]) = suffix.yield := by
    rw [hread, terminals_append]
    rfl
  -- These tokens are a suffix by now, and a suffix is never the front of a longer one.
  generalize read ++ [⟨TokenKind.rightParen, text, position⟩] = whole at hyield ⊢
  have hviable : Suffix.phrases.Viable (terminals whole) :=
    ⟨suffix, [], by rw [hyield, List.append_nil]; rfl, allReadable_nil⟩
  have hunique (other : Suffix) (after next : List Terminal)
      (heq : other.yield ++ after = terminals whole ++ next) : after = next := by
    rw [hyield] at heq
    exact (other.yield_injective suffix heq).2
  split
  · refine .reject whole hviable ?_
    intro other after next hafter hnext heq
    rw [hunique other after next heq] at hafter
    exact hafter.colon hnext
  · refine .reject whole hviable ?_
    intro other after next hafter hnext heq
    rw [hunique other after next heq] at hafter
    exact hafter.dot hnext
  · refine .ok ⟨whole, suffix, rfl, hyield, ?_⟩
    intro other after next _ _ heq
    exact hunique other after next heq

/-- A quantifier after its opening parenthesis. -/
def opened (stop : Except LexError Token) (body : Rule Node) (quantifier : Quantifier)
    (path : Path) : Rule Node
  | ⟨.rightParen, text, position⟩ :: rest =>
    if quantifier = .all then reject stop .bodyRequired (⟨.rightParen, text, position⟩ :: rest)
    else closed stop quantifier path none (⟨.rightParen, text, position⟩ :: rest)
  | tokens => do
    let (node, rest) ← body tokens
    closed stop quantifier path (some node) rest

theorem quantified_eq (stop : Except LexError Token) (body : Rule Node) (quantifier : Quantifier)
    (path : Path) (tokens : List Token) : quantified stop body quantifier path tokens =
      expect stop .leftParen .quantifierNotOpened tokens >>= opened stop body quantifier path := by
  rw [quantified]
  congr 1
  funext rest
  split
  · rw [opened.eq_1]
    split
    · rw [reject_bind]
    · rfl
  · rename_i hparen
    rw [opened.eq_2 stop body quantifier path rest hparen]
    cases body rest <;> rfl

theorem opened_settled (hbody : Disjunction.phrases.Settles stop body)
    (quantifier : Quantifier) (path : Path) {front : List Token}
    (hfront : terminals front =
      [.sign .colon, .sign (.quantifier quantifier), .sign .leftParen]) (tokens : List Token) :
    Suffix.phrases.Settled stop (front ++ tokens) (opened stop body quantifier path tokens) := by
  unfold opened
  split
  · split
    · rename_i hall
      refine .reject front (Suffix.viable_quantified hfront) ?_
      intro suffix after next _ hnext heq
      rcases Suffix.forced_body hfront heq with ⟨hany, -⟩ | ⟨body, rfl⟩
      · cases hall.symm.trans hany
      · exact body.stopsAt_rightParen _ hnext
    · rename_i hany
      refine closed_settled quantifier path none .nonempty _ ?_ ?_
      · cases quantifier with
        | any =>
            rw [hfront]
            rfl
        | all => exact absurd rfl hany
      · intro suffix after next _ hnext heq
        rcases Suffix.forced_body hfront heq with ⟨-, rfl⟩ | ⟨body, rfl⟩
        · exact ⟨after, rfl⟩
        · exact absurd hnext (body.stopsAt_rightParen _)
  · rename_i hparen
    refine .bind front (hbody tokens) ⟨?_, ?_⟩ ?_
    · intro body
      refine ⟨.quantified quantifier body, [.sign .rightParen], ?_, by simp [TokenKind.spelling]⟩
      rw [hfront]
      rfl
    · intro suffix after next _ hnext heq
      rcases Suffix.forced_body hfront heq with ⟨-, rfl⟩ | ⟨body, rfl⟩
      · exact absurd rfl (hnext.stopsAt hparen)
      · exact ⟨body, _, endsDisjunction_rightParen, rfl⟩
    · rintro node left ⟨taken, body, rfl, hyield, hunique⟩
      rw [← List.append_assoc]
      refine closed_settled quantifier path (some node) (.quantified quantifier body) left ?_ ?_
      · rw [terminals_append, hyield, hfront]
        rfl
      · -- the body ends here in every suffix that goes on like this, so the parenthesis is next
        intro suffix after next _ hnext heq
        rw [terminals_append, List.append_assoc] at heq
        rcases Suffix.forced_body hfront heq with ⟨-, hclose⟩ | ⟨body', hclose⟩
        · rw [hyield] at hclose
          exact absurd (congrArg List.head? hclose) (body.stopsAt_rightParen next)
        · have hafter := hunique body' _ next endsDisjunction_rightParen hnext hclose.symm
          exact ⟨after, hafter.symm⟩

/-- A quantifier, after the tokens that name it. -/
theorem quantified_settled (hbody : Disjunction.phrases.Settles stop body)
    (quantifier : Quantifier) (path : Path) (front : List Token)
    (hfront : terminals front = [.sign .colon, .sign (.quantifier quantifier)])
    (tokens : List Token) :
    Suffix.phrases.Settled stop (front ++ tokens)
      (quantified stop body quantifier path tokens) := by
  rw [quantified_eq]
  refine .expect front ?_ ?_ ?_
  · rw [hfront]
    refine ⟨.quantified quantifier .isNull, _, rfl, ?_⟩
    simp [Disjunction.allReadable_isNull, TokenKind.spelling]
  · intro suffix after next _ _ heq
    rw [hfront] at heq
    rcases Suffix.forced_quantifier heq with ⟨-, hnext⟩ | ⟨body, hnext⟩
    · exact ⟨_, hnext⟩
    · exact ⟨_, hnext⟩
  · rintro text position left rfl
    rw [List.append_cons]
    refine opened_settled hbody quantifier path ?_ left
    rw [terminals_append, hfront]
    rfl

/-! ## What follows a path -/

section AfterPath

variable {front tokens : List Token}

/-- After `count` there is no way but a test. -/
theorem counted_forced (hfront : terminals front = [.sign .colon, .name "count"]) {suffix : Suffix}
    {after next : List Terminal} (h : suffix.yield ++ after = terminals front ++ next) :
    ∃ test : Test, next = test.yield ++ after := by
  rw [hfront] at h
  rcases Suffix.forced_colon h with ⟨quantifier, further, hnext⟩ | ⟨test, hnext⟩
  · cases hnext
  · exact ⟨test, (List.cons_eq_cons.mp hnext).2⟩

theorem counted_deadEnd (hfront : terminals front = [.sign .colon, .name "count"])
    (hop : ∀ op text position rest, tokens ≠ ⟨.operator op, text, position⟩ :: rest) :
    Suffix.phrases.DeadEnd (terminals front) tokens := by
  intro suffix after next _ hnext heq
  obtain ⟨test, htest⟩ := counted_forced hfront heq
  obtain ⟨op, further, rfl⟩ := test.starts htest.symm
  exact hnext.stopsAt (hop op) rfl

theorem counted_endsWith (hfront : terminals front = [.sign .colon, .name "count"]) :
    Suffix.phrases.EndsWith (terminals front) tokens Test.phrases where
  complete test := ⟨.test true test, by rw [hfront]; rfl⟩
  forced _ _ _ _ _ heq := ⟨trivial, counted_forced hfront heq⟩

theorem uncounted_endsWith
    (hcolon : ∀ text position rest, tokens ≠ ⟨.colon, text, position⟩ :: rest) :
    Suffix.phrases.EndsWith [] tokens Test.phrases where
  complete test := ⟨.test false test, rfl⟩
  forced _ _ _ _ hnext heq := ⟨trivial, Suffix.forced_test (hnext.stopsAt hcolon) heq⟩

/-- After a colon there is no way but a quantifier or `count`. -/
theorem colon_deadEnd (text : String) (position : Nat)
    (hquantifier : ∀ quantifier text position rest,
      tokens ≠ ⟨.quantifier quantifier, text, position⟩ :: rest)
    (hcount : ∀ position rest, tokens ≠ ⟨.identifier, "count", position⟩ :: rest) :
    Suffix.phrases.DeadEnd (terminals [⟨.colon, text, position⟩]) tokens := by
  intro suffix after next _ hnext heq
  rcases Suffix.forced_colon heq with ⟨quantifier, further, rfl⟩ | ⟨test, rfl⟩
  · exact hnext.stopsAt (hquantifier quantifier) rfl
  · obtain ⟨position, rest, hrest⟩ := hnext.exists_name
    exact hcount position rest hrest

end AfterPath

theorem afterPath_settled (hbody : Disjunction.phrases.Settles stop body) (path : Path) :
    Suffix.phrases.Settles stop (afterPath stop body path) := by
  intro tokens
  have hcolon : Suffix.phrases.Viable [.sign .colon] := by
    refine ⟨.nonempty, _, rfl, ?_⟩
    simp [TokenKind.spelling, Quantifier.text]
  unfold afterPath
  split
  · rename_i text position quantifier text' position' rest
    exact quantified_settled hbody quantifier path
      [⟨.colon, text, position⟩, ⟨.quantifier quantifier, text', position'⟩] rfl rest
  · rename_i text position name position' rest
    split
    · rename_i hname
      subst hname
      have hviable : Suffix.phrases.Viable [.sign .colon, .name "count"] :=
        ⟨.test true .isNull, Test.isNull.yield, rfl, Test.allReadable_isNull⟩
      -- The dot and the second colon have errors of their own.
      split
      · refine .reject [⟨.colon, text, position⟩, ⟨.identifier, "count", position'⟩] hviable
          (counted_deadEnd rfl ?_)
        rintro _ _ _ _ ⟨⟩
      · refine .reject [⟨.colon, text, position⟩, ⟨.identifier, "count", position'⟩] hviable
          (counted_deadEnd rfl ?_)
        rintro _ _ _ _ ⟨⟩
      · exact .after [⟨.colon, text, position⟩, ⟨.identifier, "count", position'⟩]
          (comparison_settled stop (.count path) rest) (counted_endsWith rfl)
    · rename_i hname
      refine .reject [⟨.colon, text, position⟩] hcolon (colon_deadEnd text position ?_ ?_)
      · rintro _ _ _ _ ⟨⟩
      · rintro _ _ ⟨⟩
        exact hname rfl
  · rename_i text position rest hquantifier hname
    refine .reject [⟨.colon, text, position⟩] hcolon (colon_deadEnd text position ?_ ?_)
    · rintro quantifier text' position' rest' rfl
      exact hquantifier _ _ _ _ rfl
    · rintro position' rest' rfl
      exact hname _ _ _ rfl
  · rename_i hcolon
    exact .after [] (comparison_settled stop (.path path) tokens) (uncounted_endsWith hcolon)

/-! ## Operands -/

section Operands

variable {operand : Unary} {after next : List Terminal}

theorem Unary.forced_not (h : operand.yield ++ after = .sign .not :: next) :
    ∃ inner : Unary, next = inner.yield ++ after := by
  cases operand with
  | not inner => exact ⟨inner, (List.cons_eq_cons.mp h).2.symm⟩
  | group inner => cases h
  | property names suffix => cases h

theorem Unary.forced_group (h : operand.yield ++ after = .sign .leftParen :: next) :
    ∃ inner : Disjunction, next = inner.yield ++ .sign .rightParen :: after := by
  cases operand with
  | not inner => cases h
  | group inner =>
      rw [Unary.yield, List.cons_append, List.append_assoc] at h
      exact ⟨inner, (List.cons_eq_cons.mp h).2.symm⟩
  | property names suffix => cases h

theorem Unary.forced_property {name : String} (h : operand.yield ++ after = .name name :: next) :
    ∃ names, ∃ suffix : Suffix, next = segmentPhrases.yield names ++ (suffix.yield ++ after) := by
  cases operand with
  | not inner => cases h
  | group inner => cases h
  | property names suffix =>
      rw [Unary.yield, List.append_assoc] at h
      exact ⟨names.further, suffix, (List.cons_eq_cons.mp h).2.symm⟩

end Operands

/-- A group, after its opening parenthesis. -/
theorem group_settled (hitem : Unary.phrases.Settles stop item)
    (text : String) (position : Nat) (tokens : List Token) :
    Unary.phrases.Settled stop (⟨.leftParen, text, position⟩ :: tokens) (do
      let (inner, rest) ← connected item tokens
      let rest ← expect stop .rightParen .groupNotClosed rest
      .ok (inner, rest)) := by
  refine .bind [⟨.leftParen, text, position⟩] (connected_settled hitem tokens) ⟨?_, ?_⟩ ?_
  · intro inner
    exact ⟨.group inner, [.sign .rightParen], rfl, by simp [TokenKind.spelling]⟩
  · intro operand after next _ _ heq
    obtain ⟨inner, hinner⟩ := Unary.forced_group heq
    exact ⟨inner, _, endsDisjunction_rightParen, hinner⟩
  · rintro node left ⟨taken, inner, rfl, hyield, hunique⟩
    have hgroup : (Unary.group inner).yield =
        terminals (⟨.leftParen, text, position⟩ :: taken) ++ [.sign .rightParen] :=
      congrArg (Terminal.sign .leftParen :: · ++ [.sign .rightParen]) hyield.symm
    refine .expect (⟨.leftParen, text, position⟩ :: taken) ?_ ?_ ?_
    · exact ⟨.group inner, _, hgroup, by simp [TokenKind.spelling]⟩
    · intro operand after next _ hnext heq
      obtain ⟨inner', hinner'⟩ := Unary.forced_group heq
      have hafter := hunique inner' _ next endsDisjunction_rightParen hnext hinner'.symm
      exact ⟨after, hafter.symm⟩
    · rintro text' position' rest rfl
      have hwhole : terminals
          (⟨.leftParen, text, position⟩ :: taken ++ [⟨.rightParen, text', position'⟩]) =
            (Unary.group inner).yield := by
        rw [hgroup, terminals_append]
        rfl
      refine .ok ⟨_, .group inner, List.append_cons .., hwhole, ?_⟩
      intro operand after next _ _ heq
      rw [hwhole] at heq
      exact (operand.yield_injective (.group inner) heq).2

/-- A property, after its first name. -/
theorem property_settled (hitem : Unary.phrases.Settles stop item)
    (name : String) (position : Nat) (tokens : List Token) :
    Unary.phrases.Settled stop (⟨.identifier, name, position⟩ :: tokens) (do
      let (names, rest) ← furtherSegments stop tokens
      afterPath stop (connected item) (name :: names) rest) := by
  refine .bind [⟨.identifier, name, position⟩] (furtherSegments_settled stop tokens) ⟨?_, ?_⟩ ?_
  · intro names
    exact ⟨.property ⟨name, names⟩ (.test false .isNull), _, rfl, Test.allReadable_isNull⟩
  · intro operand after next _ _ heq
    obtain ⟨names, suffix, hnext⟩ := Unary.forced_property heq
    exact ⟨names, _, suffix.stopsAt_dot after, hnext⟩
  · rintro path left ⟨taken, names, rfl, hyield, hunique⟩
    refine .after (⟨.identifier, name, position⟩ :: taken)
      (afterPath_settled (connected_settled hitem) _ left) ⟨?_, ?_⟩
    · intro suffix
      refine ⟨.property ⟨name, names⟩ suffix, ?_⟩
      exact congrArg (Terminal.name name :: · ++ suffix.yield) hyield.symm
    · intro operand after next hafter hnext heq
      obtain ⟨names', suffix, hrest⟩ := Unary.forced_property heq
      have hsuffix := hunique names' _ next (suffix.stopsAt_dot after) hnext hrest.symm
      exact ⟨hafter, suffix, hsuffix.symm⟩

/-- **An operand is taken, or refused at the first token out of place.** -/
theorem unary_settled (stop : Except LexError Token) (depth : Nat) :
    Unary.phrases.Settles stop (unary stop depth) := by
  intro tokens
  have hviable : Unary.phrases.Viable [] := Phrases.viable_nil .isNull Unary.allReadable_isNull
  -- The depth bounds the recursion; at its end the error is about the nesting.
  induction depth generalizing tokens with
  | zero => exact .reject_nesting hviable
  | succ depth ih =>
      unfold unary
      split
      · rename_i text position rest
        refine .map [⟨.not, text, position⟩] (ih rest) ⟨?_, ?_⟩
        · intro inner
          exact ⟨.not inner, rfl⟩
        · intro operand after next hafter _ heq
          exact ⟨hafter, Unary.forced_not heq⟩
      · exact group_settled ih _ _ _
      · exact property_settled ih _ _ _
      · rename_i hnot hparen hname
        refine .reject [] hviable ?_
        intro operand after next _ hnext heq
        obtain ⟨terminal, further, hyield, hterminal⟩ := operand.yield_cons
        obtain rfl : terminal :: (further ++ after) = next := by
          rw [← show _ = next from heq]
          exact congrArg (· ++ after) hyield.symm
        rcases hterminal with rfl | rfl | ⟨name, rfl⟩
        · exact hnext.stopsAt hnot rfl
        · exact hnext.stopsAt hparen rfl
        · obtain ⟨position, rest, hrest⟩ := hnext.exists_name
          exact hname _ _ _ hrest

end Rules

/-! ## Whole texts -/

/-- A disjunction that nothing follows. -/
def sentencePhrases : Phrases Disjunction := ⟨Disjunction.yield, fun after => after = []⟩

/-- All tokens have to be taken: what is left over is out of place, but for the lexical error that
may end a text. -/
theorem whole_diagnosed {stop : Except LexError Token} {tokens : List Token} {error : ParseError}
    (h : whole stop tokens = .error error) : sentencePhrases.Diagnosed stop tokens error := by
  have hsettled := connected_settled (unary_settled stop maxNesting) tokens
  unfold whole at h
  cases hread : connected (unary stop maxNesting) tokens with
  | error e =>
      rw [hread] at h
      cases h
      refine .after [] ⟨?_, ?_⟩ (hsettled.fails error hread)
      · intro phrase
        exact ⟨phrase, [], (List.append_nil _).symm, allReadable_nil⟩
      · rintro phrase after next rfl _ heq
        exact ⟨phrase, [], endsDisjunction_nil, heq.symm⟩
  | ok result =>
      obtain ⟨node, rest⟩ := result
      obtain ⟨read, phrase, rfl, hyield, hunique⟩ := hsettled.takes node rest hread
      rw [hread] at h
      dsimp only [bind, Except.bind] at h
      have hviable : sentencePhrases.Viable (terminals read) :=
        ⟨phrase, [], by rw [hyield, List.append_nil]; rfl, allReadable_nil⟩
      split at h
      · cases h
      · rename_i hend
        -- A sentence was read. A token after it cannot belong to any other sentence.
        rw [reject_eq] at h
        cases h
        refine ⟨read, rest, _, rfl, rfl, hviable, ?_⟩
        rintro hfault other after next rfl hnext heq
        obtain rfl := hunique other [] next endsDisjunction_nil hnext heq
        cases rest with
        | cons token rest => cases hnext
        | nil =>
            cases stop with
            | ok last => exact hend last rfl rfl
            | error e => exact hfault

/-! ## The first token out of place -/

/-- The tokens of the text that are not white space, up to its end or to its first lexical error. -/
def visibleTokens (text : String) : List Token :=
  (lex text).1.filter fun token => token.kind ≠ .whitespace

/-- The grammar derives the tokens, however deeply their operands are nested. -/
def IsSentence (tokens : List Token) : Prop :=
  ∃ derivation : Disjunction, derivation.yield = terminals tokens

/-- Some tokens, each of which a text can have, complete these to a sentence. -/
def Continuable (tokens : List Token) : Prop :=
  ∃ more : List Token, (∀ token ∈ more, token.terminal.IsReadable) ∧ IsSentence (tokens ++ more)

/-- What stands before the token can be continued to a sentence, but not with the token; where the
token is the end of the text, it is the whole text that can be continued and is no sentence. -/
inductive FirstOffence (text : String) : Token → Prop where
  | inside {before after : List Token} {token : Token}
      (htext : visibleTokens text = before ++ token :: after) (hbefore : Continuable before)
      (hnone : ∀ more, ¬IsSentence (before ++ token :: more)) : FirstOffence text token
  | atEnd {token : Token} (hend : (lex text).2 = .ok token)
      (hbefore : Continuable (visibleTokens text)) (hnone : ¬IsSentence (visibleTokens text)) :
      FirstOffence text token

theorem exists_tokens {words : List Terminal} (h : AllReadable words) :
    ∃ tokens : List Token,
      terminals tokens = words ∧ ∀ token ∈ tokens, token.terminal.IsReadable := by
  induction words with
  | nil => exact ⟨[], rfl, List.forall_mem_nil _⟩
  | cons word words ih =>
      obtain ⟨hword, hwords⟩ := allReadable_cons.mp h
      obtain ⟨tokens, rfl, htokens⟩ := ih hwords
      have hone : ∃ token : Token, token.terminal = word := by
        cases word with
        | sign kind => exact ⟨⟨kind, kind.spelling, 0⟩, TokenKind.terminal_of_spelling hword _ _⟩
        | name text => exact ⟨⟨.identifier, text, 0⟩, rfl⟩
        | number text => exact ⟨⟨.number, text, 0⟩, rfl⟩
        | string text => exact ⟨⟨.string, text, 0⟩, rfl⟩
      obtain ⟨token, rfl⟩ := hone
      exact ⟨token :: tokens, rfl, List.forall_mem_cons.mpr ⟨hword, htokens⟩⟩

theorem continuable_of_viable {tokens : List Token}
    (h : sentencePhrases.Viable (terminals tokens)) : Continuable tokens := by
  obtain ⟨derivation, words, hyield, hwords⟩ := h
  obtain ⟨more, rfl, hmore⟩ := exists_tokens hwords
  exact ⟨more, hmore, derivation, by rw [terminals_append]; exact hyield⟩

theorem not_isSentence_of_deadEnd {before rest more : List Token}
    (h : sentencePhrases.DeadEnd (terminals before) rest)
    (hmore : StartsLike (terminals more) rest) : ¬IsSentence (before ++ more) := by
  rintro ⟨derivation, hyield⟩
  refine h derivation [] (terminals more) rfl hmore ?_
  rw [List.append_nil, ← terminals_append]
  exact hyield

theorem not_continuable {before after : List Token} {token : Token}
    (h : ∀ more, ¬IsSentence (before ++ token :: more)) :
    ¬Continuable (before ++ token :: after) := by
  rintro ⟨more, -, hmore⟩
  rw [List.append_assoc] at hmore
  exact h _ hmore

/-- Where all tokens up to a lexical error can be continued, none of them is out of place. -/
theorem Continuable.not_firstOffence {text : String} {e : LexError}
    (h : Continuable (visibleTokens text)) (hlex : (lex text).2 = .error e) (token : Token) :
    ¬FirstOffence text token := by
  rintro (⟨htext, -, hnone⟩ | ⟨hend, -, -⟩)
  · rw [htext] at h
    exact not_continuable hnone h
  · cases hlex.symm.trans hend

/-- What can be continued does not go beyond a token out of place. -/
theorem offence_eq {before later after after' : List Token} {a b : Token}
    (hlater : Continuable (before ++ later)) (hnone : ∀ more, ¬IsSentence (before ++ a :: more))
    (h : a :: after = later ++ b :: after') : a = b := by
  cases later with
  | nil => exact (List.cons_eq_cons.mp h).1
  | cons token later =>
      obtain rfl := (List.cons_eq_cons.mp h).1
      exact absurd hlater (not_continuable hnone)

/-- **No text has two first tokens out of place.** -/
theorem FirstOffence.unique {text : String} {a b : Token} (ha : FirstOffence text a)
    (hb : FirstOffence text b) : a = b := by
  cases ha with
  | inside htext hbefore hnone =>
      cases hb with
      | inside htext' hbefore' hnone' =>
          -- One of the two stands no later in the text than the other.
          rcases List.append_eq_append_iff.mp (htext.symm.trans htext') with
            ⟨later, rfl, hlater⟩ | ⟨later, rfl, hlater⟩
          · exact offence_eq hbefore' hnone hlater
          · exact (offence_eq hbefore hnone' hlater).symm
      | atEnd hend hbefore' hnone' =>
          rw [htext] at hbefore'
          exact absurd hbefore' (not_continuable hnone)
  | atEnd hend hbefore hnone =>
      cases hb with
      | inside htext' hbefore' hnone' =>
          rw [htext'] at hbefore
          exact absurd hbefore (not_continuable hnone')
      | atEnd hend' hbefore' hnone' => exact Except.ok.inj (hend.symm.trans hend')

/-- What is behind an error: a token out of place, or a lexical error with none before it. -/
theorem error_cases {text : String} {error : ParseError} (h : parse text = .error error)
    (hnesting : ∀ token, error ≠ .grammatical ⟨.nestedTooDeeply, token⟩) :
    (∃ e, error = .grammatical e ∧ FirstOffence text e.token) ∨
      ∃ e, error = .lexical e ∧ (lex text).2 = .error e ∧ Continuable (visibleTokens text) := by
  rw [parse_eq_whole] at h
  obtain ⟨before, rest, cause, htext, herror, hviable, hdead⟩ := whole_diagnosed h
  have hbefore := continuable_of_viable hviable
  have hfault {token : Token} (heq : error = .grammatical ⟨cause, token⟩) : error.IsFault := by
    rw [heq]
    rintro rfl
    exact hnesting token heq
  cases rest with
  | cons token rest =>
      refine .inl ⟨⟨cause, token⟩, herror, .inside htext hbefore ?_⟩
      intro more
      exact not_isSentence_of_deadEnd (hdead (hfault herror)) (StartsLike.cons ..)
  | nil =>
      have htext : visibleTokens text = before := htext.trans (List.append_nil _)
      cases hstop : (lex text).2 with
      | error e =>
          rw [hstop] at herror
          exact .inr ⟨e, herror, rfl, htext ▸ hbefore⟩
      | ok last =>
          rw [hstop] at herror
          refine .inl ⟨⟨cause, last⟩, herror, .atEnd hstop (htext ▸ hbefore) ?_⟩
          have hnone := not_isSentence_of_deadEnd (hdead (hfault herror)) (StartsLike.refl [])
          rwa [List.append_nil, ← htext] at hnone

/-- **The error of a text that cannot be parsed is about the first token out of place.** Unless the
nesting is the reason, a syntax error names the token before which the text can be continued to a
filter and with which it cannot, and before a lexical error all tokens can be continued to one. So a
lexical error is reported just if the text has one and no token before it is out of place. -/
theorem earliest_offence (text : String) (error : ParseError) (h : parse text = .error error)
    (hnesting : ∀ token, error ≠ .grammatical ⟨.nestedTooDeeply, token⟩) :
    (∀ e, error = .grammatical e → FirstOffence text e.token) ∧
      (∀ e, error = .lexical e → (lex text).2 = .error e ∧ Continuable (visibleTokens text)) ∧
      ((∃ e, error = .lexical e) ↔
        (∃ e, (lex text).2 = .error e) ∧ ∀ token, ¬FirstOffence text token) := by
  rcases error_cases h hnesting with ⟨e, rfl, hoffence⟩ | ⟨e, rfl, hlex, hcontinuable⟩
  · refine ⟨?_, ?_, ?_, ?_⟩
    · rintro _ ⟨⟩
      exact hoffence
    · rintro _ ⟨⟩
    · rintro ⟨_, ⟨⟩⟩
    · rintro ⟨-, hnone⟩
      exact absurd hoffence (hnone e.token)
  · refine ⟨?_, ?_, ?_, ?_⟩
    · rintro _ ⟨⟩
    · rintro _ ⟨⟩
      exact ⟨hlex, hcontinuable⟩
    · intro _
      exact ⟨⟨e, hlex⟩, hcontinuable.not_firstOffence hlex⟩
    · intro _
      exact ⟨e, rfl⟩

/-- A list where a single literal is expected, and a text that ends with half a number. -/
theorem earliest_offence_bracket :
    parse "a == [" = .error (.grammatical ⟨.listNotAllowed, ⟨.leftBracket, "[", 5⟩⟩) ∧
      FirstOffence "a == [" ⟨.leftBracket, "[", 5⟩ ∧
      parse "a == 1." = .error (.lexical (.malformedNumber "1." 5)) ∧
      Continuable (visibleTokens "a == 1.") := by
  have hbracket : parse "a == [" =
      .error (.grammatical ⟨.listNotAllowed, ⟨.leftBracket, "[", 5⟩⟩) := by cbv
  have hnumber : parse "a == 1." = .error (.lexical (.malformedNumber "1." 5)) := by cbv
  have hfirst := earliest_offence _ _ hbracket (by rintro _ ⟨⟩)
  have hsecond := earliest_offence _ _ hnumber (by rintro _ ⟨⟩)
  exact ⟨hbracket, hfirst.1 _ rfl, hnumber, (hsecond.2.1 _ rfl).2⟩

end RecordQuery.Filter
