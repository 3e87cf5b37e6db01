import RecordQuery.Proofs.Filter.EarliestError
import RecordQuery.Proofs.Filter.Layout
import RecordQuery.Proofs.Filter.Tiling

/-!
# `Proofs.Filter.Places` — the layout of a filter does not matter

No rule of the parser looks at the place of a token. So a rule does with tokens that have lost their
places what it does with the tokens (`Mirrors`), where an error still names its token, but not the
place of it, and not the place of a bracket that was not closed. Each rule is built from rules that
do, by `expect`, `reject` and sequence.

A token is read again from its own characters wherever white space or the end follows them. Hence a
text can be spread out without changing what it says.

## Contents
- `SyntaxCause.unplaced`, `ParseError.unplaced`, `placeless`: results without places.
- `Mirrors`, `bind_placeless`, `reject_placeless`: what rules are built from.
- `furtherSegments_mirrors` … `unary_mirrors`, `whole_placeless`: **no rule looks at places.**
- `Spread`, `Spread.layout`: slices of a text with white space between them.
- `parse_respaced`: **a text that is spread out has the same tokens and the same tree or error.**
-/

namespace RecordQuery.Filter

open Text

/-! ## Results without places -/

/-- The cause without the place of the bracket that was not closed. -/
def SyntaxCause.unplaced : SyntaxCause → SyntaxCause
  | listNotClosed _ => listNotClosed 0
  | cause => cause

/-- The error without the places that it names; a lexical error is left as it is. -/
def ParseError.unplaced : ParseError → ParseError
  | lexical e => .lexical e
  | grammatical e => .grammatical ⟨e.cause.unplaced, e.token.unplaced⟩

/-- The result without places; `erase` takes them from what was read. -/
def placeless {α : Type} (erase : α → α) : Except ParseError α → Except ParseError α
  | .ok a => .ok (erase a)
  | .error e => .error e.unplaced

/-- What was read, and the tokens that are left without their places. -/
def leave {α : Type} : α × List Token → α × List Token := Prod.map id (List.map Token.unplaced)

/-- The second rule does with tokens that have lost their places what the first one does. -/
def Mirrors {α : Type} (rule rule' : Rule α) : Prop :=
  ∀ tokens, rule' (tokens.map Token.unplaced) = placeless leave (rule tokens)

section Rules

variable {α β : Type} {erase : α → α} {erase' : β → β} {stop : Except LexError Token}
  {cause : SyntaxCause} {tokens : List Token}

theorem bind_placeless {x x' : Except ParseError α} {f f' : α → Except ParseError β}
    (hx : x' = placeless erase x) (hf : ∀ a, f' (erase a) = placeless erase' (f a)) :
    x' >>= f' = placeless erase' (x >>= f) := by
  subst hx
  cases x with
  | error e => rfl
  | ok a => exact hf a

theorem reject_placeless {x : Except ParseError α}
    (h : x = reject (stop.map Token.unplaced) cause.unplaced (tokens.map Token.unplaced)) :
    x = placeless erase (reject stop cause tokens) := by
  subst h
  cases tokens with
  | nil => cases stop <;> rfl
  | cons token rest => rfl

theorem expect_placeless (stop : Except LexError Token) (kind : TokenKind) (cause : SyntaxCause)
    (tokens : List Token) :
    expect (stop.map Token.unplaced) kind cause.unplaced (tokens.map Token.unplaced) =
      placeless (List.map Token.unplaced) (expect stop kind cause tokens) := by
  fun_cases expect stop kind cause tokens with
  | case1 token rest hkind => exact if_pos hkind
  | case2 token rest hkind => exact reject_placeless (if_neg hkind)
  | case3 => exact reject_placeless rfl

/-! ## Leaves

A rule looks at the kinds of one token or two, and at the text of a name. In the last of its cases
the tokens start with none of the kinds that the others have. -/

theorem furtherSegments_mirrors (stop : Except LexError Token) :
    Mirrors (furtherSegments stop) (furtherSegments (stop.map Token.unplaced)) := by
  intro tokens
  fun_induction furtherSegments stop tokens with
  | case1 text position name position' rest ih => exact bind_placeless ih fun _ => rfl
  | case2 text position rest hname =>
      rcases rest with _ | ⟨⟨kind, name, position'⟩, rest⟩
      · exact reject_placeless rfl
      · cases kind with
        | identifier => exact absurd rfl (hname _ _ _)
        | _ => exact reject_placeless rfl
  | case3 tokens hname hdot =>
      rcases tokens with _ | ⟨⟨kind, text, position⟩, rest⟩
      · rfl
      · cases kind with
        | dot => exact absurd rfl (hdot _ _ _)
        | _ => rfl

theorem Literal.ofToken?_unplaced (token : Token) : ofToken? token.unplaced = ofToken? token := rfl

theorem listItems_mirrors (stop : Except LexError Token) (opened : Nat) :
    Mirrors (listItems stop opened) (listItems (stop.map Token.unplaced) 0) := by
  intro tokens
  fun_induction listItems stop opened tokens with
  | case1 => exact reject_placeless rfl
  | case2 token rest hitem =>
      rw [List.map_cons, listItems, Literal.ofToken?_unplaced, hitem]
      exact reject_placeless rfl
  | case3 token item hitem =>
      rw [List.map_cons, listItems, Literal.ofToken?_unplaced, hitem]
      exact reject_placeless rfl
  | case4 token item hitem text position rest =>
      rw [List.map_cons, listItems, Literal.ofToken?_unplaced, hitem]
      rfl
  | case5 token item hitem text position rest ih =>
      rw [List.map_cons, listItems, Literal.ofToken?_unplaced, hitem]
      exact bind_placeless ih fun _ => rfl
  | case6 token item hitem other rest hclose hcomma =>
      rw [List.map_cons, listItems, Literal.ofToken?_unplaced, hitem]
      obtain ⟨kind, text, position⟩ := other
      cases kind with
      | rightBracket => exact absurd rfl (hclose _ _)
      | comma => exact absurd rfl (hcomma _ _)
      | _ => exact reject_placeless rfl

theorem listLiteral_mirrors (stop : Except LexError Token) :
    Mirrors (listLiteral stop) (listLiteral (stop.map Token.unplaced)) := by
  intro tokens
  fun_cases listLiteral stop tokens with
  | case1 => rfl
  | case2 text opened rest hclose =>
      have hitems := listItems_mirrors stop opened rest
      rcases rest with _ | ⟨⟨kind, text', position⟩, rest⟩
      · exact bind_placeless hitems fun _ => rfl
      · cases kind with
        | rightBracket => exact absurd rfl (hclose _ _ _)
        | _ => exact bind_placeless hitems fun _ => rfl
  | case3 tokens hempty hopen =>
      rcases tokens with _ | ⟨⟨kind, text, position⟩, rest⟩
      · exact reject_placeless rfl
      · cases kind with
        | leftBracket => exact absurd rfl (hopen _ _ _)
        | _ => exact reject_placeless rfl

theorem scalarLiteral_mirrors (stop : Except LexError Token) :
    Mirrors (scalarLiteral stop) (scalarLiteral (stop.map Token.unplaced)) := by
  intro tokens
  fun_cases scalarLiteral stop tokens with
  | case1 => exact reject_placeless rfl
  | case2 token rest literal hliteral =>
      rw [List.map_cons, scalarLiteral, Literal.ofToken?_unplaced, hliteral]
      rfl
  | case3 token rest hliteral hopen =>
      rw [List.map_cons, scalarLiteral, Literal.ofToken?_unplaced, hliteral]
      exact reject_placeless (if_pos hopen)
  | case4 token rest hliteral hopen =>
      rw [List.map_cons, scalarLiteral, Literal.ofToken?_unplaced, hliteral]
      exact reject_placeless (if_neg hopen)

theorem caseFlag_mirrors (stop : Except LexError Token) :
    Mirrors (caseFlag stop) (caseFlag (stop.map Token.unplaced)) := by
  intro tokens
  fun_cases caseFlag stop tokens with
  | case1 => rfl
  | case2 text position name position' rest hname => exact reject_placeless (if_neg hname)
  | case3 text position rest hname =>
      rcases rest with _ | ⟨⟨kind, name, position'⟩, rest⟩
      · exact reject_placeless rfl
      · cases kind with
        | identifier => exact absurd rfl (hname _ _ _)
        | _ => exact reject_placeless rfl
  | case4 tokens hname hcolon =>
      rcases tokens with _ | ⟨⟨kind, text, position⟩, rest⟩
      · rfl
      · cases kind with
        | colon => exact absurd rfl (hcolon _ _ _)
        | _ => rfl

theorem comparison_mirrors (stop : Except LexError Token) (left : Subject) :
    Mirrors (comparison stop left) (comparison (stop.map Token.unplaced) left) := by
  intro tokens
  fun_cases comparison stop left tokens with
  | case1 op text position rest =>
      -- the operator alone decides between a list and a single literal
      refine bind_placeless (caseFlag_mirrors stop rest) fun ⟨ignoreCase, rest⟩ => ?_
      dsimp only [leave, Prod.map]
      split
      · exact bind_placeless (listLiteral_mirrors stop rest) fun _ => rfl
      · exact bind_placeless (scalarLiteral_mirrors stop rest) fun _ => rfl
  | case2 tokens hop =>
      rcases tokens with _ | ⟨⟨kind, text, position⟩, rest⟩
      · exact reject_placeless rfl
      · cases kind with
        | operator => exact absurd rfl (hop _ _ _ _)
        | _ => exact reject_placeless rfl

/-! ## Chains -/

section Chains

variable {item item' : Rule Node}

theorem Mirrors.chain (h : Mirrors item item') (separator : TokenKind) :
    Mirrors (chain separator item) (chain separator item') := by
  intro tokens
  -- Losing their places does not make the tokens fewer.
  have hfewer (tokens rest : List Token) : (rest.map Token.unplaced).length <
      (tokens.map Token.unplaced).length ↔ rest.length < tokens.length := by
    rw [List.length_map, List.length_map]
  fun_induction Filter.chain separator item tokens with
  | case1 tokens e hread =>
      rw [Filter.chain, h, hread]
      rfl
  | case2 tokens node hread =>
      rw [Filter.chain, h, hread]
      rfl
  | case3 tokens node token rest hread hstep e hrest ih =>
      rw [Filter.chain, h, hread]
      refine (if_pos ⟨hstep.1, (hfewer tokens rest).mpr hstep.2⟩).trans ?_
      rw [ih, hrest]
      rfl
  | case4 tokens node token rest hread hstep nodes left hrest ih =>
      rw [Filter.chain, h, hread]
      refine (if_pos ⟨hstep.1, (hfewer tokens rest).mpr hstep.2⟩).trans ?_
      rw [ih, hrest]
      rfl
  | case5 tokens node token rest hread hstep =>
      rw [Filter.chain, h, hread]
      exact if_neg fun hmore => hstep ⟨hmore.1, (hfewer tokens rest).mp hmore.2⟩

theorem Mirrors.joined (h : Mirrors item item') (connective : Connective) :
    Mirrors (joined connective item) (joined connective item') :=
  fun tokens => bind_placeless (h.chain connective.kind tokens) fun _ => rfl

theorem Mirrors.connected (h : Mirrors item item') : Mirrors (connected item) (connected item') :=
  (h.joined .and).joined .or

end Chains

/-! ## Operands -/

section Operands

variable {body body' : Rule Node}

theorem closed_mirrors (stop : Except LexError Token) (quantifier : Quantifier) (path : Path)
    (inner : Option Node) : Mirrors (closed stop quantifier path inner)
      (closed (stop.map Token.unplaced) quantifier path inner) := by
  intro tokens
  have hclose := expect_placeless stop .rightParen .quantifierNotClosed tokens
  refine bind_placeless hclose fun rest => ?_
  rcases rest with _ | ⟨⟨kind, text, position⟩, rest⟩
  · rfl
  · cases kind with
    | colon => exact reject_placeless rfl
    | dot => exact reject_placeless rfl
    | _ => rfl

theorem opened_mirrors (hbody : Mirrors body body') (stop : Except LexError Token)
    (quantifier : Quantifier) (path : Path) : Mirrors (opened stop body quantifier path)
      (opened (stop.map Token.unplaced) body' quantifier path) := by
  intro tokens
  fun_cases opened stop body quantifier path tokens with
  | case1 text position rest hall => exact reject_placeless (if_pos hall)
  | case2 text position rest hany =>
      exact (if_neg hany).trans
        (closed_mirrors stop quantifier path none (⟨.rightParen, text, position⟩ :: rest))
  | case3 tokens hclose =>
      have hnode := hbody tokens
      have hclosed (node : Node) := closed_mirrors stop quantifier path (some node)
      rcases tokens with _ | ⟨⟨kind, text, position⟩, rest⟩
      · exact bind_placeless hnode fun (node, rest) => hclosed node rest
      · cases kind with
        | rightParen => exact absurd rfl (hclose _ _ _)
        | _ => exact bind_placeless hnode fun (node, rest) => hclosed node rest

theorem quantified_mirrors (hbody : Mirrors body body') (stop : Except LexError Token)
    (quantifier : Quantifier) (path : Path) : Mirrors (quantified stop body quantifier path)
      (quantified (stop.map Token.unplaced) body' quantifier path) := by
  intro tokens
  rw [quantified_eq, quantified_eq]
  exact bind_placeless (expect_placeless stop .leftParen .quantifierNotOpened tokens)
    (opened_mirrors hbody stop quantifier path)

theorem afterPath_mirrors (hbody : Mirrors body body') (stop : Except LexError Token)
    (path : Path) : Mirrors (afterPath stop body path)
      (afterPath (stop.map Token.unplaced) body' path) := by
  intro tokens
  fun_cases afterPath stop body path tokens with
  | case1 text position quantifier text' position' rest =>
      exact quantified_mirrors hbody stop quantifier path rest
  | case2 => exact reject_placeless rfl
  | case3 => exact reject_placeless rfl
  | case4 text position position' rest hdot hcolon =>
      have hcount := comparison_mirrors stop (.count path) rest
      rcases rest with _ | ⟨⟨kind, text', position''⟩, rest⟩
      · exact hcount
      · cases kind with
        | dot => exact absurd rfl (hdot _ _ _)
        | colon => exact absurd rfl (hcolon _ _ _)
        | _ => exact hcount
  | case5 text position name position' rest hname => exact reject_placeless (if_neg hname)
  | case6 text position rest hquantifier hname =>
      rcases rest with _ | ⟨⟨kind, name, position'⟩, rest⟩
      · exact reject_placeless rfl
      · cases kind with
        | quantifier => exact absurd rfl (hquantifier _ _ _ _)
        | identifier => exact absurd rfl (hname _ _ _)
        | _ => exact reject_placeless rfl
  | case7 tokens hquantifier hname hcolon =>
      have htest := comparison_mirrors stop (.path path) tokens
      rcases tokens with _ | ⟨⟨kind, text, position⟩, rest⟩
      · exact htest
      · cases kind with
        | colon => exact absurd rfl (hcolon _ _ _)
        | _ => exact htest

theorem unary_mirrors (stop : Except LexError Token) (depth : Nat) :
    Mirrors (unary stop depth) (unary (stop.map Token.unplaced) depth) := by
  -- What is inside of parentheses or behind a negation has one level less.
  induction depth using Nat.strongRecOn with
  | _ depth ih =>
      intro tokens
      fun_cases unary stop depth tokens with
      | case1 => exact reject_placeless rfl
      | case2 depth text position rest =>
          exact bind_placeless (ih depth (Nat.lt_succ_self _) rest) fun _ => rfl
      | case3 depth text position rest =>
          have hinner := (ih depth (Nat.lt_succ_self _)).connected
          refine bind_placeless (hinner rest) fun (inner, rest) => ?_
          exact bind_placeless (expect_placeless stop .rightParen .groupNotClosed rest) fun _ => rfl
      | case4 depth name position rest =>
          have hbody := (ih depth (Nat.lt_succ_self _)).connected
          exact bind_placeless (furtherSegments_mirrors stop rest)
            fun (names, rest) => afterPath_mirrors hbody stop (name :: names) rest
      | case5 depth tokens hnot hopen hname =>
          rcases tokens with _ | ⟨⟨kind, text, position⟩, rest⟩
          · exact reject_placeless rfl
          · cases kind with
            | not => exact absurd rfl (hnot _ _ _)
            | leftParen => exact absurd rfl (hopen _ _ _)
            | identifier => exact absurd rfl (hname _ _ _)
            | _ => exact reject_placeless rfl

/-- **No rule looks at places.** -/
theorem whole_placeless (stop : Except LexError Token) (tokens : List Token) :
    whole (stop.map Token.unplaced) (tokens.map Token.unplaced) =
      placeless id (whole stop tokens) := by
  refine bind_placeless ((unary_mirrors stop maxNesting).connected tokens) fun (node, rest) => ?_
  cases rest with
  | nil =>
      cases stop with
      | error e => rfl
      | ok last => rfl
  | cons token rest => exact reject_placeless rfl

end Operands
end Rules

/-! ## Texts -/

/-- A syntax error in a text that lexes is about a token. -/
theorem exists_syntaxError {text : String} {last : Token} {error : ParseError}
    (hlex : (lex text).2 = .ok last) (h : parse text = .error error) :
    ∃ e, error = .grammatical e := by
  rw [parse_eq_whole, hlex] at h
  obtain ⟨-, rest, cause, -, rfl, -⟩ := whole_diagnosed h
  cases rest with
  | nil => exact ⟨_, rfl⟩
  | cons token rest => exact ⟨_, rfl⟩

/-- The same tree, or the same complaint about a token of the same kind and text. Of a list that is
not closed the complaints may name different places. -/
inductive SameReading : Except ParseError Node → Except ParseError Node → Prop where
  | tree (node : Node) : SameReading (.ok node) (.ok node)
  | complaint {e e' : SyntaxError}
      (cause : e.cause = e'.cause ∨
        ∃ opened opened', e.cause = .listNotClosed opened ∧ e'.cause = .listNotClosed opened')
      (kind : e.token.kind = e'.token.kind) (text : e.token.text = e'.token.text) :
      SameReading (.error (.grammatical e)) (.error (.grammatical e'))

theorem SyntaxCause.eq_of_unplaced {cause cause' : SyntaxCause}
    (h : cause.unplaced = cause'.unplaced) : cause = cause' ∨
      ∃ opened opened', cause = .listNotClosed opened ∧ cause' = .listNotClosed opened' := by
  cases cause with
  | listNotClosed opened =>
      cases cause' with
      | listNotClosed opened' => exact .inr ⟨opened, opened', rfl, rfl⟩
      | _ => cases h
  | _ =>
    cases cause' with
    | listNotClosed opened' => cases h
    | _ => exact .inl h

theorem SyntaxError.sameReading {e e' : SyntaxError}
    (h : (ParseError.grammatical e).unplaced = (ParseError.grammatical e').unplaced) :
    SameReading (.error (.grammatical e)) (.error (.grammatical e')) := by
  obtain ⟨hcause, htoken⟩ := SyntaxError.mk.inj (ParseError.grammatical.inj h)
  exact .complaint (SyntaxCause.eq_of_unplaced hcause)
    (congrArg Token.kind htoken : e.token.unplaced.kind = _)
    (congrArg Token.text htoken : e.token.unplaced.text = _)

/-- Texts with the same tokens, but for their places, are read in the same way. -/
theorem sameReading_of_unplaced {text other : String} {last last' : Token}
    (htext : (lex text).2 = .ok last) (hother : (lex other).2 = .ok last')
    (htokens : (visibleTokens other).map Token.unplaced = (visibleTokens text).map Token.unplaced) :
    SameReading (parse text) (parse other) := by
  -- Both stop at the end of the text, wherever that is.
  have hlast : last.unplaced = last'.unplaced := by
    rw [(lex_last htext).1, (lex_last hother).1]
    rfl
  have hreading : placeless id (parse text) = placeless id (parse other) := by
    rw [parse_eq_whole, parse_eq_whole, ← whole_placeless, ← whole_placeless, htext, hother]
    show whole (.ok last.unplaced) ((visibleTokens text).map _) =
      whole (.ok last'.unplaced) ((visibleTokens other).map _)
    rw [hlast, htokens]
  cases hparse : parse text with
  | ok node =>
      cases hparse' : parse other with
      | ok node' =>
          rw [hparse, hparse'] at hreading
          cases hreading
          exact .tree node
      | error error =>
          rw [hparse, hparse'] at hreading
          cases hreading
  | error error =>
      cases hparse' : parse other with
      | ok node =>
          rw [hparse, hparse'] at hreading
          cases hreading
      | error error' =>
          obtain ⟨e, rfl⟩ := exists_syntaxError htext hparse
          obtain ⟨e', rfl⟩ := exists_syntaxError hother hparse'
          rw [hparse, hparse'] at hreading
          exact SyntaxError.sameReading (Except.error.inj hreading)

/-! ## Slices spread out -/

/-- The slices, with white space after each of them; only the last need not have any. -/
inductive Spread : List (List Char) → List Char → Prop where
  | nil : Spread [] []
  | cons {slice gap rest : List Char} {slices : List (List Char)}
      (blank : ∀ c ∈ gap, isBlank c = true) (apart : slices ≠ [] → gap ≠ [])
      (more : Spread slices rest) : Spread (slice :: slices) (slice ++ (gap ++ rest))

/-- The other text has the characters of the tokens of the text, but for its white space, and white
space of its own between them and perhaps around them. -/
def Respaced (text other : String) : Prop :=
  ∃ gap rest, other.toList = gap ++ rest ∧ (∀ c ∈ gap, isBlank c = true) ∧
    Spread (((pieces text).filter fun piece => piece.token.kind ≠ .whitespace).map Piece.slice) rest

/-- **Lexemes may be spread out.** -/
theorem Spread.layout {pieces : List Piece} {cs : List Char}
    (h : Spread (pieces.map Piece.slice) cs)
    (hlexeme : ∀ piece ∈ pieces, Lexeme piece.token.kind piece.token.text.toList piece.slice)
    (hvisible : ∀ piece ∈ pieces, piece.token.kind ≠ .whitespace) :
    Layout (pieces.map Piece.token) cs := by
  induction pieces generalizing cs with
  | nil =>
      cases h
      exact .blank nofun
  | cons piece pieces ih =>
      obtain ⟨hpiece, hmore⟩ := List.forall_mem_cons.mp hlexeme
      obtain ⟨hkind, hkinds⟩ := List.forall_mem_cons.mp hvisible
      cases h with
      | @cons slice gap rest slices blank apart more =>
          -- no gap follows the last slice only, and then the text ends there
          have hends : Ends (gap ++ rest) := by
            refine ends_gap blank fun hgap => ?_
            cases pieces with
            | nil =>
                cases more
                rfl
            | cons => exact absurd hgap (apart (List.cons_ne_nil _ _))
          exact .cons hpiece hkind (hends.stopsBefore hkind) (fun _ => hends)
            ((ih more hmore hkinds).gap_append blank)

theorem Respaced.layout {text other : String} (h : Respaced text other) :
    Layout (visibleTokens text) other.toList := by
  obtain ⟨gap, rest, hother, hgap, hspread⟩ := h
  have htokens : ((pieces text).filter fun piece => piece.token.kind ≠ .whitespace).map
      Piece.token = visibleTokens text := by
    rw [visibleTokens, ← map_token_cut text.toList (stopPlace (lex text).2) (lex text).1,
      List.filter_map]
    rfl
  rw [hother, ← htokens]
  refine (hspread.layout ?_ ?_).gap_append hgap
  · exact fun piece hpiece => forall_mem_pieces text piece (List.mem_of_mem_filter hpiece)
  · exact fun piece hpiece => of_decide_eq_true (List.mem_filter.mp hpiece).2

/-- **Layout does not matter.** If a text lexes, a text with the same slices and other white space
between them lexes to the same tokens, wherever these are, and is read as the same tree or refused
with the same complaint. -/
theorem parse_respaced (text other : String) (last : Token) (hlex : (lex text).2 = .ok last)
    (h : Respaced text other) :
    (lex other).2 = .ok ⟨.endOfText, "", other.length⟩ ∧
      (visibleTokens other).map Token.unplaced = (visibleTokens text).map Token.unplaced ∧
      SameReading (parse text) (parse other) := by
  obtain ⟨last', hlast', htokens⟩ := h.layout.lex
  refine ⟨?_, htokens, sameReading_of_unplaced hlex hlast' htokens⟩
  rw [hlast', (lex_last hlast').1]

/-- A list that is not closed: its bracket stands in different places of the two texts. -/
theorem parse_respaced_listNotClosed :
    parse "a in[1" = .error (.grammatical ⟨.listNotClosed 4, ⟨.endOfText, "", 6⟩⟩) ∧
      parse "\ta in [ 1" = .error (.grammatical ⟨.listNotClosed 6, ⟨.endOfText, "", 9⟩⟩) ∧
      SameReading (parse "a in[1") (parse "\ta in [ 1") := by
  have hlex : lex "a in[1" = ([⟨.identifier, "a", 0⟩, ⟨.whitespace, " ", 1⟩,
      ⟨.operator .oneOf, "in", 2⟩, ⟨.leftBracket, "[", 4⟩, ⟨.number, "1", 5⟩],
      .ok ⟨.endOfText, "", 6⟩) := by cbv
  have hrespaced : Respaced "a in[1" "\ta in [ 1" := by
    have hslices : ((pieces "a in[1").filter fun piece => piece.token.kind ≠ .whitespace).map
        Piece.slice = [['a'], ['i', 'n'], ['['], ['1']] := by
      rw [pieces, hlex]
      decide
    have hblank {c : Char} (hc : isBlank c = true) : ∀ c' ∈ [c], isBlank c' = true :=
      List.forall_mem_singleton.mpr hc
    have hapart {slices : List (List Char)} : slices ≠ [] → [' '] ≠ [] :=
      fun _ => List.cons_ne_nil _ _
    refine ⟨['\t'], "a in [ 1".toList, rfl, hblank rfl, ?_⟩
    rw [hslices]
    exact .cons (hblank rfl) hapart <| .cons (hblank rfl) hapart <| .cons (hblank rfl) hapart <|
      .cons (List.forall_mem_nil _) (absurd rfl) .nil
  have hlast := congrArg Prod.snd hlex
  exact ⟨by cbv, by cbv, (parse_respaced _ _ _ hlast hrespaced).2.2⟩

end RecordQuery.Filter
