import RecordQuery.Proofs.Filter.Grammar
import RecordQuery.Proofs.Filter.Lexeme

/-!
# `Proofs.Filter.Layout` — tokens laid out in a text

A text lays out tokens if it has a lexeme for each of them, in their order, and nothing but white
space around the lexemes. Two of them may adjoin where the second does not make the first longer.
The scanner finds the tokens wherever they are, so that a text is parsed as soon as it lays out
tokens that the grammar derives.

## Contents
- `Token.unplaced`: what a token is, wherever it stands.
- `Layout`: texts that lay out tokens.
- `Layout.drain_fetch`, `Layout.lex`: **the scanner finds what is laid out.**
- `Layout.derives`: a derivation of the tokens is one of the text.
-/

namespace RecordQuery.Filter

open Text

/-! ## Tokens without places -/

/-- The token as it would be at the start of a text. -/
def Token.unplaced (token : Token) : Token := { token with position := 0 }

theorem Token.terminal_unplaced (token : Token) : token.unplaced.terminal = token.terminal := by
  obtain ⟨kind, text, position⟩ := token
  cases kind <;> rfl

/-- The grammar does not see places. -/
theorem terminals_eq_of_unplaced {tokens others : List Token}
    (h : tokens.map Token.unplaced = others.map Token.unplaced) :
    terminals tokens = terminals others := by
  have hunplaced (tokens : List Token) :
      terminals (tokens.map Token.unplaced) = terminals tokens := by
    rw [terminals, List.map_map]
    exact List.map_congr_left fun token _ => token.terminal_unplaced
  rw [← hunplaced, h, hunplaced]

/-! ## Layouts -/

/-- A text ends or goes on with white space where a gap is, unless the gap is empty. -/
theorem ends_gap {gap rest : List Char} (hgap : ∀ c ∈ gap, isBlank c = true)
    (hrest : gap = [] → rest = []) : Ends (gap ++ rest) := by
  cases gap with
  | nil =>
      rw [hrest rfl]
      nofun
  | cons c gap =>
      rintro _ ⟨⟩
      exact hgap c List.mem_cons_self

/-- The text has a lexeme for each of the tokens and white space around them. Where the tokens say
they stand does not matter. -/
inductive Layout : List Token → List Char → Prop where
  | blank {gap : List Char} (blank : ∀ c ∈ gap, isBlank c = true) : Layout [] gap
  | lexeme {gap slice rest : List Char} {token : Token} {tokens : List Token}
      (blank : ∀ c ∈ gap, isBlank c = true) (lexeme : Lexeme token.kind token.text.toList slice)
      (visible : token.kind ≠ .whitespace) (stops : token.kind.StopsBefore rest)
      (ends : token.kind = .number → Ends rest) (more : Layout tokens rest) :
      Layout (token :: tokens) (gap ++ (slice ++ rest))

/-- The text may start with the first token. -/
theorem Layout.cons {slice rest : List Char} {token : Token} {tokens : List Token}
    (lexeme : Lexeme token.kind token.text.toList slice) (visible : token.kind ≠ .whitespace)
    (stops : token.kind.StopsBefore rest) (ends : token.kind = .number → Ends rest)
    (more : Layout tokens rest) : Layout (token :: tokens) (slice ++ rest) := by
  have hlayout : Layout (token :: tokens) ([] ++ (slice ++ rest)) :=
    .lexeme (List.forall_mem_nil _) lexeme visible stops ends more
  exact hlayout

section Scan

variable {tokens : List Token} {gap rest cs text : List Char} {kind : TokenKind} {width : Nat}

/-- What is read next is white space if white space stands there. -/
theorem halts_isBlank_of_readFront (h : readFront cs = .lexeme kind text width)
    (hkind : kind ≠ .whitespace) : Halts isBlank cs := by
  intro c hc
  obtain ⟨tail, rfl⟩ := List.head?_eq_some_iff.mp hc
  cases hblank : isBlank c with
  | false => rfl
  | true =>
      rw [readFront, if_pos hblank] at h
      exact absurd (Reading.lexeme.inj h).1.symm hkind

theorem Scanner.next_of_readFront (h : readFront cs = .lexeme kind text width) (position : Nat) :
    (⟨cs, position⟩ : Scanner).next =
      (.ok ⟨kind, String.ofList text, position⟩, ⟨cs.drop width, position + width⟩) := by
  rw [next]
  dsimp only
  rw [h]
  rfl

/-- White space before something else is passed over. -/
theorem Scanner.drain_fetch_gap (hgap : ∀ c ∈ gap, isBlank c = true) (h : Halts isBlank rest)
    (position : Nat) : (⟨gap ++ rest, position⟩ : Scanner).drain fetch =
      (⟨rest, position + gap.length⟩ : Scanner).drain fetch := by
  cases gap with
  | nil => rfl
  | cons c gap =>
      have hread : readFront ((c :: gap) ++ rest) =
          .plain .whitespace ((c :: gap) ++ rest) (runWidth isBlank ((c :: gap) ++ rest)) :=
        if_pos (hgap c List.mem_cons_self)
      rw [runWidth_append hgap h] at hread
      have hnext := next_of_readFront hread position
      rw [List.drop_left] at hnext
      exact drain_fetch_of_blank hnext rfl

theorem Lexeme.isVisible {slice : List Char} (h : Lexeme kind text slice)
    (hkind : kind ≠ .whitespace) : kind.IsVisible := by
  refine ⟨hkind, ?_⟩
  rintro rfl
  cases h with
  | sign spelled => exact spelled rfl

theorem Layout.gap_append (hgap : ∀ c ∈ gap, isBlank c = true) (h : Layout tokens cs) :
    Layout tokens (gap ++ cs) := by
  cases h with
  | blank blank => exact .blank (List.forall_mem_append.mpr ⟨hgap, blank⟩)
  | lexeme blank lexeme visible stops ends more =>
      rw [← List.append_assoc]
      exact .lexeme (List.forall_mem_append.mpr ⟨hgap, blank⟩) lexeme visible stops ends more

/-- **The scanner finds what is laid out.** -/
theorem Layout.drain_fetch (h : Layout tokens cs) (position : Nat) :
    ∃ found last, (⟨cs, position⟩ : Scanner).drain Scanner.fetch = (found, .ok last) ∧
      found.map Token.unplaced = tokens.map Token.unplaced := by
  induction h generalizing position with
  | @blank gap blank =>
      have hgap := Scanner.drain_fetch_gap blank (show Halts isBlank [] from nofun) position
      rw [List.append_nil] at hgap
      exact ⟨[], _, hgap.trans (Scanner.drain_end (Scanner.fetch_of_visible rfl nofun) rfl), rfl⟩
  | @lexeme gap slice rest token tokens blank lexeme visible stops ends more ih =>
      -- one step passes over the gap and reads the lexeme
      have hvisible := lexeme.isVisible visible
      have hread := lexeme.readFront_append stops ends
      have hnext := Scanner.next_of_readFront hread (position + gap.length)
      rw [List.drop_left, String.ofList_toList] at hnext
      obtain ⟨found, last, hdrain, hfound⟩ := ih (position + gap.length + slice.length)
      refine ⟨⟨token.kind, token.text, position + gap.length⟩ :: found, last, ?_, ?_⟩
      · rw [Scanner.drain_fetch_gap blank (halts_isBlank_of_readFront hread visible),
          Scanner.drain_token (Scanner.fetch_of_visible hnext visible) hvisible.2
            (Scanner.next_progress hnext hvisible.2), hdrain]
      · rw [List.map_cons, List.map_cons, hfound]
        rfl

end Scan

section Texts

variable {tokens : List Token} {text : String}

/-- The tokens of a text that lays tokens out, but for white space and for their places. -/
theorem Layout.lex (h : Layout tokens text.toList) : ∃ last, (Filter.lex text).2 = .ok last ∧
    ((Filter.lex text).1.filter fun token => token.kind ≠ .whitespace).map Token.unplaced =
      tokens.map Token.unplaced := by
  obtain ⟨found, last, hdrain, hfound⟩ := h.drain_fetch 0
  have hlex : (found, Except.ok last) = _ := hdrain.symm.trans (tokens_eq_lex text)
  obtain ⟨rfl, hlast⟩ := Prod.mk.inj hlex
  exact ⟨last, hlast.symm, hfound⟩

/-- **A derivation of the tokens is one of every text that lays them out.** -/
theorem Layout.derives {derivation : Disjunction} (h : Layout tokens text.toList)
    (hyield : derivation.yield = terminals tokens) : derivation.Derives text := by
  obtain ⟨last, hlast, hfound⟩ := h.lex
  refine ⟨(Filter.lex text).1, last, Prod.ext rfl hlast, lex_stop hlast, ?_⟩
  rw [hyield, terminals_eq_of_unplaced hfound]

end Texts
end RecordQuery.Filter
