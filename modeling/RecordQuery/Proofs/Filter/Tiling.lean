import Mathlib.Data.List.Chain
import RecordQuery.Proofs.Filter.Lexeme
import RecordQuery.Proofs.Filter.Scanner

/-!
# `Proofs.Filter.Tiling` — tokens lie side by side in the text

The characters of a token are those from its place up to the place of the next one, or up to the end
or the error that stops the scanner. So they cover the text up to there without gap or overlap, and
that these characters are a lexeme of the token is what makes its place right.

## Contents
- `Piece`, `pieces`: tokens with the characters that they cover, by their places alone.
- `Lexeme.slice_ne_nil` … `Lexeme.halts_isWordPart`: the characters of a lexeme.
- `Tiled`: pieces side by side, each a lexeme that what follows does not make longer.
- `Scanner.next_lexeme`, `Scanner.exists_tiled`: one step takes one piece, a run takes them all.
- `Tiled.cut_eq`: the places say where the pieces are.
- `lex_tiles`: **what the tokens of a text cover**, where they are and what stops them.
-/

namespace RecordQuery.Filter

open Text

/-! ## Pieces -/

/-- A token and the characters that it covers. -/
structure Piece where
  token : Token
  slice : List Char
deriving DecidableEq

/-- The characters of pieces, side by side. -/
def covered (pieces : List Piece) : List Char := pieces.flatMap Piece.slice

theorem covered_cons (piece : Piece) (pieces : List Piece) :
    covered (piece :: pieces) = piece.slice ++ covered pieces := List.flatMap_cons

/-- The place of the end of the text or of the error. -/
def stopPlace : Except LexError Token → Nat
  | .ok last => last.position
  | .error e => e.position

/-- The place of the first of the tokens; if there is none, the place where they stop. -/
def nextPlace (stop : Nat) : List Token → Nat
  | [] => stop
  | token :: _ => token.position

/-- The tokens, each with the characters from its place up to the place of the next one. -/
def cut (cs : List Char) (stop : Nat) : List Token → List Piece
  | [] => []
  | token :: tokens =>
    ⟨token, cs.extract token.position (nextPlace stop tokens)⟩ :: cut cs stop tokens

/-- The tokens of a text with the characters that they cover. -/
def pieces (text : String) : List Piece :=
  cut text.toList (stopPlace (lex text).2) (lex text).1

theorem map_token_cut (cs : List Char) (stop : Nat) (tokens : List Token) :
    (cut cs stop tokens).map Piece.token = tokens := by
  induction tokens with
  | nil => rfl
  | cons token tokens ih => rw [cut, List.map_cons, ih]

/-! ## The characters of a lexeme -/

section Lexemes

variable {kind : TokenKind} {text slice cs : List Char}

theorem IsWord.ne_nil (h : IsWord cs) : cs ≠ [] := by
  obtain ⟨c, tail, rfl, -⟩ := h
  exact List.cons_ne_nil _ _

theorem IsNumeral.ne_nil (h : IsNumeral cs) : cs ≠ [] := by
  obtain ⟨-, hwhole, -, -⟩ := h
  obtain ⟨d, ds, rfl, -⟩ := hwhole.exists_cons
  simp

theorem Lexeme.slice_ne_nil (h : Lexeme kind text slice) : slice ≠ [] := by
  cases h with
  | blank some blank => exact some
  | sign spelled => exact fun hnil => spelled (String.toList_eq_nil_iff.mp hnil)
  | name word free => exact word.ne_nil
  | number numeral => exact numeral.ne_nil
  | string quoted stands => exact List.cons_ne_nil _ _

/-- Only the text of a string is not what was written. -/
theorem Lexeme.text_eq (h : Lexeme kind text slice) (hkind : kind ≠ .string) : text = slice := by
  cases h with
  | string => exact absurd rfl hkind
  | _ => rfl

theorem Lexeme.exists_body (h : Lexeme .string text slice) : ∃ quote body,
    IsQuote quote ∧ slice = quote :: (body ++ [quote]) ∧ StandsFor quote body text := by
  cases h with
  | sign spelled => exact absurd rfl spelled
  | string quoted stands => exact ⟨_, _, quoted, rfl, stands⟩

theorem Lexeme.isNumeral (h : Lexeme .number text slice) : IsNumeral text := by
  cases h with
  | sign spelled => exact absurd rfl spelled
  | number numeral => exact numeral

theorem Lexeme.forall_isBlank (h : Lexeme .whitespace text slice) :
    ∀ c ∈ slice, isBlank c = true := by
  cases h with
  | blank some blank => exact blank
  | sign spelled => exact absurd rfl spelled

theorem TokenKind.isWord_spelling (h : kind.isWord = true) (hspelled : kind.spelling ≠ "") :
    IsWord kind.spelling.toList := by
  cases kind with
  | operator op =>
      cases op with
      | oneOf => exact ⟨'i', _, rfl, rfl, rfl⟩
      | _ => cases h
  | boolean value => cases value <;> exact ⟨_, _, rfl, rfl, rfl⟩
  | null => exact ⟨'n', _, rfl, rfl, rfl⟩
  | quantifier q => cases q <;> exact ⟨'a', _, rfl, rfl, rfl⟩
  | identifier => exact absurd rfl hspelled
  | _ => cases h

theorem Lexeme.isWord (h : Lexeme kind text slice) (hkind : kind.isWord = true) :
    IsWord slice := by
  cases h with
  | sign spelled => exact TokenKind.isWord_spelling hkind spelled
  | name word free => exact word
  | _ => cases hkind

/-! ### Its last character -/

theorem halts_reverse {p : Char → Bool} (h : ∀ c ∈ cs, p c = false) : Halts p cs.reverse :=
  fun c hc => h c (List.mem_reverse.mp (List.mem_of_mem_head? hc))

theorem halts_quoted {p : Char → Bool} {quote : Char} (body : List Char) (h : p quote = false) :
    Halts p (quote :: (body ++ [quote])).reverse := by
  rw [List.reverse_cons, List.reverse_append]
  exact halts_cons h

theorem forall_eq_false {p : Char → Bool} (h : cs.any p = false) : ∀ c ∈ cs, p c = false :=
  fun c hc => Bool.eq_false_iff.mpr (List.any_eq_false.mp h c hc)

theorem TokenKind.spelling_not_blank (h : kind.spelling ≠ "") :
    ∀ c ∈ kind.spelling.toList, isBlank c = false := by
  apply forall_eq_false
  cases kind with
  | operator op => cases op <;> decide
  | boolean value => cases value <;> decide
  | quantifier q => cases q <;> decide
  | _ => decide

theorem TokenKind.spelling_not_wordPart (h : kind.isWord = false) :
    ∀ c ∈ kind.spelling.toList, isWordPart c = false := by
  apply forall_eq_false
  cases kind with
  | operator op => cases op <;> first | decide | cases h
  | _ => first | decide | cases h

theorem IsNumeral.not_blank (h : IsNumeral cs) : ∀ c ∈ cs, isBlank c = false := by
  have digits {ds : List Char} (h : IsDigits ds) : ∀ c ∈ ds, isBlank c = false :=
    fun c hc => isBlank_of_isWordPart (isWordPart_of_isDigit (h.2 c hc))
  have sign {cs : List Char} (h : IsSign cs) : ∀ c ∈ cs, isBlank c = false := by
    apply forall_eq_false
    cases h <;> rfl
  obtain ⟨hsign, hwhole, hpart, hpower⟩ := h
  refine List.forall_mem_append.mpr ⟨sign hsign, List.forall_mem_append.mpr ⟨digits hwhole,
    List.forall_mem_append.mpr ⟨?_, ?_⟩⟩⟩
  · cases hpart with
    | absent => exact List.forall_mem_nil _
    | present hdigits => exact List.forall_mem_cons.mpr ⟨by decide, digits hdigits⟩
  · cases hpower with
    | absent => exact List.forall_mem_nil _
    | present he hsign hdigits =>
        refine List.forall_mem_cons.mpr ⟨?_, ?_⟩
        · rcases he with rfl | rfl <;> decide
        · exact List.forall_mem_append.mpr ⟨sign hsign, digits hdigits⟩

/-- Only white space ends with white space. -/
theorem Lexeme.halts_isBlank (h : Lexeme kind text slice) (hkind : kind ≠ .whitespace) :
    Halts isBlank slice.reverse := by
  cases h with
  | blank => exact absurd rfl hkind
  | sign spelled => exact halts_reverse (TokenKind.spelling_not_blank spelled)
  | name word free => exact halts_reverse fun c hc => isBlank_of_isWordPart (word.all c hc)
  | number numeral => exact halts_reverse numeral.not_blank
  | string quoted stands =>
      exact halts_quoted _ (by rcases quoted with rfl | rfl <;> decide)

/-- Only words and numbers end with a character of words. -/
theorem Lexeme.halts_isWordPart (h : Lexeme kind text slice) (hword : kind.isWord = false)
    (hnumber : kind ≠ .number) : Halts isWordPart slice.reverse := by
  cases h with
  | blank some blank =>
      refine halts_reverse fun c hc => ?_
      cases hpart : isWordPart c with
      | false => rfl
      | true => exact absurd (blank c hc) (ne_true_of_eq_false (isBlank_of_isWordPart hpart))
  | sign spelled => exact halts_reverse (TokenKind.spelling_not_wordPart hword)
  | name word free => cases hword
  | number => exact absurd rfl hnumber
  | string quoted stands =>
      exact halts_quoted _ (by rcases quoted with rfl | rfl <;> decide)

end Lexemes

/-! ## Side by side -/

/-- From the place on, the pieces lie side by side up to what stops the scanner; so much of the text
is left there. -/
inductive Tiled : Nat → List Piece → List Char → Except LexError Token → Prop where
  | finished (place : Nat) : Tiled place [] [] (.ok ⟨.endOfText, "", place⟩)
  | failed (e : LexError) (left : List Char) : Tiled e.position [] left (.error e)
  | more {token : Token} {slice left : List Char} {pieces : List Piece}
      {stop : Except LexError Token} (lexeme : Lexeme token.kind token.text.toList slice)
      (stops : token.kind.StopsBefore (covered pieces ++ left))
      (tiled : Tiled (token.position + slice.length) pieces left stop) :
      Tiled token.position (⟨token, slice⟩ :: pieces) left stop

namespace Scanner

variable {s after : Scanner} {token : Token} {e : LexError}

/-- The scanner is where the error is. -/
theorem next_error (h : s.next = (.error e, after)) : e.position = s.position := by
  unfold next at h
  dsimp only at h
  split at h
  · cases h
  · rename_i hread
    cases h
    rcases readFront_failure hread with ⟨c, rfl, -⟩ | ⟨text, rfl⟩ | rfl <;> rfl

theorem next_end (h : s.next = (.ok token, after)) (hend : token.kind = .endOfText) :
    token = ⟨.endOfText, "", s.position⟩ ∧ s.rest = [] := by
  have hrest : s.rest = [] := by
    rcases next_ok h with ⟨-, hrest⟩ | ⟨-, ⟨hblank, -⟩ | hvisible⟩
    · exact hrest
    · cases hend.symm.trans hblank
    · exact absurd hend hvisible.2
  unfold next at h
  rw [hrest] at h
  cases h
  exact ⟨rfl, hrest⟩

/-- **A step takes a lexeme**, and all of it. -/
theorem next_lexeme (h : s.next = (.ok token, after)) (hend : token.kind ≠ .endOfText) :
    token.position = s.position ∧ ∃ slice, s.rest = slice ++ after.rest ∧
      after.position = s.position + slice.length ∧
      Lexeme token.kind token.text.toList slice ∧ token.kind.StopsBefore after.rest := by
  unfold next at h
  dsimp only at h
  split at h
  · rename_i kind text width hread
    cases h
    obtain ⟨slice, rest, hrest, rfl, hlexeme, hstops⟩ := exists_lexeme hread hend
    have hafter : s.rest.drop (readFront s.rest).width = rest := by
      rw [hread, Reading.width, hrest, List.drop_left]
    refine ⟨rfl, slice, ?_, ?_, ?_, ?_⟩
    · rw [hafter, hrest]
    · rw [hread]
      rfl
    · rwa [String.toList_ofList]
    · rwa [hafter]
  · cases h

/-- **A run takes pieces that lie side by side.** -/
theorem exists_tiled (s : Scanner) : ∃ pieces left, pieces.map Piece.token = (s.drain next).1 ∧
    s.rest = covered pieces ++ left ∧ Tiled s.position pieces left (s.drain next).2 := by
  -- Every token but the end leaves a shorter text.
  induction hn : s.rest.length using Nat.strongRecOn generalizing s with
  | _ n ih =>
      subst hn
      cases hnext : s.next with
      | mk result after =>
          cases result with
          | error e =>
              rw [drain_error hnext, ← next_error hnext]
              exact ⟨[], s.rest, rfl, rfl, .failed e s.rest⟩
          | ok token =>
              by_cases hend : token.kind = .endOfText
              · obtain ⟨rfl, hrest⟩ := next_end hnext hend
                rw [drain_end hnext hend]
                exact ⟨[], [], rfl, hrest, .finished s.position⟩
              · have hlt := next_progress hnext hend
                obtain ⟨pieces, left, htokens, hrest, htiled⟩ := ih _ hlt after rfl
                obtain ⟨hplace, slice, hslice, hafter, hlexeme, hstops⟩ := next_lexeme hnext hend
                rw [drain_token hnext hend hlt, ← hplace]
                rw [hafter, ← hplace] at htiled
                rw [hrest] at hslice hstops
                refine ⟨⟨token, slice⟩ :: pieces, left, congrArg _ htokens, ?_,
                  .more hlexeme hstops htiled⟩
                rw [hslice, covered_cons, List.append_assoc]

end Scanner

/-! ## Places -/

namespace Tiled

variable {place : Nat} {pieces : List Piece} {left : List Char} {stop : Except LexError Token}

theorem stopPlace_eq (h : Tiled place pieces left stop) :
    stopPlace stop = place + (covered pieces).length := by
  induction h with
  | finished place => rfl
  | failed e left => rfl
  | more lexeme stops tiled ih => rw [ih, covered_cons, List.length_append, Nat.add_assoc]

theorem nextPlace_eq (h : Tiled place pieces left stop) :
    nextPlace (stopPlace stop) (pieces.map Piece.token) = place := by
  cases h <;> rfl

/-- **The pieces are where their places say.** -/
theorem cut_eq {front : List Char} (h : Tiled place pieces left stop)
    (hplace : place = front.length) :
    cut (front ++ (covered pieces ++ left)) (stopPlace stop) (pieces.map Piece.token) = pieces := by
  -- What is in front of the pieces grows by one slice with each of them.
  induction h generalizing front with
  | finished place => rfl
  | failed e left => rfl
  | @more token slice left pieces stop lexeme stops tiled ih =>
      have hslice : (front ++ (covered (⟨token, slice⟩ :: pieces) ++ left)).extract token.position
          (token.position + slice.length) = slice := by
        rw [List.extract_eq_take_drop, hplace, List.drop_left, Nat.add_sub_cancel_left,
          covered_cons, List.append_assoc, List.take_left]
      have hlength : token.position + slice.length = (front ++ slice).length := by
        rw [hplace, List.length_append]
      have hmore := ih hlength
      rw [List.map_cons, cut, tiled.nextPlace_eq, hslice, covered_cons]
      rw [List.append_assoc] at hmore
      rw [List.append_assoc, hmore]

/-- The text was read up to its end, and nothing is left. -/
theorem last_eq {last : Token} (h : Tiled place pieces left (.ok last)) :
    last = ⟨.endOfText, "", place + (covered pieces).length⟩ ∧ left = [] := by
  generalize hstop : (Except.ok last : Except LexError Token) = stop at h
  induction h with
  | finished place =>
      cases hstop
      exact ⟨rfl, rfl⟩
  | failed e left => cases hstop
  | more lexeme stops tiled ih =>
      obtain ⟨hlast, hleft⟩ := ih hstop
      refine ⟨?_, hleft⟩
      rw [hlast, covered_cons, List.length_append, Nat.add_assoc]

/-- Every piece starts behind those before it. -/
theorem piece {earlier later : List Piece} {piece : Piece}
    (h : Tiled place (earlier ++ piece :: later) left stop) :
    piece.token.position = place + (covered earlier).length ∧
      Lexeme piece.token.kind piece.token.text.toList piece.slice ∧
      piece.token.kind.StopsBefore (covered later ++ left) := by
  induction earlier generalizing place with
  | nil =>
      cases h with
      | more lexeme stops tiled => exact ⟨rfl, lexeme, stops⟩
  | cons first earlier ih =>
      cases h with
      | more lexeme stops tiled =>
          obtain ⟨hplace, hpiece⟩ := ih tiled
          refine ⟨?_, hpiece⟩
          rw [hplace, covered_cons, List.length_append, Nat.add_assoc]

end Tiled

/-! ## Neighbours -/

/-- What one piece says of the piece before it: white space and words start where something else
ends. A number may have a word right after it. -/
structure Neighbours (a b : Piece) : Prop where
  blank : b.token.kind = .whitespace → a.token.kind ≠ .whitespace ∧ Halts isBlank a.slice.reverse
  word : b.token.kind.isWord = true → a.token.kind.isWord = false ∧
    (a.token.kind ≠ .number → Halts isWordPart a.slice.reverse)

/-- What a run stops before does not start with another run. -/
theorem Halts.not_run {p : Char → Bool} {cs rest : List Char} (h : Halts p (cs ++ rest))
    (hsome : cs ≠ []) (hrun : ∀ c ∈ cs, p c = true) : False := by
  obtain ⟨c, tail, rfl⟩ := List.exists_cons_of_ne_nil hsome
  exact absurd (hrun c List.mem_cons_self) (ne_true_of_eq_false (h c rfl))

theorem Tiled.isChain {place : Nat} {pieces : List Piece} {left : List Char}
    {stop : Except LexError Token} (h : Tiled place pieces left stop) :
    pieces.IsChain Neighbours := by
  induction h with
  | finished place => exact .nil
  | failed e left => exact .nil
  | @more token slice left pieces stop lexeme stops tiled ih =>
      cases pieces with
      | nil => exact .singleton _
      | cons next pieces =>
          have hfirst : Tiled _ ([] ++ next :: pieces) left stop := tiled
          obtain ⟨-, lexeme', -⟩ := hfirst.piece
          rw [covered_cons, List.append_assoc] at stops
          -- The run of the first would not have stopped before a run of the same sort.
          refine .cons_cons ⟨?_, ?_⟩ ih
          · intro hblank
            have hkind : token.kind ≠ .whitespace := fun hkind =>
              (stops.blank hkind).not_run lexeme'.slice_ne_nil (hblank ▸ lexeme').forall_isBlank
            exact ⟨hkind, lexeme.halts_isBlank hkind⟩
          · intro hword
            have hkind : token.kind.isWord = false := by
              rw [← Bool.not_eq_true]
              exact fun hkind => (stops.word hkind).not_run lexeme'.slice_ne_nil
                (lexeme'.isWord hword).all
            exact ⟨hkind, lexeme.halts_isWordPart hkind⟩

/-! ## The pieces of a text -/

/-- What a piece is, between what stands before it in the text and what stands behind it. -/
structure Piece.FitsBetween (piece : Piece) (before after : List Char) : Prop where
  position : piece.token.position = before.length
  some : piece.slice ≠ []
  plain : piece.token.kind ≠ .string → piece.token.text.toList = piece.slice
  string : piece.token.kind = .string → ∃ quote body, IsQuote quote ∧
    piece.slice = quote :: (body ++ [quote]) ∧ StandsFor quote body piece.token.text.toList
  number : piece.token.kind = .number → IsNumeral piece.token.text.toList
  blank : piece.token.kind = .whitespace → (∀ c ∈ piece.slice, isBlank c = true) ∧
    Halts isBlank after
  word : piece.token.kind.isWord = true → IsWord piece.slice ∧ Halts isWordPart after

theorem exists_tiled_pieces (text : String) : ∃ left,
    text.toList = covered (pieces text) ++ left ∧ Tiled 0 (pieces text) left (lex text).2 := by
  obtain ⟨found, left, htokens, hrest, htiled⟩ := (Scanner.ofText text).exists_tiled
  have hcut : pieces text = found := by
    have hcut := htiled.cut_eq (show 0 = ([] : List Char).length from rfl)
    rw [List.nil_append, ← hrest, htokens] at hcut
    exact hcut
  rw [hcut]
  exact ⟨left, hrest, htiled⟩

/-- Every piece of a text is a lexeme of its token. -/
theorem forall_mem_pieces (text : String) : ∀ piece ∈ pieces text,
    Lexeme piece.token.kind piece.token.text.toList piece.slice := by
  intro piece hpiece
  obtain ⟨earlier, later, hpieces⟩ := List.append_of_mem hpiece
  obtain ⟨left, -, htiled⟩ := exists_tiled_pieces text
  rw [hpieces] at htiled
  exact htiled.piece.2.1

/-- Where no error stops the scanner, it is the end of the text. -/
theorem lex_last {text : String} {last : Token} (h : (lex text).2 = .ok last) :
    last = ⟨.endOfText, "", text.length⟩ ∧ text.toList = covered (pieces text) := by
  obtain ⟨left, htext, htiled⟩ := exists_tiled_pieces text
  rw [h] at htiled
  obtain ⟨hend, rfl⟩ := htiled.last_eq
  rw [List.append_nil] at htext
  rw [hend, ← htext, String.length_toList, Nat.zero_add]
  exact ⟨rfl, rfl⟩

/-- **The tokens tile the text.** The characters from the place of one token to the place of the
next, and from the last to the end or the error, are all of the text up to there. Each token starts
where the one before it ended, covers a character at least, and has them for its text; a string has
what they stand for between two quotes. White space and words go as far as they can, so that neither
stands next to its like. The end is behind the last character, and an error behind the last
token. -/
theorem lex_tiles (text : String) : (pieces text).map Piece.token = (lex text).1 ∧ ∃ left,
    text.toList = covered (pieces text) ++ left ∧
    (∀ earlier piece later, pieces text = earlier ++ piece :: later →
      piece.FitsBetween (covered earlier) (covered later ++ left)) ∧
    (pieces text).IsChain Neighbours ∧
    (∀ last, (lex text).2 = .ok last → last = ⟨.endOfText, "", text.length⟩ ∧ left = []) ∧
    ∀ e, (lex text).2 = .error e → e.position = (covered (pieces text)).length := by
  obtain ⟨left, htext, htiled⟩ := exists_tiled_pieces text
  refine ⟨map_token_cut _ _ _, left, htext, ?_, htiled.isChain, ?_, ?_⟩
  · intro earlier piece later hpieces
    rw [hpieces] at htiled
    obtain ⟨hplace, hlexeme, hstops⟩ := htiled.piece
    refine ⟨hplace.trans (Nat.zero_add _), hlexeme.slice_ne_nil, hlexeme.text_eq, ?_, ?_, ?_, ?_⟩
    · intro hkind
      exact (hkind ▸ hlexeme).exists_body
    · intro hkind
      exact (hkind ▸ hlexeme).isNumeral
    · intro hkind
      exact ⟨(hkind ▸ hlexeme).forall_isBlank, hstops.blank hkind⟩
    · intro hkind
      exact ⟨hlexeme.isWord hkind, hstops.word hkind⟩
  · intro last hlast
    obtain ⟨hend, hcovered⟩ := lex_last hlast
    exact ⟨hend, List.append_right_eq_self.mp (htext.symm.trans hcovered)⟩
  · intro e he
    have hplace := htiled.stopPlace_eq
    rw [he, Nat.zero_add] at hplace
    exact hplace

/-- A word right after a number, a string with an escaped quote, and a character of no token. -/
def adjoining : String := "1a=='it\\'s' #"

theorem lex_tiles_adjoining :
    pieces adjoining = [⟨⟨.number, "1", 0⟩, ['1']⟩, ⟨⟨.identifier, "a", 1⟩, ['a']⟩,
      ⟨⟨.operator .eq, "==", 2⟩, "==".toList⟩, ⟨⟨.string, "it's", 4⟩, "'it\\'s'".toList⟩,
      ⟨⟨.whitespace, " ", 11⟩, [' ']⟩] ∧
    (lex adjoining).2 = .error (.unexpectedCharacter '#' 12) ∧
    (covered (pieces adjoining)).length = 12 ∧
    ∃ after, Piece.FitsBetween ⟨⟨.string, "it's", 4⟩, "'it\\'s'".toList⟩ "1a==".toList after := by
  have hlex : lex adjoining = ([⟨.number, "1", 0⟩, ⟨.identifier, "a", 1⟩, ⟨.operator .eq, "==", 2⟩,
      ⟨.string, "it's", 4⟩, ⟨.whitespace, " ", 11⟩], .error (.unexpectedCharacter '#' 12)) := by
    cbv
  have hpieces : pieces adjoining = [⟨⟨.number, "1", 0⟩, ['1']⟩, ⟨⟨.identifier, "a", 1⟩, ['a']⟩,
      ⟨⟨.operator .eq, "==", 2⟩, "==".toList⟩, ⟨⟨.string, "it's", 4⟩, "'it\\'s'".toList⟩,
      ⟨⟨.whitespace, " ", 11⟩, [' ']⟩] := by
    rw [pieces, hlex]
    decide
  have hstop := congrArg Prod.snd hlex
  obtain ⟨-, left, -, hfits, -, -, herror⟩ := lex_tiles adjoining
  exact ⟨hpieces, hstop, (herror _ hstop).symm, _, hfits [_, _, _] _ [_] hpieces⟩

end RecordQuery.Filter
