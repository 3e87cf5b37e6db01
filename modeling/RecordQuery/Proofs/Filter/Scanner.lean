import RecordQuery.Filter.Scanner

/-!
# `Proofs.Filter.Scanner` — white space left out while scanning or afterwards

The parser takes its tokens from `Scanner.fetch`, which passes over one white space token. That is
enough, since the scanner takes all the white space there is at once; so the parser sees the tokens
of the text without those of white space.

## Contents
- `readFront_lexeme`, `readFront_failure`: what a token of a text that is not empty can be, and what
  an error.
- `Scanner.next_ok`: a token that is not the end takes characters.
- `Scanner.next_after_blank`: white space is not followed by white space.
- `tokens_eq_lex`: **the tokens without white space are those of the text, filtered.**
-/

namespace RecordQuery.Filter

open Text

/-! ## The front of a text -/

theorem runWidth_cons_of_pos {p : Char → Bool} {c : Char} (cs : List Char) (h : p c = true) :
    runWidth p (c :: cs) = runWidth p cs + 1 := by
  rw [runWidth, List.takeWhile_cons_of_pos h]
  rfl

theorem runWidth_cons_of_neg {p : Char → Bool} {c : Char} (cs : List Char) (h : ¬p c = true) :
    runWidth p (c :: cs) = 0 := by
  rw [runWidth, List.takeWhile_cons_of_neg h]
  rfl

theorem runWidth_pos {p : Char → Bool} {c : Char} (cs : List Char) (h : p c = true) :
    0 < runWidth p (c :: cs) := by
  rw [runWidth_cons_of_pos cs h]
  exact Nat.succ_pos _

/-- A run takes all there is. -/
theorem runWidth_drop_runWidth (p : Char → Bool) (cs : List Char) :
    runWidth p (cs.drop (runWidth p cs)) = 0 := by
  induction cs with
  | nil => rfl
  | cons c cs ih =>
      by_cases hc : p c = true
      · rw [runWidth_cons_of_pos cs hc]
        exact ih
      · rw [runWidth_cons_of_neg cs hc, List.drop_zero, runWidth_cons_of_neg cs hc]

/-- A kind that stands for characters other than blanks. -/
def TokenKind.IsVisible (kind : TokenKind) : Prop := kind ≠ .whitespace ∧ kind ≠ .endOfText

theorem sign?_some {cs : List Char} {kind : TokenKind} {width : Nat}
    (h : sign? cs = some (kind, width)) : kind.IsVisible ∧ 0 < width := by
  unfold sign? at h
  split at h <;> cases h <;> exact ⟨⟨nofun, nofun⟩, by decide⟩

theorem TokenKind.ofWord_isVisible (word : String) : (ofWord word).IsVisible := by
  unfold ofWord
  split <;> exact ⟨nofun, nofun⟩

theorem signWidth_of_isDigit {c : Char} (cs : List Char) (h : isDigit c = true) :
    signWidth (c :: cs) = 0 := by
  unfold signWidth
  split
  · rename_i heq
    cases heq
    cases h
  · rename_i heq
    cases heq
    cases h
  · rfl

/-- A number literal goes at least as far as its whole part. -/
theorem le_numeral_width (cs : List Char) :
    signWidth cs + runWidth isDigit (cs.drop (signWidth cs)) ≤ (numeral cs).width := by
  unfold numeral
  dsimp only
  split
  · dsimp only
    omega
  · exact Nat.le_add_right _ _

/-- A number literal has a digit after its sign. -/
theorem runWidth_whole_pos {cs : List Char} (h : startsNumeral cs = true) :
    0 < runWidth isDigit (cs.drop (signWidth cs)) := by
  have hdigit {c : Char} (cs : List Char) (hc : isDigit c = true) :
      0 < runWidth isDigit ((c :: cs).drop (signWidth (c :: cs))) := by
    rw [signWidth_of_isDigit cs hc, List.drop_zero]
    exact runWidth_pos cs hc
  match cs, h with
  | [c], h => exact hdigit [] h
  | c :: d :: cs, h =>
      rcases Bool.or_eq_true _ _ ▸ h with hc | hsign
      · exact hdigit _ hc
      · obtain ⟨hsign, hd⟩ := Bool.and_eq_true _ _ ▸ hsign
        have hone : signWidth (c :: d :: cs) = 1 := by
          rcases Bool.or_eq_true _ _ ▸ hsign with hc | hc <;> rw [beq_iff_eq.mp hc] <;> rfl
        rw [hone]
        exact runWidth_pos cs hd

theorem numeral_width_pos {cs : List Char} (h : startsNumeral cs = true) :
    0 < (numeral cs).width :=
  Nat.lt_of_lt_of_le (runWidth_whole_pos h)
    (Nat.le_trans (Nat.le_add_left _ _) (le_numeral_width cs))

/-- **The token at the front of a text that is not empty.** -/
theorem readFront_lexeme {c : Char} {cs text : List Char} {kind : TokenKind} {width : Nat}
    (h : readFront (c :: cs) = .lexeme kind text width) :
    0 < width ∧ (kind = .whitespace ∧ width = runWidth isBlank (c :: cs) ∨ kind.IsVisible) := by
  rw [readFront] at h
  split at h
  · rename_i hblank
    cases h
    exact ⟨runWidth_pos cs hblank, Or.inl ⟨rfl, rfl⟩⟩
  · split at h
    · rename_i hsign
      cases h
      obtain ⟨hvisible, hpos⟩ := sign?_some hsign
      exact ⟨hpos, Or.inr hvisible⟩
    · split at h
      · rename_i hword
        cases h
        have hpos := runWidth_pos cs (p := isWordPart) (by rw [isWordPart, hword]; rfl)
        exact ⟨hpos, Or.inr (TokenKind.ofWord_isVisible _)⟩
      · split at h
        · rename_i hnumeral
          unfold readNumeral at h
          dsimp only at h
          split at h <;> cases h
          exact ⟨numeral_width_pos hnumeral, Or.inr ⟨nofun, nofun⟩⟩
        · split at h
          · unfold readString at h
            split at h <;> cases h
            exact ⟨Nat.succ_pos _, Or.inr ⟨nofun, nofun⟩⟩
          · cases h

/-- **What stops the scanner**: a character that starts nothing, which is not taken, a malformed
number or a string without its last quote. -/
theorem readFront_failure {cs : List Char} {error : Nat → LexError} {width : Nat}
    (h : readFront cs = .failure error width) :
    (∃ c, error = .unexpectedCharacter c ∧ width = 0) ∨ (∃ text, error = .malformedNumber text) ∨
      error = .unterminatedString := by
  cases cs with
  | nil => cases h
  | cons c cs =>
      rw [readFront] at h
      split at h
      · cases h
      · split at h
        · cases h
        · split at h
          · cases h
          · split at h
            · unfold readNumeral at h
              dsimp only at h
              split at h <;> cases h
              exact Or.inr (Or.inl ⟨_, rfl⟩)
            · split at h
              · unfold readString at h
                split at h <;> cases h
                exact Or.inr (Or.inr rfl)
              · cases h
                exact Or.inl ⟨c, rfl, rfl⟩

/-! ## One step -/

namespace Scanner

variable {s after : Scanner} {token : Token}

/-- What a step that gives a token does. -/
theorem next_ok (h : s.next = (.ok token, after)) :
    token.kind = .endOfText ∧ s.rest = [] ∨
      after.rest.length < s.rest.length ∧
        (token.kind = .whitespace ∧ after.rest = s.rest.drop (runWidth isBlank s.rest) ∨
          token.kind.IsVisible) := by
  unfold next at h
  cases hrest : s.rest with
  | nil =>
      rw [hrest] at h
      cases h
      exact Or.inl ⟨rfl, rfl⟩
  | cons c cs =>
      rw [hrest] at h
      dsimp only at h
      split at h
      · rename_i kind text width hread
        rw [hread] at h
        cases h
        obtain ⟨hpos, hkind⟩ := readFront_lexeme hread
        refine Or.inr ⟨?_, ?_⟩
        · simp only [Reading.width, List.length_drop, List.length_cons]
          omega
        · rcases hkind with ⟨hblank, hwidth⟩ | hvisible
          · exact Or.inl ⟨hblank, by rw [← hwidth]; rfl⟩
          · exact Or.inr hvisible
      · cases h

theorem next_progress (h : s.next = (.ok token, after)) (hend : token.kind ≠ .endOfText) :
    after.rest.length < s.rest.length := by
  rcases next_ok h with ⟨hkind, -⟩ | ⟨hlt, -⟩
  · exact absurd hkind hend
  · exact hlt

/-- All the white space there is makes one token. -/
theorem next_after_blank {following : Token} {later : Scanner} (h : s.next = (.ok token, after))
    (hblank : token.kind = .whitespace) (hnext : after.next = (.ok following, later)) :
    following.kind ≠ .whitespace := by
  intro hfollowing
  have hrest : after.rest = s.rest.drop (runWidth isBlank s.rest) := by
    rcases next_ok h with ⟨hkind, -⟩ | ⟨-, ⟨-, hrest⟩ | hvisible⟩
    · cases hblank.symm.trans hkind
    · exact hrest
    · exact absurd hblank hvisible.1
  rcases next_ok hnext with ⟨hkind, -⟩ | ⟨hlt, ⟨-, hlater⟩ | hvisible⟩
  · cases hfollowing.symm.trans hkind
  · rw [hlater, hrest, runWidth_drop_runWidth, List.drop_zero] at hlt
    exact Nat.lt_irrefl _ hlt
  · exact hvisible.1 hfollowing

/-! ## All steps -/

variable {step : Scanner → Except LexError Token × Scanner}

theorem drain_error {e : LexError} (h : step s = (.error e, after)) :
    s.drain step = ([], .error e) := by
  rw [drain, h]

theorem drain_end (h : step s = (.ok token, after)) (hend : token.kind = .endOfText) :
    s.drain step = ([], .ok token) := by
  rw [drain, h]
  exact if_pos hend

theorem drain_token (h : step s = (.ok token, after)) (hend : token.kind ≠ .endOfText)
    (hlt : after.rest.length < s.rest.length) :
    s.drain step = (token :: (after.drain step).1, (after.drain step).2) := by
  rw [drain, h]
  dsimp only
  rw [if_neg hend, if_pos hlt]

theorem fetch_of_visible (h : s.next = (.ok token, after)) (hkind : token.kind ≠ .whitespace) :
    s.fetch = (.ok token, after) := by
  rw [fetch, h]
  exact if_neg hkind

theorem fetch_of_blank (h : s.next = (.ok token, after)) (hkind : token.kind = .whitespace) :
    s.fetch = after.next := by
  rw [fetch, h]
  exact if_pos hkind

theorem fetch_error {e : LexError} (h : s.next = (.error e, after)) :
    s.fetch = (.error e, after) := by
  rw [fetch, h]

/-- White space at the front is passed over. -/
theorem drain_fetch_of_blank (h : s.next = (.ok token, after)) (hblank : token.kind = .whitespace) :
    s.drain fetch = after.drain fetch := by
  have hlt := next_progress h (by rw [hblank]; nofun)
  have hfetch := fetch_of_blank h hblank
  cases hnext : after.next with
  | mk result later =>
      rw [hnext] at hfetch
      cases result with
      | error e => rw [drain_error hfetch, drain_error (fetch_error hnext)]
      | ok following =>
          have hfollowing := fetch_of_visible hnext (next_after_blank h hblank hnext)
          by_cases hend : following.kind = .endOfText
          · rw [drain_end hfetch hend, drain_end hfollowing hend]
          · have hlater := next_progress hnext hend
            rw [drain_token hfetch hend (Nat.lt_trans hlater hlt),
              drain_token hfollowing hend hlater]

/-- Leaving out white space while scanning gives what leaving it out afterwards gives, and it is the
end of the text or an error that stops either. -/
theorem drain_fetch_eq (s : Scanner) :
    s.drain fetch =
        ((s.drain next).1.filter fun token => token.kind ≠ .whitespace, (s.drain next).2) ∧
      ∀ last, (s.drain next).2 = .ok last → last.kind = .endOfText := by
  -- Every token but the end leaves a shorter text.
  induction hn : s.rest.length using Nat.strongRecOn generalizing s with
  | _ n ih =>
      subst hn
      cases hnext : s.next with
      | mk result after =>
          cases result with
          | error e =>
              rw [drain_error hnext, drain_error (fetch_error hnext)]
              exact ⟨rfl, nofun⟩
          | ok token =>
              by_cases hend : token.kind = .endOfText
              · have hvisible : token.kind ≠ .whitespace := by rw [hend]; nofun
                rw [drain_end hnext hend, drain_end (fetch_of_visible hnext hvisible) hend]
                refine ⟨rfl, fun last hlast => ?_⟩
                cases hlast
                exact hend
              · have hlt := next_progress hnext hend
                obtain ⟨hafter, hlast⟩ := ih _ hlt after rfl
                rw [drain_token hnext hend hlt]
                refine ⟨?_, hlast⟩
                by_cases hblank : token.kind = .whitespace
                · rw [drain_fetch_of_blank hnext hblank, hafter,
                    List.filter_cons_of_neg (by simp [hblank])]
                · rw [drain_token (fetch_of_visible hnext hblank) hend hlt, hafter,
                    List.filter_cons_of_pos (by simp [hblank])]

end Scanner

/-- **What the parser reads are the tokens of the text without white space.** -/
theorem tokens_eq_lex (text : String) :
    tokens text = ((lex text).1.filter fun token => token.kind ≠ .whitespace, (lex text).2) :=
  (Scanner.drain_fetch_eq _).1

/-- A text that lexes does so up to its end. -/
theorem lex_stop {text : String} {last : Token} (h : (lex text).2 = .ok last) :
    last.kind = .endOfText :=
  (Scanner.drain_fetch_eq _).2 last h

end RecordQuery.Filter
