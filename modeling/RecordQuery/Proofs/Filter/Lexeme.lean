import RecordQuery.Proofs.Filter.Derivation
import RecordQuery.Proofs.Filter.Numeral

/-!
# `Proofs.Filter.Lexeme` — how single tokens are written

Each kind of token has its lexemes: the characters that make such a token, and the text that they
give it. The scanner takes a lexeme from the front of a text and stops where more of it could stand;
and it takes any lexeme that what follows does not make longer.

What the grammar sees of a token is readable if some text stands for it: a sign has its spelling, a
name is an identifier that is no keyword, and the text of a number follows the grammar of numbers.
A token that was read is readable, and what is written for a readable terminal is a lexeme of it.

## Contents
- `keywords`, `IsIdentifier`: names.
- `TokenKind.spelling`, `TokenKind.StopsBefore`: signs and keywords, and what may follow a token.
- `StandsFor`, `quotedBody`: what is between the quotes of a string.
- `Lexeme`: the lexemes of every kind.
- `exists_lexeme`, `Lexeme.readFront_append`: **what is read is a lexeme, and a lexeme is read.**
- `Terminal.IsReadable`, `Terminal.Spells`: what stands for a terminal.
- `Terminal.Spells.exists_token`: what is written for a terminal is a lexeme.
- `isNumeral_iff_readFront`: the grammar of numbers is that of the scanner.
- `readFront_isReadable`, `lex_isReadable`: what is read is readable.
-/

namespace RecordQuery.Filter

open Text

/-! ## Words -/

/-- The words that are no names. -/
def keywords : List String := ["true", "false", "null", "any", "all", "in"]

/-- A letter or an underscore, and letters, digits and underscores after it. -/
def IsWord (cs : List Char) : Prop :=
  ∃ c tail, cs = c :: tail ∧ isWordStart c = true ∧ tail.all isWordPart = true

/-- A word that is no keyword. -/
def IsIdentifier (name : String) : Prop := IsWord name.toList ∧ name ∉ keywords

theorem TokenKind.ofWord_eq_identifier {word : String} :
    ofWord word = .identifier ↔ word ∉ keywords := by
  constructor
  · intro h hword
    simp only [keywords, List.mem_cons, List.not_mem_nil, or_false] at hword
    rcases hword with rfl | rfl | rfl | rfl | rfl | rfl <;> cases h
  · intro h
    unfold ofWord
    split
    all_goals first | rfl | exact absurd (by decide) h

section Words

variable {cs rest : List Char}

theorem IsWord.all (h : IsWord cs) : ∀ c ∈ cs, isWordPart c = true := by
  obtain ⟨c, tail, rfl, hc, htail⟩ := h
  exact List.forall_mem_cons.mpr ⟨isWordPart_of_isWordStart hc, List.all_eq_true.mp htail⟩

/-- **A word is taken up to its end.** -/
theorem IsWord.readFront_append (h : IsWord cs) (hrest : Halts isWordPart rest) :
    readFront (cs ++ rest) = .lexeme (.ofWord (String.ofList cs)) cs cs.length := by
  have hwidth : runWidth isWordPart (cs ++ rest) = cs.length := runWidth_append h.all hrest
  obtain ⟨c, tail, rfl, hc, -⟩ := h
  have hpart := isWordPart_of_isWordStart hc
  rw [List.cons_append] at hwidth ⊢
  rw [readFront, if_neg (ne_true_of_eq_false (isBlank_of_isWordPart hpart)),
    sign?_of_isWordPart _ hpart]
  dsimp only
  rw [if_pos hc, readWord, hwidth, ← List.cons_append, Reading.plain, List.take_left]

/-- The word at the front of a text. -/
theorem exists_word {c : Char} (h : isWordStart c = true) (cs : List Char) :
    ∃ word rest, c :: cs = word ++ rest ∧ IsWord word ∧ Halts isWordPart rest ∧
      readWord (c :: cs) = .lexeme (.ofWord (String.ofList word)) word word.length := by
  obtain ⟨run, rest, hcs, hrun, hhalts, hwidth⟩ := exists_run isWordPart cs
  refine ⟨c :: run, rest, congrArg _ hcs, ⟨c, run, rfl, h, List.all_eq_true.mpr hrun⟩, hhalts, ?_⟩
  have hpart := isWordPart_of_isWordStart h
  rw [readWord, runWidth_cons_of_pos cs hpart, hwidth, hcs, Reading.plain, List.take_succ_cons,
    List.take_left]
  rfl

end Words

/-! ## Signs and keywords -/

/-- The text of a kind that has no other; the empty text for the rest. -/
def TokenKind.spelling : TokenKind → String
  | leftParen => "("
  | rightParen => ")"
  | leftBracket => "["
  | rightBracket => "]"
  | comma => ","
  | dot => "."
  | colon => ":"
  | and => "&&"
  | or => "||"
  | not => "!"
  | operator op => op.text
  | boolean true => "true"
  | boolean false => "false"
  | null => "null"
  | quantifier q => q.text
  | number | string | identifier | whitespace | endOfText => ""

/-- Names and keywords. -/
def TokenKind.isWord : TokenKind → Bool
  | identifier | boolean _ | null | quantifier _ | operator .oneOf => true
  | _ => false

/-- What follows does not make a token of the kind longer: a run is over, and a sign is not the
start of a longer one. -/
structure TokenKind.StopsBefore (kind : TokenKind) (rest : List Char) : Prop where
  blank : kind = .whitespace → Halts isBlank rest
  word : kind.isWord = true → Halts isWordPart rest
  sign : kind = .not ∨ kind = .operator .lt ∨ kind = .operator .gt → rest.head? ≠ some '='

section Signs

variable {rest cs : List Char} {kind : TokenKind}

theorem TokenKind.stopsBefore_whitespace (h : Halts isBlank rest) :
    whitespace.StopsBefore rest := ⟨fun _ => h, nofun, nofun⟩

theorem TokenKind.stopsBefore_number (rest : List Char) : number.StopsBefore rest :=
  ⟨nofun, nofun, nofun⟩

theorem TokenKind.stopsBefore_string (rest : List Char) : string.StopsBefore rest :=
  ⟨nofun, nofun, nofun⟩

theorem Ends.stopsBefore (h : Ends rest) (hkind : kind ≠ .whitespace) : kind.StopsBefore rest where
  blank hblank := absurd hblank hkind
  word _ := h.halts_isWordPart
  sign _ := h.head_ne (by decide)

theorem readFront_sign {c : Char} {width : Nat} (hblank : isBlank c = false)
    (h : sign? (c :: cs) = some (kind, width)) :
    readFront (c :: cs) = .plain kind (c :: cs) width := by
  rw [readFront, if_neg (ne_true_of_eq_false hblank), h]

/-- A sign of one character may be the start of a longer one, but only before `=`. -/
theorem sign?_of_stopsBefore {c : Char} (h : kind.StopsBefore rest)
    (hc : sign? [c] = some (kind, 1)) : sign? (c :: rest) = some (kind, 1) := by
  cases rest with
  | nil => exact hc
  | cons d rest =>
      have hd : kind = .not ∨ kind = .operator .lt ∨ kind = .operator .gt → d ≠ '=' :=
        fun hkind heq => h.sign hkind (congrArg some heq)
      unfold sign? at hc ⊢
      split at hc <;> cases hc <;> simp_all

/-- **A sign or a keyword is taken up to its end.** -/
theorem TokenKind.readFront_spelling (h : kind.spelling ≠ "") (hrest : kind.StopsBefore rest) :
    readFront (kind.spelling.toList ++ rest) =
      .lexeme kind kind.spelling.toList kind.spelling.toList.length := by
  -- A spelling is a sign of one character or of two, or a keyword.
  have one {c : Char} (hblank : isBlank c = false) (hc : sign? [c] = some (kind, 1)) :
      readFront (c :: rest) = .lexeme kind [c] 1 :=
    readFront_sign hblank (sign?_of_stopsBefore hrest hc)
  have two {c d : Char} {kind : TokenKind} (hblank : isBlank c = false)
      (hcd : sign? (c :: d :: rest) = some (kind, 2)) :
      readFront (c :: d :: rest) = .lexeme kind [c, d] 2 := readFront_sign hblank hcd
  have word {c : Char} {cs : List Char} (hkind : kind.isWord = true) (hc : isWordStart c = true)
      (hcs : cs.all isWordPart = true) :=
    IsWord.readFront_append ⟨c, cs, rfl, hc, hcs⟩ (hrest.word hkind)
  cases kind with
  | leftParen => exact one (by decide) rfl
  | rightParen => exact one (by decide) rfl
  | leftBracket => exact one (by decide) rfl
  | rightBracket => exact one (by decide) rfl
  | comma => exact one (by decide) rfl
  | dot => exact one (by decide) rfl
  | colon => exact one (by decide) rfl
  | and => exact two (by decide) rfl
  | or => exact two (by decide) rfl
  | not => exact one (by decide) rfl
  | operator op =>
      cases op with
      | lt => exact one (by decide) rfl
      | gt => exact one (by decide) rfl
      | oneOf => exact word rfl rfl rfl
      | _ => exact two (by decide) rfl
  | boolean value => cases value <;> exact word rfl rfl rfl
  | null => exact word rfl rfl rfl
  | quantifier q => cases q <;> exact word rfl rfl rfl
  | _ => exact absurd rfl h

/-- The sign at the front of a text; the longest one that stands there. -/
theorem exists_sign_lexeme {width : Nat} (h : sign? cs = some (kind, width)) :
    kind.spelling ≠ "" ∧ ∃ rest, cs = kind.spelling.toList ++ rest ∧
      width = kind.spelling.toList.length ∧ kind.StopsBefore rest := by
  unfold sign? at h
  split at h <;> cases h <;> refine ⟨by decide, _, rfl, rfl, nofun, nofun, fun hkind => ?_⟩ <;>
    rcases hkind with hkind | hkind | hkind <;> cases hkind
  -- what is left are the signs that a longer one starts with, which would have been tried before
  all_goals
    rename_i hlonger
    intro heq
    obtain ⟨tail, rfl⟩ := List.head?_eq_some_iff.mp heq
    exact hlonger tail rfl

end Signs

/-! ## Strings -/

/-- What the characters between the quotes of a string literal stand for: a backslash goes before a
quote and before a backslash, and stays before anything else. A quote alone is not between them. -/
inductive StandsFor (quote : Char) : List Char → List Char → Prop where
  | nil : StandsFor quote [] []
  | plain {c : Char} {body text : List Char} (apart : c ≠ quote ∧ c ≠ '\\')
      (more : StandsFor quote body text) : StandsFor quote (c :: body) (c :: text)
  | escaped {c : Char} {body text : List Char} (escape : c = quote ∨ c = '\\')
      (more : StandsFor quote body text) : StandsFor quote ('\\' :: c :: body) (c :: text)
  | kept {c : Char} {body text : List Char} (apart : c ≠ quote ∧ c ≠ '\\')
      (more : StandsFor quote body text) : StandsFor quote ('\\' :: c :: body) ('\\' :: c :: text)

/-- A text as it stands between two quotes: each quote and each backslash has a backslash before
it. -/
def quotedBody (quote : Char) (text : List Char) : List Char :=
  text.flatMap fun c => if c = quote ∨ c = '\\' then ['\\', c] else [c]

/-- The two characters that may stand around a string. -/
def IsQuote (c : Char) : Prop := c = '"' ∨ c = '\''

section Strings

variable {quote : Char} {body text : List Char}

theorem standsFor_quotedBody (quote : Char) (text : List Char) :
    StandsFor quote (quotedBody quote text) text := by
  induction text with
  | nil => exact .nil
  | cons c text ih =>
      rw [quotedBody, List.flatMap_cons, ← quotedBody]
      split
      · rename_i hescape
        exact .escaped hescape ih
      · rename_i hplain
        exact .plain (not_or.mp hplain) ih

/-- What is between the quotes is taken up to the second of them. -/
theorem StandsFor.stringBody_append (h : StandsFor quote body text) (hquote : quote ≠ '\\')
    (rest : List Char) :
    stringBody quote (body ++ quote :: rest) = some (text, body.length + 1) := by
  -- Each constructor is one step of the scanner.
  induction h with
  | nil =>
      rw [List.nil_append, stringBody.eq_def]
      exact if_pos rfl
  | plain apart more ih =>
      rw [List.cons_append, stringBody.eq_def]
      simp only [if_neg apart.1, if_neg apart.2, ih, Option.map_some, List.length_cons]
  | escaped escape more ih =>
      rw [List.cons_append, List.cons_append, stringBody.eq_def]
      simp only [if_neg hquote.symm, if_true, if_pos escape, ih, Option.map_some,
        List.length_cons]
  | kept apart more ih =>
      rw [List.cons_append, List.cons_append, stringBody.eq_def]
      simp only [if_neg hquote.symm, if_true, if_neg (not_or.mpr apart), ih, Option.map_some,
        List.length_cons]

/-- What is taken for a string has a second quote, and stands for the text. -/
theorem exists_body {cs : List Char} {width : Nat} (h : stringBody quote cs = some (text, width)) :
    ∃ body rest, cs = body ++ quote :: rest ∧ width = body.length + 1 ∧
      StandsFor quote body text := by
  fun_induction stringBody quote cs generalizing text width with
  | case1 => cases h
  | case2 cs =>
      cases h
      exact ⟨[], cs, rfl, rfl, .nil⟩
  | case3 => cases h
  | case4 d cs hquote ih =>
      obtain ⟨⟨more, n⟩, hmore, heq⟩ := Option.map_eq_some_iff.mp h
      obtain ⟨body, rest, rfl, rfl, hbody⟩ := ih hmore
      obtain ⟨rfl, rfl⟩ := Prod.mk.inj heq
      refine ⟨'\\' :: d :: body, rest, rfl, rfl, ?_⟩
      split
      · rename_i hescape
        exact .escaped hescape hbody
      · rename_i hplain
        exact .kept (not_or.mp hplain) hbody
  | case5 c cs hquote hslash ih =>
      obtain ⟨⟨more, n⟩, hmore, heq⟩ := Option.map_eq_some_iff.mp h
      obtain ⟨body, rest, rfl, rfl, hbody⟩ := ih hmore
      obtain ⟨rfl, rfl⟩ := Prod.mk.inj heq
      exact ⟨c :: body, rest, rfl, rfl, .plain ⟨hquote, hslash⟩ hbody⟩

/-- **A string is read up to its second quote, whatever follows.** -/
theorem StandsFor.readFront_append (h : StandsFor quote body text) (hquote : IsQuote quote)
    (rest : List Char) : readFront (quote :: (body ++ quote :: rest)) =
      .lexeme .string text (body.length + 2) := by
  have hstart (cs : List Char) : startsNumeral (quote :: cs) = false := by
    rcases hquote with rfl | rfl <;> cases cs <;> rfl
  have hsign (cs : List Char) : sign? (quote :: cs) = none := by
    rcases hquote with rfl | rfl <;> rfl
  have hne : isBlank quote = false ∧ isWordStart quote = false ∧ quote ≠ '\\' := by
    rcases hquote with rfl | rfl <;> decide
  rw [readFront, if_neg (ne_true_of_eq_false hne.1), hsign]
  dsimp only
  rw [if_neg (ne_true_of_eq_false hne.2.1), if_neg (ne_true_of_eq_false (hstart _))]
  refine (if_pos hquote).trans ?_
  rw [readString, h.stringBody_append hne.2.2]

end Strings

/-! ## Lexemes -/

/-- The characters that make a token of the kind, after the text that they give it. A keyword is no
name, and the end of the text has no characters. -/
inductive Lexeme : TokenKind → List Char → List Char → Prop where
  | blank {slice : List Char} (some : slice ≠ []) (blank : ∀ c ∈ slice, isBlank c = true) :
      Lexeme .whitespace slice slice
  | sign {kind : TokenKind} (spelled : kind.spelling ≠ "") :
      Lexeme kind kind.spelling.toList kind.spelling.toList
  | name {slice : List Char} (word : IsWord slice) (free : String.ofList slice ∉ keywords) :
      Lexeme .identifier slice slice
  | number {slice : List Char} (numeral : IsNumeral slice) : Lexeme .number slice slice
  | string {quote : Char} {body text : List Char} (quoted : IsQuote quote)
      (stands : StandsFor quote body text) :
      Lexeme .string text (quote :: (body ++ [quote]))

section Lexemes

variable {kind : TokenKind} {text slice rest cs : List Char} {width : Nat}

/-- **A lexeme is read**, where what follows does not make it longer. More may follow a number than
white space. -/
theorem Lexeme.readFront_append (h : Lexeme kind text slice) (hrest : kind.StopsBefore rest)
    (hnumber : kind = .number → Ends rest) :
    readFront (slice ++ rest) = .lexeme kind text slice.length := by
  cases h with
  | blank some blank =>
      have hwidth := runWidth_append blank (hrest.blank rfl)
      obtain ⟨c, tail, rfl⟩ := List.exists_cons_of_ne_nil some
      rw [List.cons_append] at hwidth ⊢
      rw [readFront, if_pos (blank c List.mem_cons_self), hwidth, ← List.cons_append,
        Reading.plain, List.take_left]
  | sign spelled => exact TokenKind.readFront_spelling spelled hrest
  | name word free =>
      rw [word.readFront_append (hrest.word rfl), TokenKind.ofWord_eq_identifier.mpr free]
  | number numeral => exact numeral.readFront_append (hnumber rfl)
  | string quoted stands =>
      rw [List.cons_append, List.append_assoc, List.singleton_append,
        stands.readFront_append quoted, List.length_cons, List.length_append]
      rfl

theorem TokenKind.ofWord_spelling {word : String} (h : word ∈ keywords) :
    (ofWord word).spelling = word := by
  simp only [keywords, List.mem_cons, List.not_mem_nil, or_false] at h
  rcases h with rfl | rfl | rfl | rfl | rfl | rfl <;> decide

theorem TokenKind.isWord_ofWord (word : String) : (ofWord word).isWord = true := by
  unfold ofWord
  split <;> rfl

/-- A word is a keyword or else a name. -/
theorem IsWord.lexeme (h : IsWord slice) :
    Lexeme (.ofWord (String.ofList slice)) slice slice := by
  by_cases hkeyword : String.ofList slice ∈ keywords
  · have hspelling := TokenKind.ofWord_spelling hkeyword
    have hslice : (TokenKind.ofWord (String.ofList slice)).spelling.toList = slice := by
      rw [hspelling, String.toList_ofList]
    have hsome : (TokenKind.ofWord (String.ofList slice)).spelling ≠ "" := by
      rw [hspelling]
      rintro hempty
      rw [hempty] at hkeyword
      exact absurd hkeyword (by decide)
    have hlexeme := Lexeme.sign hsome
    rwa [hslice] at hlexeme
  · rw [TokenKind.ofWord_eq_identifier.mpr hkeyword]
    exact .name h hkeyword

/-- **What is read is a lexeme**, and what follows does not make it longer. -/
theorem exists_lexeme (h : readFront cs = .lexeme kind text width) (hend : kind ≠ .endOfText) :
    ∃ slice rest, cs = slice ++ rest ∧ width = slice.length ∧ Lexeme kind text slice ∧
      kind.StopsBefore rest := by
  -- The order of the cases is that in which the scanner tries them.
  unfold readFront at h
  split at h
  · cases h
    exact absurd rfl hend
  · rename_i c cs
    split at h
    · rename_i hblank
      obtain ⟨run, rest, hcs, hrun, hhalts, hwidth⟩ := exists_run isBlank (c :: cs)
      have hpos := runWidth_pos cs hblank
      have hsome : run ≠ [] := by
        rintro rfl
        exact absurd hwidth (Nat.ne_of_gt hpos)
      rw [hwidth, hcs, Reading.plain, List.take_left] at h
      cases h
      exact ⟨_, rest, hcs, rfl, .blank hsome hrun, TokenKind.stopsBefore_whitespace hhalts⟩
    · split at h
      · rename_i hsign
        obtain ⟨hspelled, rest, hcs, hwidth, hstops⟩ := exists_sign_lexeme hsign
        rw [hcs, hwidth, Reading.plain, List.take_left] at h
        cases h
        exact ⟨_, rest, hcs, rfl, .sign hspelled, hstops⟩
      · split at h
        · rename_i hword
          obtain ⟨word, rest, hcs, hword, hhalts, hread⟩ := exists_word hword cs
          have hisWord := TokenKind.isWord_ofWord (String.ofList word)
          cases hread.symm.trans h
          refine ⟨_, rest, hcs, rfl, hword.lexeme, ?_, fun _ => hhalts, ?_⟩
          · intro hkind
            rw [hkind] at hisWord
            cases hisWord
          · intro hkind
            rcases hkind with hkind | hkind | hkind <;> rw [hkind] at hisWord <;> cases hisWord
        · split at h
          · rename_i hstart
            unfold readNumeral at h
            dsimp only at h
            split at h
            · rename_i hcomplete
              obtain ⟨slice, rest, hcs, hnumeral, hwidth⟩ := exists_numeral hstart hcomplete
              rw [hwidth, hcs, Reading.plain, List.take_left] at h
              cases h
              exact ⟨_, rest, hcs, rfl, .number hnumeral, TokenKind.stopsBefore_number rest⟩
            · cases h
          · split at h
            · rename_i hquote
              unfold readString at h
              split at h
              · rename_i hbody
                cases h
                obtain ⟨body, rest, rfl, rfl, hstands⟩ := exists_body hbody
                refine ⟨c :: (body ++ [c]), rest, ?_, ?_, .string hquote hstands,
                  TokenKind.stopsBefore_string rest⟩
                · rw [List.cons_append, List.append_assoc, List.singleton_append]
                · rw [List.length_cons, List.length_append, List.length_singleton]
              · cases h
            · cases h

end Lexemes

/-! ## Terminals -/

/-- The terminal is one that some text stands for. -/
def Terminal.IsReadable : Terminal → Prop
  | .sign kind => kind.spelling ≠ ""
  | .name text => IsIdentifier text
  | .number text => IsNumeral text.toList
  | .string _ => True

@[simp]
theorem Terminal.isReadable_sign {kind : TokenKind} :
    (Terminal.sign kind).IsReadable ↔ kind.spelling ≠ "" := Iff.rfl

@[simp]
theorem Terminal.isReadable_name {name : String} :
    (Terminal.name name).IsReadable ↔ IsIdentifier name := Iff.rfl

/-- The texts that stand for a terminal. Strings may have quotes of either sort. -/
inductive Terminal.Spells : Terminal → List Char → Prop where
  | sign (kind : TokenKind) : Spells (.sign kind) kind.spelling.toList
  | name (text : String) : Spells (.name text) text.toList
  | number (text : String) : Spells (.number text) text.toList
  | string {quote : Char} (h : IsQuote quote) (text : String) :
      Spells (.string text) (quote :: (quotedBody quote text.toList ++ [quote]))

theorem TokenKind.terminal_of_spelling {kind : TokenKind} (h : kind.spelling ≠ "") (text : String)
    (position : Nat) : Token.terminal ⟨kind, text, position⟩ = .sign kind := by
  cases kind with
  | number => exact absurd rfl h
  | string => exact absurd rfl h
  | identifier => exact absurd rfl h
  | _ => rfl

/-- **What is written for a readable terminal is a lexeme** of a token that the grammar sees as that
terminal. -/
theorem Terminal.Spells.exists_token {terminal : Terminal} {cs : List Char}
    (h : terminal.Spells cs) (hreadable : terminal.IsReadable) :
    ∃ token : Token, Lexeme token.kind token.text.toList cs ∧ token.kind ≠ .whitespace ∧
      token.terminal = terminal := by
  cases h with
  | sign kind =>
      have hlexeme : Lexeme kind kind.spelling.toList kind.spelling.toList := .sign hreadable
      refine ⟨⟨kind, kind.spelling, 0⟩, hlexeme, ?_, TokenKind.terminal_of_spelling hreadable _ _⟩
      rintro rfl
      exact hreadable rfl
  | name text =>
      have hfree : String.ofList text.toList ∉ keywords := by
        rw [String.ofList_toList]
        exact hreadable.2
      exact ⟨⟨.identifier, text, 0⟩, .name hreadable.1 hfree, nofun, rfl⟩
  | number text => exact ⟨⟨.number, text, 0⟩, .number hreadable, nofun, rfl⟩
  | string hquote text =>
      exact ⟨⟨.string, text, 0⟩, .string hquote (standsFor_quotedBody _ _), nofun, rfl⟩

/-! ## What was read -/

/-- The terminal of a lexeme is readable. -/
theorem Lexeme.isReadable {kind : TokenKind} {text slice : List Char} (h : Lexeme kind text slice)
    (hkind : kind ≠ .whitespace) (position : Nat) :
    (Token.terminal ⟨kind, String.ofList text, position⟩).IsReadable := by
  cases h with
  | blank => exact absurd rfl hkind
  | sign spelled =>
      rw [TokenKind.terminal_of_spelling spelled]
      exact spelled
  | name word free => exact ⟨by rwa [String.toList_ofList], free⟩
  | number numeral =>
      show IsNumeral (String.ofList text).toList
      rwa [String.toList_ofList]
  | string => trivial

/-- **What is read is readable.** -/
theorem readFront_isReadable {cs text : List Char} {kind : TokenKind} {width : Nat}
    (h : readFront cs = .lexeme kind text width) (hvisible : kind.IsVisible) (position : Nat) :
    (Token.terminal ⟨kind, String.ofList text, position⟩).IsReadable := by
  obtain ⟨slice, rest, -, -, hlexeme, -⟩ := exists_lexeme h hvisible.2
  exact hlexeme.isReadable hvisible.1 position

/-- The grammar of numbers describes what the scanner takes for one number. -/
theorem isNumeral_iff_readFront {cs : List Char} :
    IsNumeral cs ↔ readFront cs = .lexeme .number cs cs.length := by
  constructor
  · intro h
    have hread := h.readFront_append (show Ends [] from nofun)
    rwa [List.append_nil] at hread
  · intro h
    have hreadable : IsNumeral (String.ofList cs).toList :=
      readFront_isReadable h ⟨nofun, nofun⟩ 0
    rwa [String.toList_ofList] at hreadable

theorem Scanner.next_isReadable {s after : Scanner} {token : Token}
    (h : s.next = (.ok token, after)) (hvisible : token.kind.IsVisible) :
    token.terminal.IsReadable := by
  unfold next at h
  dsimp only at h
  split at h
  · rename_i hread
    cases h
    exact readFront_isReadable hread hvisible _
  · cases h

/-- Whatever holds of the tokens that single steps give holds of all tokens of a text. -/
theorem Scanner.forall_mem_drain {step : Scanner → Except LexError Token × Scanner}
    {P : Token → Prop}
    (h : ∀ s token after, step s = (.ok token, after) → token.kind ≠ .endOfText → P token)
    (s : Scanner) : ∀ token ∈ (s.drain step).1, P token := by
  fun_induction Scanner.drain step s with
  | case1 => nofun
  | case2 => nofun
  | case3 s token after hstep hend hlt tokens stop hrest ih =>
      rw [hrest] at ih
      exact List.forall_mem_cons.mpr ⟨h s token after hstep hend, ih⟩
  | case4 => nofun

/-- **The tokens of a text that are not white space are readable.** -/
theorem lex_isReadable (text : String) : ∀ token ∈ (lex text).1, token.kind ≠ .whitespace →
    token.terminal.IsReadable :=
  Scanner.forall_mem_drain
    (fun _ _ _ hnext hend hblank => Scanner.next_isReadable hnext ⟨hblank, hend⟩) _

end RecordQuery.Filter
