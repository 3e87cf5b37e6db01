import RecordQuery.Text.Blank

/-!
# `Proofs.Text.Words` — pieces and words of a text

The pieces of a text, put together with the separator between them, are the text, and no piece has
the separator in it. The words of a text are what stands between its blanks: a text with one word or
two is such words with blanks around them.

## Contents
- `splitWhere_eq_splitOn`, `not_mem_of_mem_splitWhere`: pieces.
- `words_append_blank`, `words_surrounded`: the words of texts that are put together.
- `words_cases`: a text is blank, or a word stands in it before all others.
- `words_eq_singleton_iff`, `words_eq_pair_iff`: **texts with one word and with two.**
-/

namespace RecordQuery.Text

variable {p : Char → Bool} {cs : List Char}

/-! ## Pieces -/

theorem splitWhere_eq_splitOnP (p : Char → Bool) (cs : List Char) :
    splitWhere p cs = cs.splitOnP p := by
  induction cs with
  | nil => rfl
  | cons c cs ih =>
      obtain ⟨piece, pieces, hpieces⟩ := List.exists_cons_of_ne_nil (splitWhere_ne_nil p cs)
      rw [splitWhere, List.splitOnP_cons_eq_if_modifyHead, ← ih, hpieces]
      rfl

theorem splitWhere_eq_splitOn (separator : Char) (cs : List Char) :
    splitWhere (· == separator) cs = cs.splitOn separator := by
  rw [splitWhere_eq_splitOnP, List.splitOn_eq_splitOnP]

/-- No piece has a character at which the text was cut. -/
theorem not_mem_of_mem_splitWhere {piece : List Char} (h : piece ∈ splitWhere p cs) :
    ∀ c ∈ piece, p c = false := by
  induction cs generalizing piece with
  | nil =>
      cases List.mem_singleton.mp h
      exact nofun
  | cons c cs ih =>
      obtain ⟨first, pieces, hpieces⟩ := List.exists_cons_of_ne_nil (splitWhere_ne_nil p cs)
      rw [splitWhere, hpieces] at h
      rw [hpieces] at ih
      split at h
      · rcases List.mem_cons.mp h with rfl | h
        · exact nofun
        · exact ih h
      · rename_i hc
        rcases List.mem_cons.mp h with rfl | h
        · exact List.forall_mem_cons.mpr ⟨by simpa using hc, ih List.mem_cons_self⟩
        · exact ih (List.mem_cons_of_mem _ h)

/-! ## Words -/

def AllBlank (cs : List Char) : Prop := ∀ c ∈ cs, isBlank c = true

/-- One or more characters that are not blank. -/
structure IsWord (cs : List Char) : Prop where
  ne_nil : cs ≠ []
  not_blank : ∀ c ∈ cs, isBlank c = false

theorem isWord_iff : IsWord cs ↔ cs ≠ [] ∧ (cs.all fun c => !isBlank c) = true := by
  constructor
  · rintro ⟨hne, hblank⟩
    exact ⟨hne, List.all_eq_true.mpr fun c hc => by rw [hblank c hc]; rfl⟩
  · rintro ⟨hne, hall⟩
    exact ⟨hne, fun c hc => by simpa using List.all_eq_true.mp hall c hc⟩

instance : Decidable (IsWord cs) := decidable_of_iff _ isWord_iff.symm

/-- What stands after a word: nothing, or a blank before anything else. -/
def StopsWord (cs : List Char) : Prop := ∀ c ∈ cs.head?, isBlank c = true

/-- A blank ends the word before it. -/
theorem words_append_blank {b : Char} (hb : isBlank b = true) (cs ds : List Char) :
    words (cs ++ b :: ds) = words cs ++ words ds := by
  simp only [words, splitWhere_eq_splitOnP, List.splitOnP_append_cons cs ds hb, List.filter_append]

theorem IsWord.words_eq {word : List Char} (h : IsWord word) : words word = [word] := by
  rw [words, splitWhere_eq_splitOnP, List.splitOnP_eq_singleton h.not_blank]
  exact List.filter_cons_of_pos (by simpa using h.ne_nil)

theorem words_append_of_stopsWord (cs : List Char) {rest : List Char} (h : StopsWord rest) :
    words (cs ++ rest) = words cs ++ words rest := by
  cases rest with
  | nil => rw [List.append_nil, show words [] = [] from rfl, List.append_nil]
  | cons b rest =>
      have hb : isBlank b = true := h b rfl
      have hrest : words (b :: rest) = words rest := words_append_blank hb [] rest
      rw [words_append_blank hb, hrest]

theorem AllBlank.stopsWord {blanks : List Char} (h : AllBlank blanks) : StopsWord blanks :=
  fun c hc => h c (List.mem_of_mem_head? hc)

theorem AllBlank.words_append {blanks : List Char} (h : AllBlank blanks) (cs : List Char) :
    words (blanks ++ cs) = words cs := by
  induction blanks with
  | nil => rfl
  | cons b blanks ih =>
      obtain ⟨hb, hblanks⟩ := List.forall_mem_cons.mp h
      have hfirst : words (b :: (blanks ++ cs)) = words (blanks ++ cs) :=
        words_append_blank hb [] (blanks ++ cs)
      exact hfirst.trans (ih hblanks)

theorem AllBlank.words_eq {blanks : List Char} (h : AllBlank blanks) : words blanks = [] := by
  have hwords := h.words_append []
  rwa [List.append_nil] at hwords

/-- **The first word of a text.** -/
theorem words_surrounded {blanks word rest : List Char} (hblanks : AllBlank blanks)
    (hword : IsWord word) (hrest : StopsWord rest) :
    words (blanks ++ word ++ rest) = word :: words rest := by
  rw [List.append_assoc, hblanks.words_append, words_append_of_stopsWord word hrest, hword.words_eq]
  rfl

/-! ## Texts with few words -/

theorem exists_run (p : Char → Bool) (cs : List Char) : ∃ run rest, cs = run ++ rest ∧
    (∀ c ∈ run, p c = true) ∧ ∀ c ∈ rest.head?, p c = false := by
  induction cs with
  | nil => exact ⟨[], [], rfl, nofun, nofun⟩
  | cons c cs ih =>
      cases hc : p c with
      | false =>
          refine ⟨[], c :: cs, rfl, nofun, ?_⟩
          rintro _ ⟨⟩
          exact hc
      | true =>
          obtain ⟨run, rest, rfl, hrun, hrest⟩ := ih
          exact ⟨c :: run, rest, rfl, List.forall_mem_cons.mpr ⟨hc, hrun⟩, hrest⟩

/-- **A text is blank, or a word stands in it before all others.** -/
theorem words_cases (cs : List Char) : AllBlank cs ∨
    ∃ blanks word rest, cs = blanks ++ word ++ rest ∧ AllBlank blanks ∧ IsWord word ∧
      StopsWord rest := by
  obtain ⟨blanks, body, rfl, hblanks, hbody⟩ := exists_run isBlank cs
  cases body with
  | nil =>
      rw [List.append_nil]
      exact .inl hblanks
  | cons c body =>
      have hc : isBlank c = false := hbody c rfl
      obtain ⟨run, rest, rfl, hrun, hrest⟩ := exists_run (fun c => !isBlank c) body
      refine .inr ⟨blanks, c :: run, rest, ?_, hblanks, ⟨List.cons_ne_nil _ _, ?_⟩, ?_⟩
      · rw [List.append_assoc, List.cons_append]
      · exact List.forall_mem_cons.mpr ⟨hc, fun d hd => by simpa using hrun d hd⟩
      · exact fun d hd => by simpa using hrest d hd

theorem allBlank_of_words_eq_nil (h : words cs = []) : AllBlank cs := by
  rcases words_cases cs with hblank | ⟨blanks, word, rest, rfl, hblanks, hword, hrest⟩
  · exact hblank
  · rw [words_surrounded hblanks hword hrest] at h
    cases h

/-- The first word, with what stands around it. -/
theorem exists_of_words_eq_cons {word : List Char} {others : List (List Char)}
    (h : words cs = word :: others) : ∃ blanks rest, cs = blanks ++ word ++ rest ∧
      AllBlank blanks ∧ IsWord word ∧ StopsWord rest ∧ words rest = others := by
  rcases words_cases cs with hblank | ⟨blanks, found, rest, rfl, hblanks, hword, hrest⟩
  · rw [hblank.words_eq] at h
    cases h
  · rw [words_surrounded hblanks hword hrest] at h
    cases h
    exact ⟨blanks, rest, rfl, hblanks, hword, hrest, rfl⟩

/-- **One word**, with blanks around it. -/
theorem words_eq_singleton_iff {word : List Char} : words cs = [word] ↔
    ∃ left right, cs = left ++ word ++ right ∧ AllBlank left ∧ IsWord word ∧ AllBlank right := by
  constructor
  · intro h
    obtain ⟨left, right, hcs, hleft, hword, -, hright⟩ := exists_of_words_eq_cons h
    exact ⟨left, right, hcs, hleft, hword, allBlank_of_words_eq_nil hright⟩
  · rintro ⟨left, right, rfl, hleft, hword, hright⟩
    rw [words_surrounded hleft hword hright.stopsWord, hright.words_eq]

/-- **Two words**, with blanks around them and one or more between them. -/
theorem words_eq_pair_iff {first second : List Char} : words cs = [first, second] ↔
    ∃ left gap right, cs = left ++ first ++ (gap ++ second ++ right) ∧ AllBlank left ∧
      IsWord first ∧ AllBlank gap ∧ gap ≠ [] ∧ IsWord second ∧ AllBlank right := by
  constructor
  · intro h
    obtain ⟨left, rest, rfl, hleft, hfirst, hends, hrest⟩ := exists_of_words_eq_cons h
    obtain ⟨gap, right, rfl, hgap, hsecond, hright⟩ := words_eq_singleton_iff.mp hrest
    refine ⟨left, gap, right, rfl, hleft, hfirst, hgap, ?_, hsecond, hright⟩
    -- otherwise the first word would go on
    rintro rfl
    obtain ⟨c, second, rfl⟩ := List.exists_cons_of_ne_nil hsecond.ne_nil
    have hblank : isBlank c = true := hends c rfl
    rw [hsecond.not_blank c List.mem_cons_self] at hblank
    cases hblank
  · rintro ⟨left, gap, right, rfl, hleft, hfirst, hgap, hne, hsecond, hright⟩
    obtain ⟨b, gap, rfl⟩ := List.exists_cons_of_ne_nil hne
    have hends : StopsWord (b :: gap ++ second ++ right) := by
      rintro _ ⟨⟩
      exact hgap b List.mem_cons_self
    rw [words_surrounded hleft hfirst hends, words_surrounded hgap hsecond hright.stopsWord,
      hright.words_eq]

end RecordQuery.Text
