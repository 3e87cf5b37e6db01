import RecordQuery.Proofs.Filter.Scanner

/-!
# `Proofs.Filter.Numeral` — the numbers of the filter language

Numbers have a grammar without recursion, `[+-]? digits ('.' digits)? ([eE] [+-]? digits)?`. The
scanner measures them part by part, and each part stops where the next one may start; so it takes
the whole of a number that white space or the end of the text follows, and nothing but numbers.

## Contents
- `Halts`, `Ends`, `runWidth_append`, `exists_run`: runs of characters and what stops them.
- `IsSign`, `IsDigits`, `IsFraction`, `IsExponent`, `IsNumeral`: the grammar.
- `…_append` and `exists_…` for each part: it is measured as it was written, and what was measured
  is such a part.
- `IsNumeral.readFront_append`: a number is read where it ends.
- `exists_numeral`: what is taken for a number is one.
-/

namespace RecordQuery.Filter

open Text

/-! ## Runs of characters -/

/-- The list does not go on with a character of the class. -/
def Halts (p : Char → Bool) (rest : List Char) : Prop := ∀ c ∈ rest.head?, p c = false

/-- The list is over or goes on with white space. -/
def Ends (rest : List Char) : Prop := ∀ c ∈ rest.head?, isBlank c = true

section Runs

variable {p : Char → Bool} {c : Char} {rest : List Char}

theorem halts_cons (h : p c = false) : Halts p (c :: rest) := by
  rintro _ ⟨⟩
  exact h

/-- A run is as wide as it was written if what follows stops it. -/
theorem runWidth_append {run : List Char} (hrun : ∀ c ∈ run, p c = true) (h : Halts p rest) :
    runWidth p (run ++ rest) = run.length := by
  induction run with
  | nil =>
      cases rest with
      | nil => rfl
      | cons c rest => exact runWidth_cons_of_neg rest (ne_true_of_eq_false (h c rfl))
  | cons c run ih =>
      rw [List.cons_append, runWidth_cons_of_pos _ (hrun c List.mem_cons_self),
        ih fun d hd => hrun d (List.mem_cons_of_mem _ hd)]
      rfl

/-- Every text starts with a run, which may be empty and goes as far as it can. -/
theorem exists_run (p : Char → Bool) (cs : List Char) : ∃ run rest,
    cs = run ++ rest ∧ (∀ c ∈ run, p c = true) ∧ Halts p rest ∧ runWidth p cs = run.length := by
  refine ⟨cs.takeWhile p, cs.dropWhile p, List.takeWhile_append_dropWhile.symm,
    List.all_eq_true.mp List.all_takeWhile, ?_, rfl⟩
  intro c hc
  have hhead := List.head?_dropWhile_not p cs
  rw [hc] at hhead
  exact hhead

end Runs

/-! ## Classes of characters -/

/-- The characters of words have a place below `z`, and no white space is there. -/
theorem isBlank_of_isWordPart {c : Char} (h : isWordPart c = true) : isBlank c = false := by
  have hrange : 48 ≤ c.toNat ∧ c.toNat ≤ 122 := by
    simp only [isWordPart, isWordStart, isDigit, Bool.or_eq_true, Bool.and_eq_true,
      decide_eq_true_iff, beq_iff_eq] at h
    rcases h with ((⟨hlow, hhigh⟩ | ⟨hlow, hhigh⟩) | rfl) | ⟨hlow, hhigh⟩
    · have hlow : 97 ≤ c.toNat := hlow
      have hhigh : c.toNat ≤ 122 := hhigh
      omega
    · have hlow : 65 ≤ c.toNat := hlow
      have hhigh : c.toNat ≤ 90 := hhigh
      omega
    · decide
    · have hlow : 48 ≤ c.toNat := hlow
      have hhigh : c.toNat ≤ 57 := hhigh
      omega
  unfold isBlank
  simp only [Bool.or_eq_false_iff, Bool.and_eq_false_iff, decide_eq_false_iff_not,
    beq_eq_false_iff_ne]
  omega

theorem isWordPart_of_isWordStart {c : Char} (h : isWordStart c = true) : isWordPart c = true := by
  rw [isWordPart, h]
  rfl

theorem isWordPart_of_isDigit {c : Char} (h : isDigit c = true) : isWordPart c = true := by
  rw [isWordPart, h, Bool.or_true]

theorem isWordStart_of_isDigit {c : Char} (h : isDigit c = true) : isWordStart c = false := by
  rw [isDigit, Bool.and_eq_true, decide_eq_true_iff, decide_eq_true_iff] at h
  have hhigh : c.toNat ≤ 57 := h.2
  simp only [isWordStart, Bool.or_eq_false_iff, Bool.and_eq_false_iff, decide_eq_false_iff_not,
    beq_eq_false_iff_ne]
  refine ⟨⟨Or.inl fun hlow => ?_, Or.inl fun hlow => ?_⟩, fun heq => ?_⟩
  · have hlow : 97 ≤ c.toNat := hlow
    omega
  · have hlow : 65 ≤ c.toNat := hlow
    omega
  · rw [heq] at hhigh
    exact absurd hhigh (by decide)

/-- No sign starts with a character of words. -/
theorem sign?_of_isWordPart {c : Char} (cs : List Char) (h : isWordPart c = true) :
    sign? (c :: cs) = none := by
  unfold sign?
  split
  all_goals first | rfl | (rename_i heq; cases heq; cases h)

section Ends

variable {rest : List Char}

theorem Ends.halts_isWordPart (h : Ends rest) : Halts isWordPart rest := by
  intro c hc
  cases hpart : isWordPart c with
  | false => rfl
  | true => exact absurd (h c hc) (ne_true_of_eq_false (isBlank_of_isWordPart hpart))

theorem Ends.halts_isDigit (h : Ends rest) : Halts isDigit rest := by
  intro c hc
  cases hdigit : isDigit c with
  | false => rfl
  | true =>
      exact absurd (isWordPart_of_isDigit hdigit) (ne_true_of_eq_false (h.halts_isWordPart c hc))

theorem Ends.head_ne {d : Char} (h : Ends rest) (hd : isBlank d = false) : rest.head? ≠ some d := by
  intro hhead
  rw [h d hhead] at hd
  cases hd

end Ends

/-! ## Numbers -/

/-- An optional sign. -/
inductive IsSign : List Char → Prop where
  | absent : IsSign []
  | plus : IsSign ['+']
  | minus : IsSign ['-']

/-- One digit or more. -/
def IsDigits (cs : List Char) : Prop := cs ≠ [] ∧ ∀ c ∈ cs, isDigit c = true

/-- An optional point with digits after it. -/
inductive IsFraction : List Char → Prop where
  | absent : IsFraction []
  | present {digits : List Char} : IsDigits digits → IsFraction ('.' :: digits)

/-- An optional power of ten. -/
inductive IsExponent : List Char → Prop where
  | absent : IsExponent []
  | present {c : Char} {sign digits : List Char} : c = 'e' ∨ c = 'E' → IsSign sign →
      IsDigits digits → IsExponent (c :: (sign ++ digits))

/-- A number: `[+-]? digits ('.' digits)? ([eE] [+-]? digits)?`. -/
inductive IsNumeral : List Char → Prop where
  | intro {sign whole part power : List Char} : IsSign sign → IsDigits whole → IsFraction part →
      IsExponent power → IsNumeral (sign ++ (whole ++ (part ++ power)))

section Numbers

variable {cs rest : List Char}

theorem IsDigits.exists_cons {digits : List Char} (h : IsDigits digits) :
    ∃ d ds, digits = d :: ds ∧ isDigit d = true := by
  obtain ⟨hne, hdigits⟩ := h
  cases digits with
  | nil => exact absurd rfl hne
  | cons d ds => exact ⟨d, ds, rfl, hdigits d List.mem_cons_self⟩

theorem IsDigits.runWidth_ne_zero {digits : List Char} (h : IsDigits digits)
    (hrest : Halts isDigit rest) : (runWidth isDigit (digits ++ rest) != 0) = true := by
  rw [runWidth_append h.2 hrest, bne_iff_ne]
  exact fun hzero => h.1 (List.eq_nil_of_length_eq_zero hzero)

/-- A run of digits that is not empty. -/
theorem exists_digits (h : runWidth isDigit cs ≠ 0) : ∃ digits rest,
    cs = digits ++ rest ∧ IsDigits digits ∧ runWidth isDigit cs = digits.length := by
  obtain ⟨digits, rest, hcs, hdigits, -, hwidth⟩ := exists_run isDigit cs
  refine ⟨digits, rest, hcs, ⟨fun hnil => h ?_, hdigits⟩, hwidth⟩
  rw [hwidth, hnil]
  rfl

theorem IsSign.signWidth_append {sign digits : List Char} (h : IsSign sign)
    (hdigits : IsDigits digits) : signWidth (sign ++ (digits ++ rest)) = sign.length := by
  obtain ⟨d, ds, rfl, hd⟩ := hdigits.exists_cons
  cases h with
  | absent => exact signWidth_of_isDigit _ hd
  | plus => rfl
  | minus => rfl

theorem exists_sign (cs : List Char) : ∃ sign rest,
    cs = sign ++ rest ∧ IsSign sign ∧ signWidth cs = sign.length := by
  unfold signWidth
  split
  · exact ⟨['+'], _, rfl, .plus, rfl⟩
  · exact ⟨['-'], _, rfl, .minus, rfl⟩
  · exact ⟨[], cs, rfl, .absent, rfl⟩

/-- A fraction stops before what is neither a point nor a digit. -/
theorem IsFraction.fraction_append {part : List Char} (h : IsFraction part)
    (hdot : rest.head? ≠ some '.') (hrest : Halts isDigit rest) :
    fraction (part ++ rest) = ⟨true, part.length⟩ := by
  cases h with
  | absent =>
      unfold fraction
      split
      · rename_i heq
        exact absurd (congrArg List.head? heq) hdot
      · rfl
  | present hdigits =>
      rw [List.cons_append, fraction, hdigits.runWidth_ne_zero hrest,
        runWidth_append hdigits.2 hrest, List.length_cons, Nat.add_comm]

theorem exists_fraction (h : (fraction cs).complete = true) : ∃ part rest,
    cs = part ++ rest ∧ IsFraction part ∧ (fraction cs).width = part.length := by
  unfold fraction at h ⊢
  split at h
  · rename_i cs
    obtain ⟨digits, rest, hcs, hdigits, hwidth⟩ := exists_digits (bne_iff_ne.mp h)
    refine ⟨'.' :: digits, rest, congrArg _ hcs, .present hdigits, ?_⟩
    dsimp only
    rw [hwidth, List.length_cons, Nat.add_comm]
  · exact ⟨[], cs, rfl, .absent, rfl⟩

theorem IsExponent.exponent_append {power : List Char} (h : IsExponent power) (hrest : Ends rest) :
    exponent (power ++ rest) = ⟨true, power.length⟩ := by
  cases h with
  | absent =>
      cases rest with
      | nil => rfl
      | cons c rest =>
          -- what ends the number is no letter
          refine if_neg ?_
          rintro (rfl | rfl)
          · exact hrest.head_ne (by decide) rfl
          · exact hrest.head_ne (by decide) rfl
  | present he hsign hdigits =>
      rw [List.cons_append, exponent, if_pos he]
      dsimp only
      rw [List.append_assoc, hsign.signWidth_append hdigits, List.drop_left,
        hdigits.runWidth_ne_zero hrest.halts_isDigit,
        runWidth_append hdigits.2 hrest.halts_isDigit, List.length_cons, List.length_append]
      exact congrArg _ (by omega)

theorem exists_exponent (h : (exponent cs).complete = true) : ∃ power rest,
    cs = power ++ rest ∧ IsExponent power ∧ (exponent cs).width = power.length := by
  unfold exponent at h ⊢
  split at h
  · rename_i c cs
    split at h
    · rename_i he
      obtain ⟨sign, tail, rfl, hsign, hsignWidth⟩ := exists_sign cs
      dsimp only at h ⊢
      rw [hsignWidth, List.drop_left] at h
      obtain ⟨digits, rest, rfl, hdigits, hwidth⟩ := exists_digits (bne_iff_ne.mp h)
      refine ⟨c :: (sign ++ digits), rest, by simp, .present he hsign hdigits, ?_⟩
      rw [if_pos he, hsignWidth, List.drop_left, hwidth, List.length_cons, List.length_append]
      dsimp only
      omega
    · rename_i he
      rw [if_neg he]
      exact ⟨[], c :: cs, rfl, .absent, rfl⟩
  · exact ⟨[], [], rfl, .absent, rfl⟩

/-- What follows the whole part of a number is no digit, nor is what follows its fraction. -/
theorem IsExponent.halts_isDigit {power : List Char} (h : IsExponent power) (hrest : Ends rest) :
    Halts isDigit (power ++ rest) ∧ (power ++ rest).head? ≠ some '.' := by
  cases h with
  | absent => exact ⟨hrest.halts_isDigit, hrest.head_ne (by decide)⟩
  | present he hsign hdigits =>
      rcases he with rfl | rfl <;> exact ⟨halts_cons (by decide), by simp⟩

theorem IsFraction.halts_isDigit {part : List Char} (h : IsFraction part)
    (hrest : Halts isDigit rest) : Halts isDigit (part ++ rest) := by
  cases h with
  | absent => exact hrest
  | present hdigits => exact halts_cons (by decide)

/-- **A number is taken up to its end.** -/
theorem IsNumeral.numeral_append (h : IsNumeral cs) (hrest : Ends rest) :
    numeral (cs ++ rest) = ⟨true, cs.length⟩ := by
  obtain @⟨sign, whole, part, power, hsign, hwhole, hpart, hpower⟩ := h
  obtain ⟨hdigit, hdot⟩ := hpower.halts_isDigit hrest
  have hwidth : signWidth (sign ++ (whole ++ (part ++ (power ++ rest)))) = sign.length :=
    hsign.signWidth_append hwhole
  -- what is left behind the whole part, and behind the fraction
  have hdrop : (sign ++ (whole ++ (part ++ (power ++ rest)))).drop (sign.length + whole.length) =
      part ++ (power ++ rest) := by
    rw [← List.append_assoc, ← List.length_append, List.drop_left]
  have hdrop' : (sign ++ (whole ++ (part ++ (power ++ rest)))).drop
      (sign.length + whole.length + part.length) = power ++ rest := by
    rw [← List.drop_drop, hdrop, List.drop_left]
  simp only [List.append_assoc]
  rw [numeral]
  dsimp only
  rw [hwidth, List.drop_left, runWidth_append hwhole.2 (hpart.halts_isDigit hdigit), hdrop,
    hpart.fraction_append hdot hdigit, hdrop', hpower.exponent_append hrest]
  simp only [if_true, List.length_append, Nat.add_assoc]

/-- What is taken for a number is one. -/
theorem exists_numeral (hstart : startsNumeral cs = true) (h : (numeral cs).complete = true) :
    ∃ text rest, cs = text ++ rest ∧ IsNumeral text ∧ (numeral cs).width = text.length := by
  have hpos := runWidth_whole_pos hstart
  obtain ⟨sign, tail, rfl, hsign, hsignWidth⟩ := exists_sign cs
  rw [hsignWidth, List.drop_left] at hpos
  obtain ⟨whole, tail, rfl, hwhole, hwholeWidth⟩ := exists_digits (Nat.ne_of_gt hpos)
  have hdrop : (sign ++ (whole ++ tail)).drop (sign.length + whole.length) = tail := by
    rw [← List.append_assoc, ← List.length_append, List.drop_left]
  unfold numeral at h ⊢
  dsimp only at h ⊢
  rw [hsignWidth, List.drop_left, hwholeWidth, hdrop] at h ⊢
  split at h
  · rename_i hcomplete
    rw [if_pos hcomplete]
    obtain ⟨part, tail, rfl, hpart, hpartWidth⟩ := exists_fraction hcomplete
    rw [hpartWidth, ← List.drop_drop, hdrop, List.drop_left] at h ⊢
    obtain ⟨power, rest, rfl, hpower, hpowerWidth⟩ := exists_exponent h
    refine ⟨_, rest, ?_, .intro hsign hwhole hpart hpower, ?_⟩
    · simp only [List.append_assoc]
    · dsimp only
      rw [hpowerWidth]
      simp only [List.length_append, Nat.add_assoc]
  · cases h

theorem startsNumeral_of_isDigit {c : Char} (cs : List Char) (h : isDigit c = true) :
    startsNumeral (c :: cs) = true := by
  cases cs with
  | nil => exact h
  | cons d ds => rw [startsNumeral, h, Bool.true_or]

/-- A digit comes first in a number, or a sign with a digit after it; so nothing else is read. -/
theorem IsNumeral.exists_cons (h : IsNumeral cs) (rest : List Char) : ∃ c tail,
    cs ++ rest = c :: tail ∧ isBlank c = false ∧ sign? (c :: tail) = none ∧
      isWordStart c = false ∧ startsNumeral (c :: tail) = true := by
  obtain ⟨hsign, hwhole, -, -⟩ := h
  obtain ⟨d, ds, rfl, hd⟩ := hwhole.exists_cons
  cases hsign with
  | absent =>
      have hpart := isWordPart_of_isDigit hd
      exact ⟨d, _, rfl, isBlank_of_isWordPart hpart, sign?_of_isWordPart _ hpart,
        isWordStart_of_isDigit hd, startsNumeral_of_isDigit _ hd⟩
  | plus => exact ⟨'+', _, rfl, by decide, rfl, by decide, hd⟩
  | minus => exact ⟨'-', _, rfl, by decide, rfl, by decide, hd⟩

/-- **A number is read where it ends.** -/
theorem IsNumeral.readFront_append (h : IsNumeral cs) (hrest : Ends rest) :
    readFront (cs ++ rest) = .lexeme .number cs cs.length := by
  have hwidth := h.numeral_append hrest
  obtain ⟨c, tail, hcs, hblank, hsign, hword, hstart⟩ := h.exists_cons rest
  rw [hcs, readFront, if_neg (ne_true_of_eq_false hblank), hsign]
  dsimp only
  rw [if_neg (ne_true_of_eq_false hword), if_pos hstart, readNumeral, ← hcs, hwidth]
  dsimp only
  rw [if_pos rfl, Reading.plain, List.take_left]

end Numbers
end RecordQuery.Filter
