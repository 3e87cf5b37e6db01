import RecordQuery.Text.Name

/-!
# `Proofs.Text.Name` — texts that make names of constants

The spelling of constants changes no character that belongs in names to one that does not, and the
only ones that it brings in are low lines. So a text makes the name of a constant if it is a name
but for hyphens.

## Contents
- `constantChar`, `constantCaseAfter_cons`: what becomes of one character.
- `isSpellable`, `isName_constantCase`: **which texts make a name**; names do
  (`isSpellable_of_isName`), and names with the mark of plain names do not (`not_isSpellable_raw`).
-/

namespace RecordQuery.Text

/-! ## Characters -/

theorem isNameStart_of_letter {c : Char}
    (h : 0x41 ≤ c.toNat ∧ c.toNat ≤ 0x5a ∨ 0x61 ≤ c.toNat ∧ c.toNat ≤ 0x7a) :
    isNameStart c = true := by
  have hranges : inRanges nameStartRanges c.toNat = true := by
    rcases h with h | h
    · exact List.any_eq_true.mpr ⟨(0x41, 0x5a), List.mem_cons_self, by simpa using h⟩
    · exact List.any_eq_true.mpr
        ⟨(0x61, 0x7a), List.mem_cons_of_mem _ List.mem_cons_self, by simpa using h⟩
  rw [isNameStart, hranges, Bool.or_true]

theorem toUpper_small : ∀ n < 0x7b, 0x61 ≤ n →
    0x41 ≤ (Char.ofNat n).toUpper.toNat ∧ (Char.ofNat n).toUpper.toNat ≤ 0x5a := by
  decide

/-- A character of names stays one as a capital, and no other becomes one. -/
theorem isName_toUpper (c : Char) :
    isNameStart c.toUpper = isNameStart c ∧ isNamePart c.toUpper = isNamePart c := by
  by_cases hsmall : 0x61 ≤ c.toNat ∧ c.toNat ≤ 0x7a
  · have hupper := toUpper_small c.toNat (by omega) hsmall.1
    rw [Char.ofNat_toNat] at hupper
    have hstart : isNameStart c.toUpper = true := isNameStart_of_letter (Or.inl hupper)
    have hstart' : isNameStart c = true := isNameStart_of_letter (Or.inr hsmall)
    rw [isNamePart, isNamePart, hstart, hstart', Bool.true_or, Bool.true_or]
    exact ⟨rfl, rfl⟩
  · rw [show c.toUpper = c from dif_neg hsmall]
    exact ⟨rfl, rfl⟩

/-- A character in the spelling of constants. -/
def constantChar (c : Char) : Char :=
  if isUpper c then c else if c = '_' ∨ c = '-' then '_' else c.toUpper

/-- A low line may come in before a character. -/
theorem constantCaseAfter_cons (small : Bool) (c : Char) (cs : List Char) :
    ∃ small', constantCaseAfter small (c :: cs) =
      (if isUpper c && small then ['_'] else []) ++ constantChar c :: constantCaseAfter small' cs := by
  rw [constantCaseAfter, constantChar]
  split
  · rename_i hupper
    rw [hupper]
    cases small <;> exact ⟨false, rfl⟩
  · rename_i hupper
    rw [Bool.not_eq_true] at hupper
    rw [hupper]
    split
    · exact ⟨false, rfl⟩
    · exact ⟨true, rfl⟩

/-- **The spelling of constants makes name characters of those that belong in names, and of
hyphens.** -/
theorem isName_constantChar (c : Char) :
    isNameStart (constantChar c) = (isNameStart c || c == '-') ∧
      isNamePart (constantChar c) = (isNamePart c || c == '-') := by
  have hhyphen : isUpper '-' = false := by decide +kernel
  have hline : isNameStart '_' = true ∧ isNamePart '_' = true := ⟨rfl, rfl⟩
  by_cases hc : c = '-'
  · subst hc
    rw [constantChar, hhyphen, if_neg Bool.false_ne_true, if_pos (Or.inr rfl), hline.1, hline.2]
    simp
  · rw [beq_false_of_ne hc, Bool.or_false, Bool.or_false, constantChar]
    split
    · exact ⟨rfl, rfl⟩
    · split
      · rename_i hmark
        rw [hmark.resolve_right hc]
        exact ⟨rfl, rfl⟩
      · exact isName_toUpper c

/-! ## Texts -/

/-- The text is a name once its hyphens are low lines. -/
def isSpellable : List Char → Bool
  | [] => false
  | c :: cs => (isNameStart c || c == '-') && cs.all fun c => isNamePart c || c == '-'

/-- By induction on the text, `small` being what the character before it was. -/
theorem all_isNamePart_constantCaseAfter (small : Bool) (cs : List Char) :
    (constantCaseAfter small cs).all isNamePart = cs.all fun c => isNamePart c || c == '-' := by
  have hline : isNamePart '_' = true := rfl
  induction cs generalizing small with
  | nil => rfl
  | cons c cs ih =>
      obtain ⟨small', heq⟩ := constantCaseAfter_cons small c cs
      have hbefore : (if isUpper c && small then ['_'] else []).all isNamePart = true := by
        split
        · rw [List.all_cons, hline]
          rfl
        · rfl
      rw [heq, List.all_append, hbefore, List.all_cons, (isName_constantChar c).2, ih,
        List.all_cons, Bool.true_and]

/-- **A text makes the name of a constant if it is a name but for hyphens.** -/
theorem isName_constantCase (name : String) :
    isName (constantCase name).toList = isSpellable name.toList := by
  rw [constantCase, String.toList_ofList]
  cases name.toList with
  | nil => rfl
  | cons c cs =>
      obtain ⟨small, heq⟩ := constantCaseAfter_cons false c cs
      rw [heq, Bool.and_false, if_neg Bool.false_ne_true, List.nil_append, isName, isSpellable,
        (isName_constantChar c).1, all_isNamePart_constantCaseAfter]

theorem isSpellable_of_isName {cs : List Char} (h : isName cs = true) : isSpellable cs = true := by
  cases cs with
  | nil => cases h
  | cons c cs =>
      rw [isName, Bool.and_eq_true, List.all_eq_true] at h
      rw [isSpellable, h.1, Bool.true_or, Bool.true_and, List.all_eq_true]
      intro d hd
      rw [h.2 d hd, Bool.true_or]

theorem not_isSpellable_raw (cs : List Char) : isSpellable ('r' :: '#' :: cs) = false := by
  have hmark : (isNamePart '#' || '#' == '-') = false := by decide +kernel
  rw [isSpellable, List.all_cons, hmark, Bool.false_and, Bool.and_false]

end RecordQuery.Text
