import RecordQuery.Text.LowerCase

/-!
# `Proofs.Text.LowerCase` — lower case is a fixed point

A filter that ignores case lowers its literals when it is compiled and both sides again when it is
tested. That the second lowering of a literal does nothing (`lower_lower`) is a fact about the table:
no run of the mapping leads onto a run. It is checked for pairs of runs, not for characters.
-/

namespace RecordQuery.Text

/-! ## The table -/

/-- Where a run takes a code point. -/
def CaseRun.move (r : CaseRun) (n : Nat) : Nat := ((n : Int) + r.offset).toNat

/-- A run gives code points of characters: it takes none below zero, and it gives none from the gap
    in the code points or from beyond their end. -/
def CaseRun.isValid (r : CaseRun) : Bool :=
  0 ≤ (r.first : Int) + r.offset &&
    (r.move r.last < 0xd800 || (0xdfff < r.move r.first && r.move r.last < 0x110000))

/-- Nothing that `r` gives lies on `s`: their spans are apart, or `s` takes every other code point
    and `r` gives those between. -/
def CaseRun.avoids (r s : CaseRun) : Bool :=
  r.move r.last < s.first || s.last < r.move r.first ||
    (s.step == 2 && (r.step == 2 || r.first == r.last) && (r.move r.first + s.first) % 2 == 1)

theorem CaseRun.contains_iff {r : CaseRun} {n : Nat} :
    r.contains n = true ↔ r.first ≤ n ∧ n ≤ r.last ∧ (n - r.first) % r.step = 0 := by
  simp [contains, and_assoc]

theorem CaseRun.isValidChar_move {r : CaseRun} {n : Nat} (h : r.isValid = true)
    (hr : r.contains n = true) : (r.move n).isValidChar := by
  simp only [isValid, Bool.or_eq_true, Bool.and_eq_true, decide_eq_true_eq] at h
  obtain ⟨hfirst, hlast, -⟩ := contains_iff.mp hr
  simp only [move] at h
  simp only [Nat.isValidChar, move]
  omega

theorem CaseRun.not_contains_move {r s : CaseRun} {n : Nat} (hv : r.isValid = true)
    (h : r.avoids s = true) (hr : r.contains n = true) : s.contains (r.move n) = false := by
  simp only [isValid, Bool.and_eq_true, decide_eq_true_eq] at hv
  simp only [avoids, Bool.or_eq_true, Bool.and_eq_true, decide_eq_true_eq, beq_iff_eq] at h
  simp only [move] at h
  obtain ⟨hfirst, hlast, hstep⟩ := contains_iff.mp hr
  rw [Bool.eq_false_iff, ne_eq, contains_iff, move]
  rintro ⟨sfirst, slast, sstep⟩
  -- the spans are apart, or the one run gives odd and the other has even code points
  rcases h with (h | h) | ⟨⟨h2, hr2 | hr1⟩, hodd⟩
  · omega
  · omega
  · rw [h2] at sstep; rw [hr2] at hstep; omega
  · rw [h2] at sstep; omega

/-- The character `İ` as a run of its own; the mapping has two characters for it. -/
def dottedRun : CaseRun := ⟨'İ'.toNat, 'İ'.toNat, 1, 0⟩

theorem lowerRuns_avoid :
    (lowerRuns.all fun r => r.isValid && (dottedRun :: lowerRuns).all r.avoids) = true := by
  decide +kernel

/-- Only the first run of the mapping has ASCII characters. -/
theorem lowerRuns_ascii :
    ((dottedRun :: lowerRuns).all fun r =>
      (r.first == 0x41 && r.last == 0x5a && r.step == 1) || 0x80 ≤ r.first) = true := by
  decide +kernel

theorem lowerRuns_capitals :
    (lowerRuns.any fun r => r.first == 0x41 && r.last == 0x5a && r.step == 1) = true := by
  decide +kernel

theorem lowerRuns_sigma : (lowerRuns.any fun r => r.contains 'Σ'.toNat) = true := by
  decide +kernel

theorem toLower_ascii : ∀ n < 0x80, ((Char.ofNat n).toLower = Char.ofNat n ∨ 0x41 ≤ n ∧ n ≤ 0x5a) ∧
    (Char.ofNat n).toLower.toNat < 0x80 ∧
    ¬(0x41 ≤ (Char.ofNat n).toLower.toNat ∧ (Char.ofNat n).toLower.toNat ≤ 0x5a) := by
  decide +kernel

theorem toNat_ofNat {n : Nat} (h : n.isValidChar) : (Char.ofNat n).toNat = n := by
  rw [Char.ofNat, dif_pos h]
  rfl

/-! ## Lowered characters -/

/-- A character that no run moves. -/
def IsLowered (c : Char) : Prop := ∀ r ∈ dottedRun :: lowerRuns, r.contains c.toNat = false

theorem IsLowered.ne_sigma {c : Char} (h : IsLowered c) : c ≠ 'Σ' := by
  rintro rfl
  obtain ⟨r, hr, hcontains⟩ := List.any_eq_true.mp lowerRuns_sigma
  rw [h r (List.mem_cons_of_mem _ hr)] at hcontains
  cases hcontains

/-- The characters that lower case has outside the runs: the two of `İ` and the two sigmas. -/
theorem isLowered_special : ∀ c ∈ ['i', '\u0307'] ++ ['σ', 'ς'], IsLowered c := by
  have h : ((['i', '\u0307'] ++ ['σ', 'ς']).all fun c =>
      (dottedRun :: lowerRuns).all fun r => !r.contains c.toNat) = true := by decide +kernel
  intro c hc r hr
  have := List.all_eq_true.mp (List.all_eq_true.mp h c hc) r hr
  simpa using this

/-- Among the ASCII characters no run moves those that are no capitals. -/
theorem isLowered_of_ascii {c : Char} (hc : c.toNat < 0x80)
    (h : ¬(0x41 ≤ c.toNat ∧ c.toNat ≤ 0x5a)) : IsLowered c := by
  intro r hr
  have hrun := List.all_eq_true.mp lowerRuns_ascii r hr
  simp only [Bool.or_eq_true, Bool.and_eq_true, beq_iff_eq, decide_eq_true_eq] at hrun
  rw [Bool.eq_false_iff, ne_eq, CaseRun.contains_iff]
  rintro ⟨hfirst, hlast, -⟩
  omega

theorem IsLowered.not_capital {c : Char} (h : IsLowered c) :
    ¬(0x41 ≤ c.toNat ∧ c.toNat ≤ 0x5a) := by
  obtain ⟨r, hr, hrun⟩ := List.any_eq_true.mp lowerRuns_capitals
  simp only [Bool.and_eq_true, beq_iff_eq] at hrun
  have hcontains := h r (List.mem_cons_of_mem _ hr)
  rw [Bool.eq_false_iff, ne_eq, CaseRun.contains_iff, hrun.1.1, hrun.1.2, hrun.2] at hcontains
  omega

theorem lowerChar_of_isLowered {c : Char} (h : IsLowered c) : lowerChar c = [c] := by
  unfold lowerChar
  split
  · rename_i hc
    have hlow := (toLower_ascii c.toNat hc).1.resolve_right h.not_capital
    rw [Char.ofNat_toNat] at hlow
    rw [hlow]
  · rw [if_neg, List.find?_eq_none.mpr]
    · intro r hr
      simp [h r (List.mem_cons_of_mem _ hr)]
    · rintro rfl
      exact absurd (h _ List.mem_cons_self) (by decide)

/-- **The mapping gives characters that no run moves.** -/
theorem isLowered_of_mem_lowerChar {c d : Char} (h : d ∈ lowerChar c) : IsLowered d := by
  unfold lowerChar at h
  split at h
  · rename_i hc
    rw [List.mem_singleton.mp h]
    have hlow := (toLower_ascii c.toNat hc).2
    rw [Char.ofNat_toNat] at hlow
    exact isLowered_of_ascii hlow.1 hlow.2
  · split at h
    · exact isLowered_special d (List.mem_append_left _ h)
    · rename_i hdot
      split at h
      · -- a run moves it, and what it gives lies on no run
        rename_i r hr
        have hcheck := List.all_eq_true.mp lowerRuns_avoid r (List.mem_of_find?_eq_some hr)
        simp only [Bool.and_eq_true] at hcheck
        have hcontains := List.find?_some hr
        have hnat : d.toNat = r.move c.toNat := by
          rw [List.mem_singleton.mp h]
          exact toNat_ofNat (CaseRun.isValidChar_move hcheck.1 hcontains)
        intro s hs
        rw [hnat]
        exact CaseRun.not_contains_move hcheck.1 (List.all_eq_true.mp hcheck.2 s hs) hcontains
      · -- no run moves it
        rename_i hnone
        rw [List.mem_singleton.mp h]
        intro r hr
        rcases List.mem_cons.mp hr with rfl | hr
        · rw [Bool.eq_false_iff, ne_eq, CaseRun.contains_iff]
          rintro ⟨hfirst, hlast, -⟩
          exact hdot (Char.toNat_inj.mp (Nat.le_antisymm hlast hfirst))
        · simpa using List.find?_eq_none.mp hnone r hr

/-! ## Lowered texts -/

theorem isLowered_of_mem_lowerAfter {before cs : List Char} {d : Char}
    (h : d ∈ lowerAfter before cs) : IsLowered d := by
  induction cs generalizing before with
  | nil => cases h
  | cons c cs ih =>
      simp only [lowerAfter] at h
      rcases List.mem_append.mp h with h | h
      · split at h
        · split at h
          · exact isLowered_special d (by simp [List.mem_singleton.mp h])
          · exact isLowered_special d (by simp [List.mem_singleton.mp h])
        · exact isLowered_of_mem_lowerChar h
      · exact ih h

theorem lowerAfter_of_isLowered {before cs : List Char} (h : ∀ c ∈ cs, IsLowered c) :
    lowerAfter before cs = cs := by
  induction cs generalizing before with
  | nil => rfl
  | cons c cs ih =>
      have hc := h c List.mem_cons_self
      simp only [lowerAfter, if_neg hc.ne_sigma, lowerChar_of_isLowered hc,
        ih fun d hd => h d (List.mem_cons_of_mem _ hd), List.singleton_append]

/-- **Lower case is a fixed point.** -/
theorem lower_lower (s : String) : lower (lower s) = lower s := by
  unfold lower
  rw [String.toList_ofList, lowerAfter_of_isLowered fun c hc => isLowered_of_mem_lowerAfter hc]

end RecordQuery.Text
