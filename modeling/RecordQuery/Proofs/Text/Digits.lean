import RecordQuery.Text.Digits

/-!
# `Proofs.Text.Digits` — numbers are read from the digits they write

- `digitsValue_decimalDigits`, `digitsValue_paddedDigits`: the digits of a number have its value.
- `isDigit_of_mem_decimalDigits`, `decimalDigits_head`: they are digits, and none of them leads in
  vain.
- `digitsValue_append`, `digitsValue_zeros`, `digitsValue_lt`: digits side by side.
- `length_decimalDigits_bounds`, `length_paddedDigits`: how many digits there are.
-/

namespace RecordQuery.Text

theorem isDigit_eq (c : Char) : isDigit c = c.isDigit := by
  rw [Bool.eq_iff_iff, isDigit, Char.isDigit, Bool.and_eq_true, Bool.and_eq_true,
    decide_eq_true_iff, decide_eq_true_iff, decide_eq_true_iff, decide_eq_true_iff]
  exact Iff.rfl

theorem digitsValue_eq (cs : List Char) : digitsValue cs = Nat.ofDigitChars 10 cs 0 := by
  rw [digitsValue, Nat.ofDigitChars_eq_foldl]
  congr
  funext n c
  rw [digitValue, Nat.mul_comm]

/-- Digits side by side. -/
theorem digitsValue_append (as bs : List Char) :
    digitsValue (as ++ bs) = digitsValue as * 10 ^ bs.length + digitsValue bs := by
  rw [digitsValue_eq, digitsValue_eq as, digitsValue_eq bs, Nat.ofDigitChars_append,
    Nat.ofDigitChars_eq_ofDigitChars_zero, Nat.mul_comm]

theorem digitsValue_zeros (n : Nat) : digitsValue (List.replicate n '0') = 0 := by
  rw [digitsValue_eq, Nat.ofDigitChars_replicate_zero, Nat.mul_zero]

theorem isDigit_of_mem_zeros {n : Nat} {c : Char} (h : c ∈ List.replicate n '0') :
    isDigit c = true := by
  rw [(List.mem_replicate.mp h).2]
  decide

theorem digitsValue_digitChar {n : Nat} (h : n < 10) : digitsValue [Nat.digitChar n] = n := by
  rw [digitsValue_eq, Nat.ofDigitChars_cons_digitChar_of_lt_ten h, Nat.ofDigitChars_nil]
  omega

theorem isDigit_digitChar {n : Nat} (h : n < 10) : isDigit (Nat.digitChar n) = true := by
  rw [isDigit_eq, Nat.isDigit_digitChar]
  exact decide_eq_true h

theorem digitValue_lt {c : Char} (h : isDigit c = true) : digitValue c < 10 := by
  rw [isDigit, Bool.and_eq_true, decide_eq_true_iff, decide_eq_true_iff] at h
  have hhigh : c.toNat ≤ 57 := h.2
  show c.toNat - 48 < 10
  omega

/-- Digits write a number below the power of ten for their number. -/
theorem digitsValue_lt {digits : List Char} (h : ∀ c ∈ digits, isDigit c = true) :
    digitsValue digits < 10 ^ digits.length := by
  induction digits with
  | nil => decide
  | cons c digits ih =>
      have hfirst := digitValue_lt (h c List.mem_cons_self)
      have hrest := ih fun d hd => h d (List.mem_cons_of_mem _ hd)
      have hone : digitsValue [c] = digitValue c := Nat.zero_add _
      have hle : (digitValue c + 1) * 10 ^ digits.length ≤ 10 * 10 ^ digits.length :=
        Nat.mul_le_mul_right _ hfirst
      rw [← List.singleton_append, digitsValue_append, hone, List.length_append,
        List.length_singleton, Nat.add_comm 1, Nat.pow_succ, Nat.mul_comm _ 10]
      rw [Nat.add_mul, Nat.one_mul] at hle
      omega

/-! ## Decimal digits -/

/-- **Decimal digits have the value of their number.** -/
theorem digitsValue_decimalDigits (n : Nat) : digitsValue (decimalDigits n) = n := by
  rw [digitsValue_eq]
  exact Nat.ofDigitChars_toDigits (by decide) (by decide)

theorem isDigit_of_mem_decimalDigits {n : Nat} {c : Char} (h : c ∈ decimalDigits n) :
    isDigit c = true := by
  rw [isDigit_eq]
  exact Nat.isDigit_of_mem_toDigits (by decide) (by decide) h

theorem decimalDigits_ne_nil (n : Nat) : decimalDigits n ≠ [] := Nat.toDigits_ne_nil

/-- Only zero is written with a leading zero. -/
theorem decimalDigits_head {n : Nat} (h : (decimalDigits n).head? = some '0') : n = 0 := by
  induction n using Nat.strongRecOn with
  | ind n ih =>
      rw [decimalDigits, Nat.toDigits_eq_if (by decide)] at h
      split at h
      · simpa using h
      · rename_i hn
        cases hfront : Nat.toDigits 10 (n / 10) with
        | nil => exact absurd hfront Nat.toDigits_ne_nil
        | cons c cs =>
            rw [hfront] at h
            have := ih (n / 10) (by omega) (by rw [decimalDigits, hfront]; exact h)
            omega

theorem decimalDigits_zero : decimalDigits 0 = ['0'] := Nat.toDigits_zero 10

/-- The number of digits bounds the number. -/
theorem length_decimalDigits_le {n k : Nat} (hk : 0 < k) :
    (decimalDigits n).length ≤ k ↔ n < 10 ^ k :=
  Nat.length_toDigits_le_iff (by decide) hk

/-- The number of digits tells the size of a number. -/
theorem length_decimalDigits_bounds {n : Nat} (hn : 0 < n) :
    10 ^ ((decimalDigits n).length - 1) ≤ n ∧ n < 10 ^ (decimalDigits n).length := by
  have hpos := List.length_pos_iff.mpr (decimalDigits_ne_nil n)
  refine ⟨?_, (length_decimalDigits_le hpos).mp (Nat.le_refl _)⟩
  by_cases hone : (decimalDigits n).length - 1 = 0
  · rw [hone]
    exact hn
  · apply Nat.not_lt.mp
    intro hlt
    have hle := (length_decimalDigits_le (Nat.pos_of_ne_zero hone)).mpr hlt
    omega

/-! ## Padded digits -/

theorem length_paddedDigits (width n : Nat) : (paddedDigits width n).length = width := by
  induction width generalizing n with
  | zero => rfl
  | succ width ih => rw [paddedDigits, List.length_append, ih, List.length_singleton]

theorem paddedDigits_ne_nil {width : Nat} (h : 0 < width) (n : Nat) : paddedDigits width n ≠ [] :=
  List.ne_nil_of_length_pos (by rw [length_paddedDigits]; exact h)

theorem isDigit_of_mem_paddedDigits {width n : Nat} {c : Char} (h : c ∈ paddedDigits width n) :
    isDigit c = true := by
  induction width generalizing n with
  | zero => simp [paddedDigits] at h
  | succ width ih =>
      rcases List.mem_append.mp h with h | h
      · exact ih h
      · rw [List.mem_singleton.mp h]
        exact isDigit_digitChar (Nat.mod_lt _ (by decide))

/-- **Padded digits have the value of their number**, as far as they reach. -/
theorem digitsValue_paddedDigits (width n : Nat) :
    digitsValue (paddedDigits width n) = n % 10 ^ width := by
  induction width generalizing n with
  | zero => rw [Nat.pow_zero, Nat.mod_one]; rfl
  | succ width ih =>
      rw [paddedDigits, digitsValue_append, ih, digitsValue_digitChar (Nat.mod_lt _ (by decide)),
        List.length_singleton, Nat.pow_one, Nat.pow_succ, Nat.mul_comm (10 ^ width) 10,
        Nat.mod_mul]
      omega

end RecordQuery.Text
