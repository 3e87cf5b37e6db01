import RecordQuery.Proofs.Number.Rational
import RecordQuery.Proofs.Text.Digits

/-!
# `Proofs.Number.Rounding` — every rational near a magnitude is rounded to it

The rationals that round to a magnitude form an interval around it (`RoundsTo`): half a step up and
half a step down, where the steps below a power of two are half as long. An end belongs to it if the
significand is even. `rankOfQuotient_eq` says that rounding gives the magnitude for all of them, and
`toBinary64_eq` that reading a decimal does.
-/

namespace RecordQuery

open Rational

/-! ## Rounding to an integer -/

/-- No integer is nearer to the rational; halfway between two it is the even one. -/
structure Nearest (q : Rat) (m : Nat) : Prop where
  low : (m : Rat) - 1 / 2 ≤ q
  high : q ≤ (m : Rat) + 1 / 2
  strict : m % 2 = 1 → (m : Rat) - 1 / 2 < q ∧ q < (m : Rat) + 1 / 2

/-- Bounds of a quotient by halves, in natural numbers. -/
theorem Nearest.nat {num den m : Nat} (hden : 0 < den) (h : Nearest ((num : Rat) / den) m) :
    2 * (m * den) ≤ 2 * num + den ∧ 2 * num ≤ 2 * (m * den) + den ∧
      (m % 2 = 1 → 2 * (m * den) < 2 * num + den ∧ 2 * num < 2 * (m * den) + den) := by
  have hpos : (0 : Rat) < den := Rat.natCast_pos.mpr hden
  obtain ⟨hlow, hhigh, hstrict⟩ := h
  rw [le_div_iff hpos] at hlow
  rw [div_le_iff hpos] at hhigh
  rw [Rat.lt_div_iff hpos, Rat.div_lt_iff hpos] at hstrict
  refine ⟨Rat.natCast_le_natCast.mp ?_, Rat.natCast_le_natCast.mp ?_, fun hodd =>
    ⟨Rat.natCast_lt_natCast.mp ?_, Rat.natCast_lt_natCast.mp ?_⟩⟩
  all_goals
    simp only [Rat.natCast_add, Rat.natCast_mul, Rat.natCast_ofNat]
    grind

theorem roundHalfEven_eq {num den m : Nat} (hden : 0 < den)
    (h : Nearest ((num : Rat) / den) m) : roundHalfEven num den = m := by
  obtain ⟨hlow, hhigh, hstrict⟩ := h.nat hden
  have hnum := Nat.div_add_mod num den
  have hrest := Nat.mod_lt num hden
  unfold roundHalfEven
  generalize num / den = q at hnum ⊢
  generalize num % den = r at hnum hrest ⊢
  -- the integer is the quotient rounded down, or the next one
  have hle : m ≤ q + 1 := by
    by_cases hm : m ≤ q + 1
    · exact hm
    · have hmul : (q + 2) * den ≤ m * den := Nat.mul_le_mul_right den (by omega)
      rw [Nat.add_mul, Nat.mul_comm q den] at hmul
      omega
  have hge : q ≤ m := by
    by_cases hm : q ≤ m
    · exact hm
    · have hmul : (m + 1) * den ≤ q * den := Nat.mul_le_mul_right den (by omega)
      rw [Nat.add_mul, Nat.mul_comm q den] at hmul
      omega
  have hcases : m = q ∨ m = q + 1 := by omega
  rw [← hnum, Nat.mul_comm den q] at hlow hhigh hstrict
  rcases hcases with rfl | rfl
  · simp only
    split
    · rfl
    · split <;> omega
  · rw [Nat.add_mul, Nat.one_mul] at hlow hhigh hstrict
    simp only
    split
    · omega
    · split <;> omega

/-! ## Binary logarithms -/

theorem two_pow_log2_le {n : Nat} (hn : 0 < n) : (2 : Rat) ^ (n.log2 : Int) ≤ n := by
  rw [Rat.zpow_natCast, ← Rat.natCast_ofNat, ← Rat.natCast_pow]
  exact Rat.natCast_le_natCast.mpr (Nat.log2_self_le (Nat.ne_of_gt hn))

theorem lt_two_pow_log2 (n : Nat) : (n : Rat) < (2 : Rat) ^ (n.log2 + 1 : Int) := by
  rw [show (n.log2 + 1 : Int) = ((n.log2 + 1 : Nat) : Int) from rfl, Rat.zpow_natCast,
    ← Rat.natCast_ofNat, ← Rat.natCast_pow]
  exact Rat.natCast_lt_natCast.mpr Nat.lt_log2_self

/-- Whether a power of two fits into a quotient is decided in natural numbers. -/
theorem fits_iff {num den : Nat} (hden : 0 < den) (e : Int) :
    (if 0 ≤ e then den * 2 ^ e.toNat ≤ num else den ≤ num * 2 ^ (-e).toNat) ↔
      (2 : Rat) ^ e ≤ (num : Rat) / den := by
  have hpos : (0 : Rat) < den := Rat.natCast_pos.mpr hden
  rw [le_div_iff hpos]
  split
  · rename_i he
    rw [zpow_toNat 2 he, ← Rat.natCast_le_natCast, Rat.natCast_mul, Rat.natCast_pow,
      Rat.natCast_ofNat, Rat.mul_comm]
  · rename_i he
    have hpow : (0 : Rat) < 2 ^ (-e).toNat := Rat.pow_pos (by decide)
    rw [zpow_neg_toNat 2 (by omega), ← Rat.natCast_le_natCast, Rat.natCast_mul, Rat.natCast_pow,
      Rat.natCast_ofNat, ← div_le_iff hpow]
    rw [Rat.div_def, Rat.div_def, Rat.one_mul, Rat.mul_comm]

/-- **The binary logarithm of a quotient**, rounded down. -/
theorem floorLog2_spec {num den : Nat} (hnum : 0 < num) (hden : 0 < den) :
    (2 : Rat) ^ floorLog2 num den ≤ (num : Rat) / den ∧
      (num : Rat) / den < (2 : Rat) ^ (floorLog2 num den + 1) := by
  have hpos : (0 : Rat) < den := Rat.natCast_pos.mpr hden
  have hfits := @fits_iff num den hden ((num.log2 : Int) - den.log2)
  have hpow (e : Int) : (0 : Rat) < 2 ^ e := Rat.zpow_pos (by decide)
  by_cases h : (2 : Rat) ^ ((num.log2 : Int) - den.log2) ≤ (num : Rat) / den
  · -- the difference of the logarithms fits, and one more is too much for the numerator
    have hlog : floorLog2 num den = (num.log2 : Int) - den.log2 := if_pos (hfits.mpr h)
    rw [hlog]
    refine ⟨h, ?_⟩
    rw [Rat.div_lt_iff hpos]
    have hsplit : (2 : Rat) ^ ((num.log2 : Int) - den.log2 + 1) * (2 : Rat) ^ (den.log2 : Int) =
        (2 : Rat) ^ (num.log2 + 1 : Int) := by
      rw [← Rat.zpow_add (by decide)]
      congr 1
      omega
    have hmul := Rat.mul_le_mul_of_nonneg_left (two_pow_log2_le hden)
      (Rat.le_of_lt (hpow ((num.log2 : Int) - den.log2 + 1)))
    rw [hsplit] at hmul
    exact Std.lt_of_lt_of_le (lt_two_pow_log2 num) hmul
  · -- it does not fit, and one less is always little enough
    have hlog : floorLog2 num den = (num.log2 : Int) - den.log2 - 1 :=
      if_neg fun hfit => h (hfits.mp hfit)
    rw [hlog, Int.sub_add_cancel]
    refine ⟨?_, Rat.not_le.mp h⟩
    rw [le_div_iff hpos]
    have hsplit : (2 : Rat) ^ ((num.log2 : Int) - den.log2 - 1) * (2 : Rat) ^ (den.log2 + 1 : Int) =
        (2 : Rat) ^ (num.log2 : Int) := by
      rw [← Rat.zpow_add (by decide)]
      congr 1
      omega
    have hmul := Rat.mul_le_mul_of_nonneg_left (Rat.le_of_lt (lt_two_pow_log2 den))
      (Rat.le_of_lt (hpow ((num.log2 : Int) - den.log2 - 1)))
    rw [hsplit] at hmul
    exact Rat.le_trans hmul (two_pow_log2_le hnum)

/-! ## Ranks -/

namespace Binary64

/-- A rank counts the magnitudes of the exponents below and the significand. -/
theorem rank_eq (rank : Nat) :
    rank = (exponent rank + 1074).toNat * 2 ^ 52 + significand rank := by
  unfold exponent significand
  split <;> omega

theorem significand_lt (rank : Nat) : significand rank < 2 ^ 53 := by
  unfold significand
  split <;> omega

theorem significand_pos {rank : Nat} (h : 0 < rank) : 0 < significand rank := by
  unfold significand
  split <;> omega

theorem exponent_ge (rank : Nat) : -1074 ≤ exponent rank := by
  unfold exponent
  split <;> omega

theorem exponent_le {rank : Nat} (h : rank < topRank) : exponent rank ≤ 971 := by
  unfold topRank at h
  unfold exponent
  split <;> omega

/-- Above the least exponent the significand has its leading bit. -/
theorem le_significand {rank : Nat} (h : -1074 < exponent rank) :
    2 ^ 52 ≤ significand rank ∧ 2 ^ 53 ≤ rank := by
  unfold exponent at h
  split at h
  · omega
  · rename_i hrank
    rw [significand, if_neg hrank]
    omega

/-- The step down from a magnitude, by its unit in the last place: only half of one below a power of
    two. -/
def halfStepDown (rank : Nat) : Rat :=
  if significand rank = 2 ^ 52 ∧ 2 ^ 53 ≤ rank then 1 / 4 else 1 / 2

/-- The rational, over the unit in the last place of the magnitude, lies between the halves of the
    steps down and up. -/
structure RoundsTo (q : Rat) (rank : Nat) : Prop where
  low : (significand rank - halfStepDown rank) * (2 : Rat) ^ exponent rank ≤ q
  high : q ≤ (significand rank + 1 / 2) * (2 : Rat) ^ exponent rank
  strict : significand rank % 2 = 1 →
    (significand rank - halfStepDown rank) * (2 : Rat) ^ exponent rank < q ∧
      q < (significand rank + 1 / 2) * (2 : Rat) ^ exponent rank

/-- Rounding at the exponent of a quotient. -/
theorem rankOfQuotient_of_nearest {num den m : Nat} {e : Int} (hnum : 0 < num) (hden : 0 < den)
    (he : max (floorLog2 num den - 52) (-1074) = e)
    (h : Nearest ((num : Rat) / den / (2 : Rat) ^ e) m) :
    rankOfQuotient num den = (e + 1074).toNat * 2 ^ 52 + m := by
  have hround : (if 0 ≤ e then roundHalfEven num (den * 2 ^ e.toNat)
      else roundHalfEven (num * 2 ^ (-e).toNat) den) = m := by
    split
    · rename_i hsign
      refine roundHalfEven_eq (Nat.mul_pos hden (Nat.pow_pos (by decide))) ?_
      rw [zpow_toNat 2 hsign] at h
      rw [Rat.natCast_mul, Rat.natCast_pow, Rat.natCast_ofNat]
      rwa [Rat.div_def, Rat.div_def, Rat.mul_assoc, ← Rat.inv_mul_rev, Rat.mul_comm (2 ^ _),
        ← Rat.div_def] at h
    · rename_i hsign
      refine roundHalfEven_eq hden ?_
      rw [zpow_neg_toNat 2 (by omega), Rat.div_def _ (1 / _), Rat.div_def 1, Rat.one_mul,
        Rat.inv_inv] at h
      rw [Rat.natCast_mul, Rat.natCast_pow, Rat.natCast_ofNat]
      rwa [Rat.div_def, Rat.mul_assoc, Rat.mul_comm (2 ^ _), ← Rat.mul_assoc, ← Rat.div_def]
  have hlog : roundBinary 53 (-1074) num den = (m, e) := by
    have hbits : max (floorLog2 num den - ((53 : Nat) - 1)) (-1074) = e := he
    simp only [roundBinary, hbits, hround]
  simp only [rankOfQuotient, if_neg (Nat.ne_of_gt hnum), hlog]

theorem two_zpow_add (e : Int) (n : Nat) : (2 : Rat) ^ (e + n) = (2 ^ n : Nat) * (2 : Rat) ^ e := by
  rw [Rat.zpow_add (by decide), Rat.zpow_natCast, Rat.natCast_pow, Rat.natCast_ofNat, Rat.mul_comm]

theorem halfStepDown_le (rank : Nat) : halfStepDown rank ≤ 1 / 2 := by
  unfold halfStepDown
  split <;> grind

/-- What rounds to a positive magnitude is positive. -/
theorem RoundsTo.pos {q : Rat} {rank : Nat} (h : RoundsTo q rank) (hrank : 0 < rank) : 0 < q := by
  have hunit : (0 : Rat) < (2 : Rat) ^ exponent rank := Rat.zpow_pos (by decide)
  have hm : (1 : Rat) ≤ significand rank :=
    Rat.natCast_le_natCast.mpr (significand_pos hrank)
  have hdown := halfStepDown_le rank
  have hlow : (0 : Rat) < significand rank - halfStepDown rank := by grind
  exact Std.lt_of_lt_of_le (Rat.mul_pos hlow hunit) h.low

/-- At the exponent of the magnitude, its significand is the nearest integer. -/
theorem RoundsTo.nearest {q : Rat} {rank : Nat} (h : RoundsTo q rank) :
    Nearest (q / (2 : Rat) ^ exponent rank) (significand rank) := by
  have hunit : (0 : Rat) < (2 : Rat) ^ exponent rank := Rat.zpow_pos (by decide)
  have hdown := halfStepDown_le rank
  obtain ⟨hlow, hhigh, hstrict⟩ := h
  rw [← le_div_iff hunit] at hlow
  rw [← div_le_iff hunit] at hhigh
  rw [← Rat.lt_div_iff hunit, ← Rat.div_lt_iff hunit] at hstrict
  exact ⟨by grind, hhigh, fun hodd => ⟨by grind, (hstrict hodd).2⟩⟩

/-- Right below a power of two, at the exponent below, the next significand is the nearest. -/
theorem RoundsTo.nearest_below {q : Rat} {rank : Nat} (h : RoundsTo q rank)
    (hleast : -1074 < exponent rank) (hq : q / (2 : Rat) ^ exponent rank < (2 ^ 52 : Nat)) :
    significand rank = 2 ^ 52 ∧ (2 ^ 51 : Nat) ≤ q / (2 : Rat) ^ exponent rank ∧
      Nearest (q / (2 : Rat) ^ (exponent rank - 1)) (2 ^ 53) := by
  have hunit : (0 : Rat) < (2 : Rat) ^ exponent rank := Rat.zpow_pos (by decide)
  have hhalf : (0 : Rat) < (2 : Rat) ^ (exponent rank - 1) := Rat.zpow_pos (by decide)
  have hdouble : (2 : Rat) ^ exponent rank = (2 : Rat) ^ (exponent rank - 1) * 2 := by
    rw [← Rat.zpow_add_one (by decide), Int.sub_add_cancel]
  obtain ⟨hleading, hrank⟩ := le_significand hleast
  have hm : significand rank = 2 ^ 52 := by
    have hlow := h.nearest.low
    have hlt : ((significand rank : Nat) : Rat) < ((2 ^ 52 + 1 : Nat) : Rat) := by
      rw [Rat.natCast_add]
      grind
    have hlt := Rat.natCast_lt_natCast.mp hlt
    omega
  have hdown : halfStepDown rank = 1 / 4 := if_pos ⟨hm, hrank⟩
  have hlow := h.low
  rw [hdown, hm] at hlow
  have hquotient := (le_div_iff hunit).mpr hlow
  refine ⟨hm, by grind, ?_, ?_, fun hodd => absurd hodd (by decide)⟩
  · rw [le_div_iff hhalf]
    rw [hdouble] at hlow
    grind
  · rw [div_le_iff hhalf]
    rw [Rat.div_lt_iff hunit, hdouble] at hq
    grind

/-- **What rounds to a magnitude is rounded to it.** -/
theorem rankOfQuotient_eq {num den rank : Nat} (hden : 0 < den) (hrank : 0 < rank)
    (h : RoundsTo ((num : Rat) / den) rank) : rankOfQuotient num den = rank := by
  have hunit : (0 : Rat) < (2 : Rat) ^ exponent rank := Rat.zpow_pos (by decide)
  have hnum : 0 < num := by
    have hquotient := h.pos hrank
    rw [Rat.lt_div_iff (Rat.natCast_pos.mpr hden), Rat.zero_mul] at hquotient
    exact Rat.natCast_pos.mp hquotient
  have hlog := floorLog2_spec hnum hden
  have hranks := rank_eq rank
  have hleast := exponent_ge rank
  have hbelow (n : Nat) (hlt : (num : Rat) / den / (2 : Rat) ^ exponent rank < (2 ^ n : Nat)) :
      floorLog2 num den < exponent rank + n := by
    rw [Rat.div_lt_iff hunit, ← two_zpow_add] at hlt
    exact lt_of_zpow_lt_zpow (by decide) (Std.lt_of_le_of_lt hlog.1 hlt)
  have habove (n : Nat) (hle : (2 ^ n : Nat) ≤ (num : Rat) / den / (2 : Rat) ^ exponent rank) :
      exponent rank + n < floorLog2 num den + 1 := by
    rw [le_div_iff hunit, ← two_zpow_add] at hle
    exact lt_of_zpow_lt_zpow (by decide) (Std.lt_of_le_of_lt hle hlog.2)
  -- rounding takes place at the exponent of the magnitude, except right below a power of two
  by_cases hexact : exponent rank = -1074 ∨
      (2 ^ 52 : Nat) ≤ (num : Rat) / den / (2 : Rat) ^ exponent rank
  · have hlt : floorLog2 num den < exponent rank + (53 : Nat) := by
      refine hbelow 53 ?_
      have hhigh := h.nearest.high
      have hsignificand : ((significand rank + 1 : Nat) : Rat) ≤ (2 ^ 53 : Nat) :=
        Rat.natCast_le_natCast.mpr (significand_lt rank)
      rw [Rat.natCast_add] at hsignificand
      grind
    have he : max (floorLog2 num den - 52) (-1074) = exponent rank := by
      rcases hexact with hexact | hexact
      · omega
      · have hgt := habove 52 hexact
        omega
    rw [rankOfQuotient_of_nearest hnum hden he h.nearest]
    exact hranks.symm
  · have hleast : -1074 < exponent rank := by omega
    have hq := Rat.not_le.mp fun hle => hexact (Or.inr hle)
    obtain ⟨hm, hlow, hnearest⟩ := h.nearest_below hleast hq
    have hlt := hbelow 52 hq
    have hgt := habove 51 hlow
    have he : max (floorLog2 num den - 52) (-1074) = exponent rank - 1 := by omega
    -- the significand is carried into the next exponent
    rw [rankOfQuotient_of_nearest hnum hden he hnearest]
    rw [hm] at hranks
    omega

/-- Magnitudes between zero and infinity round from rationals of moderate size. -/
theorem RoundsTo.bounds {q : Rat} {rank : Nat} (h : RoundsTo q rank) (hrank : 0 < rank)
    (htop : rank < topRank) : (2 : Rat) ^ (-1075 : Int) ≤ q ∧ q < (2 : Rat) ^ (1024 : Int) := by
  have hunit : (0 : Rat) < (2 : Rat) ^ exponent rank := Rat.zpow_pos (by decide)
  have hone : (1 : Rat) ≤ significand rank := Rat.natCast_le_natCast.mpr (significand_pos hrank)
  have hsignificand : ((significand rank + 1 : Nat) : Rat) ≤ (2 ^ 53 : Nat) :=
    Rat.natCast_le_natCast.mpr (significand_lt rank)
  rw [Rat.natCast_add] at hsignificand
  have hdown := halfStepDown_le rank
  have hleast := zpow_le_zpow (show (1 : Rat) ≤ 2 by decide) (exponent_ge rank)
  have hgreatest := zpow_le_zpow (show (1 : Rat) ≤ 2 by decide) (exponent_le htop)
  constructor
  · have hhalf : (2 : Rat) ^ (-1075 : Int) = 1 / 2 * (2 : Rat) ^ (-1074 : Int) := by decide +kernel
    have hmul := Rat.mul_le_mul_of_nonneg_right
      (show (1 : Rat) / 2 ≤ significand rank - halfStepDown rank by grind) (Rat.le_of_lt hunit)
    rw [hhalf]
    have hlow := h.low
    grind
  · have hproduct : (2 : Rat) ^ (1024 : Int) = (2 ^ 53 : Nat) * (2 : Rat) ^ (971 : Int) := by
      decide +kernel
    have hmul := Rat.mul_lt_mul_of_pos_right
      (show (significand rank : Rat) + 1 / 2 < (2 ^ 53 : Nat) by grind) hunit
    have hscale := Rat.mul_le_mul_of_nonneg_left hgreatest
      (show (0 : Rat) ≤ (2 ^ 53 : Nat) from Rat.natCast_nonneg)
    rw [hproduct]
    exact Std.lt_of_le_of_lt h.high (Std.lt_of_lt_of_le hmul hscale)

end Binary64

/-! ## Reading decimals -/

namespace Decimal

open Text

/-- The magnitude of a decimal bounds its rational by powers of ten. -/
theorem rational_bounds {d : Decimal} (hd : 0 < d.digits) :
    (10 : Rat) ^ (d.magnitude - 1) ≤ d.rational ∧ d.rational < (10 : Rat) ^ d.magnitude := by
  obtain ⟨hlow, hhigh⟩ := length_decimalDigits_bounds hd
  have hpos := List.length_pos_iff.mpr (decimalDigits_ne_nil d.digits)
  have hscale : (0 : Rat) < (10 : Rat) ^ d.scale := Rat.zpow_pos (by decide)
  have hsplit (n : Nat) : (10 : Rat) ^ (n + d.scale) = (10 ^ n : Nat) * (10 : Rat) ^ d.scale := by
    rw [Rat.zpow_add (by decide), Rat.zpow_natCast, Rat.natCast_pow, Rat.natCast_ofNat]
  unfold rational magnitude
  constructor
  · rw [show ((decimalDigits d.digits).length : Int) + d.scale - 1 =
      ((decimalDigits d.digits).length - 1 : Nat) + d.scale by omega, hsplit]
    exact Rat.mul_le_mul_of_nonneg_right (Rat.natCast_le_natCast.mpr hlow) (Rat.le_of_lt hscale)
  · rw [hsplit]
    exact Rat.mul_lt_mul_of_pos_right (Rat.natCast_lt_natCast.mpr hhigh) hscale

/-- **A decimal that rounds to a magnitude is read as it.** -/
theorem toBinary64_eq {d : Decimal} {rank : Nat} (h : Binary64.RoundsTo d.rational rank)
    (hrank : 0 < rank) (htop : rank < Binary64.topRank) :
    d.toBinary64 = .ofRank d.negative rank := by
  have hpos := h.pos hrank
  obtain ⟨hleast, hgreatest⟩ := h.bounds hrank htop
  have hdigits : 0 < d.digits := by
    apply Nat.pos_of_ne_zero
    intro hzero
    rw [rational, hzero, Rat.natCast_ofNat, Rat.zero_mul] at hpos
    exact absurd hpos (by decide)
  obtain ⟨hlow, hhigh⟩ := rational_bounds hdigits
  have hten : (1 : Rat) ≤ 10 := by decide
  have hnotSmall : ¬(d.digits = 0 ∨ d.magnitude < -330) := by
    rintro (hzero | hsmall)
    · omega
    · have hle := zpow_le_zpow hten (show d.magnitude ≤ -331 by omega)
      have hlt : (10 : Rat) ^ (-331 : Int) < (2 : Rat) ^ (-1075 : Int) := by decide +kernel
      grind
  have hnotLarge : ¬310 < d.magnitude := by
    intro hlarge
    have hle := zpow_le_zpow hten (show 310 ≤ d.magnitude - 1 by omega)
    have hlt : (2 : Rat) ^ (1024 : Int) < (10 : Rat) ^ (310 : Int) := by decide +kernel
    grind
  obtain ⟨hden, hquotient⟩ := d.quotient_eq
  rw [← hquotient] at h
  simp only [toBinary64, hnotSmall, hnotLarge, if_false, Binary64.rankOfQuotient_eq hden hrank h]

end Decimal
end RecordQuery
