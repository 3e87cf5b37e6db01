import RecordQuery.Number.Shortest
import RecordQuery.Proofs.Number.Rounding

/-!
# `Proofs.Number.Shortest` — the shortest digits round to their number

- `contains_iff`: a decimal lies in the interval of a magnitude exactly if it rounds to it.
- `exists_onGrid?`: seventeen digits are enough for some decimal in the interval.
- `roundsTo_digits`: the digits that are found round to the magnitude.
-/

namespace RecordQuery.Shortest

open Rational Binary64

/-! ## Intervals -/

/-- The unit of an interval: a quarter of the unit in the last place. -/
theorem interval_unit (e : Int) : ∃ unit denominator : Nat,
    (if 0 ≤ e then (2 ^ e.toNat, 1) else (1, 2 ^ (-e).toNat)) = (unit, denominator) ∧
      0 < denominator ∧ (unit : Rat) / denominator = (2 : Rat) ^ e := by
  split
  · rename_i he
    refine ⟨_, _, rfl, Nat.one_pos, ?_⟩
    rw [zpow_toNat 2 he, Rat.natCast_pow, Rat.natCast_ofNat]
    grind
  · rename_i he
    refine ⟨_, _, rfl, Nat.pow_pos (by decide), ?_⟩
    rw [zpow_neg_toNat 2 (by omega), Rat.natCast_pow, Rat.natCast_ofNat]
    rfl

/-- **The interval of a magnitude** as rationals. -/
theorem interval_spec {rank : Nat} (hrank : 0 < rank) :
    0 < (interval rank).denominator ∧
      ((interval rank).low : Rat) / (interval rank).denominator =
        (significand rank - halfStepDown rank) * (2 : Rat) ^ exponent rank ∧
      ((interval rank).middle : Rat) / (interval rank).denominator =
        significand rank * (2 : Rat) ^ exponent rank ∧
      ((interval rank).high : Rat) / (interval rank).denominator =
        (significand rank + 1 / 2) * (2 : Rat) ^ exponent rank ∧
      ((interval rank).closed = true ↔ significand rank % 2 = 0) := by
  have hm := significand_pos hrank
  have hunit : (2 : Rat) ^ (exponent rank - 2) * 4 = (2 : Rat) ^ exponent rank := by
    have hfour : (4 : Rat) = (2 : Rat) ^ (2 : Int) := by decide +kernel
    rw [hfour, ← Rat.zpow_add (by decide), Int.sub_add_cancel]
  obtain ⟨unit, denominator, hpair, hpos, hquotient⟩ := interval_unit (exponent rank - 2)
  have hbelow : ((4 * significand rank -
      (if significand rank = 2 ^ 52 ∧ 2 ^ 53 ≤ rank then 1 else 2) : Nat) : Rat) =
        4 * (significand rank - halfStepDown rank) := by
    have hsub (b : Nat) (hb : b ≤ 4 * significand rank) :
        ((4 * significand rank - b : Nat) : Rat) = 4 * significand rank - b := by
      have hadd := Rat.natCast_add (4 * significand rank - b) b
      rw [Nat.sub_add_cancel hb, Rat.natCast_mul, Rat.natCast_ofNat] at hadd
      grind
    unfold halfStepDown
    split
    · rw [hsub 1 (by omega)]
      grind
    · rw [hsub 2 (by omega)]
      grind
  have hscale (a : Nat) : ((a * unit : Nat) : Rat) / denominator =
      a * ((2 : Rat) ^ (exponent rank - 2)) := by
    rw [← hquotient, Rat.natCast_mul, Rat.div_def, Rat.div_def, Rat.mul_assoc]
  unfold interval
  simp only [hpair, hscale, hbelow]
  refine ⟨hpos, ?_, ?_, ?_, by simp⟩
  · grind
  · grind
  · grind

/-- The decimal `digits · 10 ^ scale`, over a denominator, as a quotient of natural numbers. -/
theorem exists_quotient (digits denominator : Nat) (scale : Int) : ∃ value factor : Nat,
    (if 0 ≤ scale then (digits * 10 ^ scale.toNat * denominator, 1)
      else (digits * denominator, 10 ^ (-scale).toNat)) = (value, factor) ∧ 0 < factor ∧
      (value : Rat) / factor = digits * (10 : Rat) ^ scale * denominator := by
  split
  · rename_i hscale
    refine ⟨_, _, rfl, Nat.one_pos, ?_⟩
    rw [zpow_toNat 10 hscale, Rat.natCast_mul, Rat.natCast_mul, Rat.natCast_pow]
    grind
  · rename_i hscale
    refine ⟨_, _, rfl, Nat.pow_pos (by decide), ?_⟩
    rw [zpow_neg_toNat 10 (by omega), Rat.natCast_mul, Rat.natCast_pow]
    grind

/-- **A decimal lies in the interval of a magnitude exactly if it rounds to it.** -/
theorem contains_iff {rank : Nat} (hrank : 0 < rank) (digits : Nat) (scale : Int) :
    (interval rank).contains digits scale = true ↔
      RoundsTo (digits * (10 : Rat) ^ scale) rank := by
  obtain ⟨hpos, hlow, -, hhigh, hclosed⟩ := interval_spec hrank
  obtain ⟨value, factor, hpair, hfactor, hvalue⟩ :=
    exists_quotient digits (interval rank).denominator scale
  have hdenPos : (0 : Rat) < (interval rank).denominator := Rat.natCast_pos.mpr hpos
  have hfactorPos : (0 : Rat) < factor := Rat.natCast_pos.mpr hfactor
  -- both comparisons are made over one denominator
  have hlowLe : (interval rank).low * factor ≤ value ↔
      ((interval rank).low : Rat) / (interval rank).denominator ≤ digits * (10 : Rat) ^ scale := by
    rw [div_le_iff hdenPos, ← hvalue, le_div_iff hfactorPos, ← Rat.natCast_mul,
      Rat.natCast_le_natCast]
  have hhighLe : value ≤ (interval rank).high * factor ↔
      digits * (10 : Rat) ^ scale ≤ ((interval rank).high : Rat) / (interval rank).denominator := by
    rw [le_div_iff hdenPos, ← hvalue, div_le_iff hfactorPos, ← Rat.natCast_mul,
      Rat.natCast_le_natCast]
  have hlowLt : (interval rank).low * factor < value ↔
      ((interval rank).low : Rat) / (interval rank).denominator < digits * (10 : Rat) ^ scale := by
    rw [Rat.div_lt_iff hdenPos, ← hvalue, Rat.lt_div_iff hfactorPos, ← Rat.natCast_mul,
      Rat.natCast_lt_natCast]
  have hhighLt : value < (interval rank).high * factor ↔
      digits * (10 : Rat) ^ scale < ((interval rank).high : Rat) / (interval rank).denominator := by
    rw [Rat.lt_div_iff hdenPos, ← hvalue, Rat.div_lt_iff hfactorPos, ← Rat.natCast_mul,
      Rat.natCast_lt_natCast]
  rw [hlow] at hlowLe hlowLt
  rw [hhigh] at hhighLe hhighLt
  unfold Interval.contains
  simp only [hpair]
  split
  · rename_i hends
    have heven := hclosed.mp hends
    rw [Bool.and_eq_true, decide_eq_true_iff, decide_eq_true_iff, hlowLe, hhighLe]
    exact ⟨fun h => ⟨h.1, h.2, fun hodd => by omega⟩, fun h => ⟨h.low, h.high⟩⟩
  · rename_i hends
    have hodd : significand rank % 2 = 1 := by
      have hne : significand rank % 2 ≠ 0 := fun heven => hends (hclosed.mpr heven)
      omega
    rw [Bool.and_eq_true, decide_eq_true_iff, decide_eq_true_iff, hlowLt, hhighLt]
    exact ⟨fun h => ⟨Rat.le_of_lt h.1, Rat.le_of_lt h.2, fun _ => h⟩, fun h => h.strict hodd⟩

/-! ## Seventeen digits are enough -/

/-- The decimal logarithm of a quotient, rounded down, is not too great. -/
theorem floorLog10_le {num den : Nat} (hnum : 0 < num) (hden : 0 < den) :
    (10 : Rat) ^ floorLog10 num den ≤ (num : Rat) / den := by
  have hpos : (0 : Rat) < den := Rat.natCast_pos.mpr hden
  rw [le_div_iff hpos]
  unfold floorLog10
  split
  · rename_i hle
    have hquotient : 0 < num / den := Nat.div_pos hle hden
    have hbound := (Text.length_decimalDigits_bounds hquotient).1
    have hdigits := List.length_pos_iff.mpr (Text.decimalDigits_ne_nil (num / den))
    have hmul : 10 ^ ((Text.decimalDigits (num / den)).length - 1) * den ≤ num :=
      Nat.le_trans (Nat.mul_le_mul_right den hbound) (Nat.div_mul_le_self num den)
    rw [show ((Text.decimalDigits (num / den)).length : Int) - 1 =
      ((Text.decimalDigits (num / den)).length - 1 : Nat) by omega, Rat.zpow_natCast]
    have hcast := Rat.natCast_le_natCast.mpr hmul
    rw [Rat.natCast_mul, Rat.natCast_pow] at hcast
    exact hcast
  · rename_i hlt
    have hquotient : 0 < den / num := Nat.div_pos (by omega) hnum
    have hbound := (Text.length_decimalDigits_bounds hquotient).2
    have hdigits := List.length_pos_iff.mpr (Text.decimalDigits_ne_nil (den / num))
    have hscaled {k : Nat} (hk : den ≤ num * 10 ^ k) : (10 : Rat) ^ (-k : Int) * den ≤ num := by
      have hpow : (0 : Rat) < (10 : Rat) ^ k := Rat.pow_pos (by decide)
      have hcast := Rat.natCast_le_natCast.mpr hk
      rw [Rat.natCast_mul, Rat.natCast_pow, Rat.natCast_ofNat, ← div_le_iff hpow] at hcast
      rw [Rat.zpow_neg, Rat.zpow_natCast, Rat.mul_comm, ← Rat.div_def]
      exact hcast
    simp only
    split
    · rename_i hfits
      have h := hscaled hfits
      rw [show -(((Text.decimalDigits (den / num)).length - 1 : Nat) : Int) =
        1 - (Text.decimalDigits (den / num)).length by omega] at h
      exact h
    · refine hscaled (Nat.le_of_lt ?_)
      rw [Nat.mul_comm]
      exact (Nat.div_lt_iff_lt_mul hnum).mp hbound

/-- With seventeen digits the decimals lie closer together than the ends of the interval. -/
theorem grid_lt {rank : Nat} {scale : Int}
    (hscale : (10 : Rat) ^ (scale + 16) ≤ significand rank * (2 : Rat) ^ exponent rank) :
    (10 : Rat) ^ scale < (1 / 2 + halfStepDown rank) * (2 : Rat) ^ exponent rank := by
  have hunit : (0 : Rat) < (2 : Rat) ^ exponent rank := Rat.zpow_pos (by decide)
  have hpower : (10 : Rat) ^ (scale + 16) = (10 : Rat) ^ scale * 10000000000000000 := by
    rw [Rat.zpow_add (by decide)]
    rfl
  rw [hpower] at hscale
  have hbound {n : Nat} (hn : significand rank ≤ n) :
      significand rank * (2 : Rat) ^ exponent rank ≤ n * (2 : Rat) ^ exponent rank :=
    Rat.mul_le_mul_of_nonneg_right (Rat.natCast_le_natCast.mpr hn) (Rat.le_of_lt hunit)
  unfold halfStepDown
  split
  · rename_i hpow
    have hmul := hbound (Nat.le_of_eq hpow.1)
    grind
  · have hmul := hbound (Nat.le_of_lt (significand_lt rank))
    grind

/-- The quotient of which a grid takes the integers on either side. -/
theorem exists_gridQuotient (i : Interval) (hpos : 0 < i.denominator) (scale : Int) :
    ∃ num den : Nat,
      (if 0 ≤ scale then (i.middle, i.denominator * 10 ^ scale.toNat)
        else (i.middle * 10 ^ (-scale).toNat, i.denominator)) = (num, den) ∧ 0 < den ∧
      (num : Rat) / den * (10 : Rat) ^ scale = (i.middle : Rat) / i.denominator := by
  have hden : (i.denominator : Rat) ≠ 0 := Rat.ne_of_gt (Rat.natCast_pos.mpr hpos)
  split
  · rename_i hscale
    have hpow : (10 : Rat) ^ scale.toNat ≠ 0 := Rat.ne_of_gt (Rat.pow_pos (by decide))
    refine ⟨_, _, rfl, Nat.mul_pos hpos (Nat.pow_pos (by decide)), ?_⟩
    rw [zpow_toNat 10 hscale, Rat.natCast_mul, Rat.natCast_pow, Rat.natCast_ofNat]
    grind
  · rename_i hscale
    have hpow : (10 : Rat) ^ (-scale).toNat ≠ 0 := Rat.ne_of_gt (Rat.pow_pos (by decide))
    refine ⟨_, _, rfl, hpos, ?_⟩
    rw [zpow_neg_toNat 10 (by omega), Rat.natCast_mul, Rat.natCast_pow, Rat.natCast_ofNat]
    grind

/-- What a grid gives lies in the interval, and it gives one of the two decimals around the middle
    if one of them does. -/
theorem onGrid?_spec (i : Interval) (hpos : 0 < i.denominator) (tie : Tie) (scale : Int) :
    (∀ d, i.onGrid? tie scale = some d → i.contains d scale = true) ∧
      ∃ below : Nat, below * (10 : Rat) ^ scale ≤ (i.middle : Rat) / i.denominator ∧
        (i.middle : Rat) / i.denominator < (below + 1 : Nat) * (10 : Rat) ^ scale ∧
        (i.contains below scale = true ∨ i.contains (below + 1) scale = true →
          ∃ d, i.onGrid? tie scale = some d) := by
  obtain ⟨num, den, hpair, hden, hquotient⟩ := exists_gridQuotient i hpos scale
  have hdenPos : (0 : Rat) < den := Rat.natCast_pos.mpr hden
  have hscale : (0 : Rat) < (10 : Rat) ^ scale := Rat.zpow_pos (by decide)
  constructor
  · intro d h
    unfold Interval.onGrid? at h
    simp only [hpair] at h
    split at h
    · rename_i hbelow habove
      injection h with h
      subst h
      split
      · exact habove
      · exact hbelow
    · rename_i hbelow habove
      injection h with h
      rw [← h]
      exact hbelow
    · rename_i hbelow habove
      injection h with h
      rw [← h]
      exact habove
    · cases h
  · refine ⟨num / den, ?_, ?_, fun h => ?_⟩
    · rw [← hquotient]
      refine Rat.mul_le_mul_of_nonneg_right ?_ (Rat.le_of_lt hscale)
      rw [le_div_iff hdenPos, ← Rat.natCast_mul]
      exact Rat.natCast_le_natCast.mpr (Nat.div_mul_le_self num den)
    · rw [← hquotient]
      refine Rat.mul_lt_mul_of_pos_right ?_ hscale
      rw [Rat.div_lt_iff hdenPos, ← Rat.natCast_mul]
      exact Rat.natCast_lt_natCast.mpr ((Nat.div_lt_iff_lt_mul hden).mp (Nat.lt_succ_self _))
    · unfold Interval.onGrid?
      simp only [hpair]
      split
      · exact ⟨_, rfl⟩
      · exact ⟨_, rfl⟩
      · exact ⟨_, rfl⟩
      · rename_i hbelow habove
        rw [hbelow, habove] at h
        simp at h

/-- **Among seventeen digits one decimal rounds to the magnitude.** -/
theorem exists_onGrid? {rank : Nat} (hrank : 0 < rank) (tie : Tie) : ∃ d,
    (interval rank).onGrid? tie
      (floorLog10 (interval rank).middle (interval rank).denominator - 16) = some d := by
  obtain ⟨hpos, -, hmiddle, -, -⟩ := interval_spec hrank
  have hunit : (0 : Rat) < (2 : Rat) ^ exponent rank := Rat.zpow_pos (by decide)
  have hm : (0 : Rat) < significand rank := Rat.natCast_pos.mpr (significand_pos hrank)
  have hstep : (0 : Rat) < halfStepDown rank := by
    unfold halfStepDown
    split <;> grind
  have hmiddlePos : 0 < (interval rank).middle := by
    have hproduct := Rat.mul_pos hm hunit
    rw [← hmiddle, Rat.lt_div_iff (Rat.natCast_pos.mpr hpos), Rat.zero_mul] at hproduct
    exact Rat.natCast_pos.mp hproduct
  generalize hscale :
    floorLog10 (interval rank).middle (interval rank).denominator - 16 = scale
  have hgrid := @grid_lt rank scale (by
    rw [← hmiddle, ← hscale, Int.sub_add_cancel]
    exact floorLog10_le hmiddlePos hpos)
  obtain ⟨-, below, hle, hlt, hsome⟩ := onGrid?_spec (interval rank) hpos tie scale
  rw [hmiddle] at hle hlt
  refine hsome ?_
  -- the interval is wider than the grid: if the decimal below the middle is not inside, the one
  -- above is
  rw [contains_iff hrank, contains_iff hrank]
  have hlow := Rat.mul_pos hstep hunit
  rw [Rat.natCast_add] at hlt ⊢
  by_cases hin : (significand rank - halfStepDown rank) * (2 : Rat) ^ exponent rank <
      below * (10 : Rat) ^ scale
  · have hhigh : below * (10 : Rat) ^ scale <
        (significand rank + 1 / 2) * (2 : Rat) ^ exponent rank := by
      grind
    exact Or.inl ⟨Rat.le_of_lt hin, Rat.le_of_lt hhigh, fun _ => ⟨hin, hhigh⟩⟩
  · have hin := Rat.not_lt.mp hin
    have hhigh : (below + (1 : Nat)) * (10 : Rat) ^ scale <
        (significand rank + 1 / 2) * (2 : Rat) ^ exponent rank := by
      grind
    have hlow : (significand rank - halfStepDown rank) * (2 : Rat) ^ exponent rank <
        (below + (1 : Nat)) * (10 : Rat) ^ scale := by
      grind
    exact Or.inr ⟨Rat.le_of_lt hlow, Rat.le_of_lt hhigh, fun _ => ⟨hlow, hhigh⟩⟩

/-! ## The digits -/

/-- Zeros at the end go to the scale. -/
theorem stripZeros_value (fuel digits : Nat) (scale : Int) :
    ((stripZeros fuel digits scale).1 : Rat) * (10 : Rat) ^ (stripZeros fuel digits scale).2 =
      digits * (10 : Rat) ^ scale := by
  induction fuel generalizing digits scale with
  | zero => rfl
  | succ fuel ih =>
      unfold stripZeros
      split
      · rename_i hzero
        rw [ih, Rat.zpow_add_one (by decide)]
        have hten : digits / 10 * 10 = digits := Nat.div_mul_cancel (Nat.dvd_of_mod_eq_zero hzero)
        conv => rhs; rw [← hten, Rat.natCast_mul, Rat.natCast_ofNat]
        grind
      · rfl

/-- **The shortest digits round to the magnitude.** -/
theorem roundsTo_digits {rank : Nat} (hrank : 0 < rank) (tie : Tie) :
    RoundsTo ((digits tie rank).1 * (10 : Rat) ^ (digits tie rank).2) rank := by
  obtain ⟨hpos, -⟩ := interval_spec hrank
  unfold digits
  simp only
  split
  · rename_i d scale hfound
    obtain ⟨_, -, hgrid⟩ := List.exists_of_findSome?_eq_some hfound
    obtain ⟨_, hd, heq⟩ := Option.map_eq_some_iff.mp hgrid
    cases heq
    rw [stripZeros_value, ← contains_iff hrank]
    exact (onGrid?_spec (interval rank) hpos tie scale).1 d hd
  · rename_i hnone
    obtain ⟨d, hd⟩ := exists_onGrid? hrank tie
    rw [List.findSome?_eq_none_iff] at hnone
    have hlast := hnone (floorLog10 (interval rank).middle (interval rank).denominator - 16)
      (List.mem_map.mpr ⟨16, by decide, rfl⟩)
    rw [hd] at hlast
    cases hlast

end RecordQuery.Shortest
