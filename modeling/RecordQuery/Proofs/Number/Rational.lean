import RecordQuery.Number.Rounding

/-!
# `Proofs.Number.Rational` — numbers as rationals

Decimals and quotients of natural numbers are compared as rationals. Powers of a base have integer
exponents here, and they grow with them (`zpow_le_zpow`), so that an exponent is found by bounding
the power (`lt_of_zpow_lt_zpow`).
-/

namespace RecordQuery

namespace Rational

/-! ## Quotients and powers -/

theorem div_le_iff {a b c : Rat} (hb : 0 < b) : a / b ≤ c ↔ a ≤ c * b := by
  rw [← Rat.not_lt, Rat.lt_div_iff hb, Rat.not_lt]

theorem le_div_iff {a b c : Rat} (hb : 0 < b) : c ≤ a / b ↔ c * b ≤ a := by
  rw [← Rat.not_lt, Rat.div_lt_iff hb, Rat.not_lt]

theorem one_le_pow {x : Rat} (hx : 1 ≤ x) (n : Nat) : 1 ≤ x ^ n := by
  induction n with
  | zero =>
      have hzero := Rat.pow_zero x
      grind
  | succ n ih =>
      have hpos : (0 : Rat) ≤ x := Rat.le_trans (by decide) hx
      have hmul := Rat.mul_le_mul_of_nonneg_right ih hpos
      rw [Rat.pow_succ]
      rw [Rat.one_mul] at hmul
      exact Rat.le_trans hx hmul

theorem zpow_le_zpow {x : Rat} (hx : 1 ≤ x) {a b : Int} (h : a ≤ b) : x ^ a ≤ x ^ b := by
  obtain ⟨n, rfl⟩ := Int.le.dest h
  have hpos : 0 < x := Std.lt_of_lt_of_le (by decide) hx
  rw [Rat.zpow_add (Rat.ne_of_gt hpos), Rat.zpow_natCast]
  have hmul := Rat.mul_le_mul_of_nonneg_left (one_le_pow hx n)
    (Rat.le_of_lt (Rat.zpow_pos (n := a) hpos))
  rw [Rat.mul_one] at hmul
  exact hmul

theorem lt_of_zpow_lt_zpow {x : Rat} (hx : 1 ≤ x) {a b : Int} (h : x ^ a < x ^ b) : a < b := by
  by_cases hle : b ≤ a
  · exact absurd h (Rat.not_lt.mpr (zpow_le_zpow hx hle))
  · exact Int.not_le.mp hle

/-- A power with an exponent that is not negative is a product. -/
theorem zpow_toNat (x : Rat) {n : Int} (h : 0 ≤ n) : x ^ n = x ^ n.toNat := by
  conv => lhs; rw [← Int.toNat_of_nonneg h]
  exact Rat.zpow_natCast x n.toNat

/-- A power with a negative exponent is a quotient. -/
theorem zpow_neg_toNat (x : Rat) {n : Int} (h : n < 0) : x ^ n = 1 / x ^ (-n).toNat := by
  rw [← zpow_toNat x (show 0 ≤ -n by omega), Rat.div_def, Rat.one_mul, ← Rat.zpow_neg, Int.neg_neg]

end Rational

/-! ## Decimals -/

/-- The rational that a decimal is, its sign left out. -/
def Decimal.rational (d : Decimal) : Rat := d.digits * (10 : Rat) ^ d.scale

open Rational in
/-- **The quotient of a decimal is the rational.** -/
theorem Decimal.quotient_eq (d : Decimal) :
    0 < d.quotient.2 ∧ (d.quotient.1 : Rat) / d.quotient.2 = d.rational := by
  unfold quotient rational
  split
  · rename_i hscale
    refine ⟨Nat.one_pos, ?_⟩
    rw [zpow_toNat 10 hscale, Rat.natCast_mul, Rat.natCast_pow]
    grind
  · rename_i hscale
    refine ⟨Nat.pow_pos (by decide), ?_⟩
    rw [zpow_neg_toNat 10 (by omega), Rat.natCast_pow]
    grind

end RecordQuery
