import RecordQuery.Number.Basic
import RecordQuery.Proofs.Number.Rounding

/-!
# `Proofs.Number.Exact` — integers that are floating-point numbers

Finite numbers are rationals, and some of them are integers. An integer is exact if some finite
number is it; then rounding it gives that number, so that `Binary64.exactOfInt?` finds every exact
integer and no other one.

## Contents
- `Binary64.rational?`, `Number.rational?`: the rational that a number is.
- `exactInt?_eq_some_iff`: the integer that a number is, by its rational.
- `rational?_ofInt`: rounding an exact integer.
- `rational?_exactOfInt?`, `exists_exactOfInt?`: exact integers are found, and found as they are.
-/

namespace RecordQuery

open Rational

namespace Binary64

/-- The magnitude of a rank. -/
def magnitude (rank : Nat) : Rat := significand rank * (2 : Rat) ^ exponent rank

/-- The rational that a finite number is. -/
def rational? : Binary64 → Option Rat
  | nan => none
  | signed negative rank =>
    if rank.val = topRank then none
    else some (if negative then -magnitude rank else magnitude rank)

theorem isFinite_iff {x : Binary64} : x.isFinite = true ↔ ∃ q, x.rational? = some q := by
  cases x with
  | nan => simp [isFinite, rational?]
  | signed negative rank =>
      have hle := rank.isLt
      rw [isFinite, decide_eq_true_iff, rational?]
      split
      · rename_i htop
        exact iff_of_false (by omega) (by simp)
      · exact ⟨fun _ => ⟨_, rfl⟩, fun _ => by omega⟩

/-! ## Integers among the magnitudes -/

/-- A magnitude is an integer if the significand has a factor for what the exponent divides by. -/
theorem magnitude_eq_iff (rank n : Nat) :
    magnitude rank = n ↔
      (if 0 ≤ exponent rank then some (significand rank * 2 ^ (exponent rank).toNat)
        else if significand rank % 2 ^ (-exponent rank).toNat = 0 then
          some (significand rank / 2 ^ (-exponent rank).toNat)
        else none) = some n := by
  unfold magnitude
  split
  · rename_i he
    rw [zpow_toNat 2 he, Option.some.injEq, ← Rat.natCast_ofNat, ← Rat.natCast_pow,
      ← Rat.natCast_mul]
    exact Rat.natCast_inj
  · rename_i he
    have hpow : 0 < 2 ^ (-exponent rank).toNat := Nat.pow_pos (by decide)
    have hquotient : (significand rank : Rat) * (2 : Rat) ^ exponent rank = n ↔
        significand rank = n * 2 ^ (-exponent rank).toNat := by
      rw [zpow_neg_toNat 2 (by omega), ← Rat.natCast_inj, Rat.natCast_mul, Rat.natCast_pow,
        Rat.natCast_ofNat]
      have hne : (2 : Rat) ^ (-exponent rank).toNat ≠ 0 := Rat.ne_of_gt (Rat.pow_pos (by decide))
      grind
    rw [hquotient]
    split
    · rename_i hdvd
      rw [Option.some.injEq, Nat.div_eq_iff_eq_mul_left hpow (Nat.dvd_of_mod_eq_zero hdvd)]
    · rename_i hdvd
      refine ⟨fun h => ?_, nofun⟩
      rw [h, Nat.mul_mod_left] at hdvd
      exact absurd rfl hdvd

theorem magnitude_nonneg (rank : Nat) : 0 ≤ magnitude rank :=
  Rat.mul_nonneg Rat.natCast_nonneg (Rat.le_of_lt (Rat.zpow_pos (by decide)))

/-- An integer that is a magnitude with a sign has that magnitude and that sign. -/
theorem eq_natAbs {q : Rat} {negative : Bool} {n : Int} (hq : 0 ≤ q)
    (h : (if negative then -q else q) = (n : Rat)) :
    q = n.natAbs ∧ (if negative then -(n.natAbs : Int) else n.natAbs) = n := by
  rw [← Rat.intCast_natCast]
  cases negative with
  | false =>
      have h : q = (n : Rat) := h
      rw [h] at hq ⊢
      have hn := Rat.intCast_nonneg.mp hq
      rw [Int.natAbs_of_nonneg hn]
      exact ⟨rfl, rfl⟩
  | true =>
      have h : q = ((-n : Int) : Rat) := by
        rw [Rat.intCast_neg, ← h]
        exact (Rat.neg_neg _).symm
      rw [h] at hq ⊢
      have hn := Rat.intCast_nonneg.mp hq
      have habs : (n.natAbs : Int) = -n := by omega
      rw [habs]
      exact ⟨rfl, Int.neg_neg n⟩

/-- **The integer that a number is**, by the rational that it is. -/
theorem exactInt?_eq_some_iff {x : Binary64} {n : Int} :
    x.exactInt? = some n ↔ x.rational? = some (n : Rat) := by
  cases x with
  | nan => simp [exactInt?, rational?]
  | signed negative rank =>
      rw [exactInt?, rational?]
      split
      · simp
      · simp only [bind, pure, Option.map_eq_some_iff, Option.bind_eq_some_iff, Option.some.injEq,
          ← magnitude_eq_iff]
        constructor
        · rintro ⟨_, ⟨k, hk, rfl⟩, rfl⟩
          rw [hk]
          cases negative
          · rfl
          · exact (Rat.intCast_neg _).symm
        · intro h
          obtain ⟨hmagnitude, hsign⟩ := eq_natAbs (magnitude_nonneg rank.val) h
          exact ⟨n.natAbs, ⟨n.natAbs, hmagnitude, rfl⟩, hsign⟩

/-! ## Rounding integers -/

/-- A magnitude rounds to itself: it lies in the middle of its interval. -/
theorem roundsTo_magnitude (rank : Nat) : RoundsTo (magnitude rank) rank := by
  have hunit : (0 : Rat) < (2 : Rat) ^ exponent rank := Rat.zpow_pos (by decide)
  have hdown : (0 : Rat) < halfStepDown rank := by
    unfold halfStepDown
    split <;> grind
  have hlow : (significand rank - halfStepDown rank) * (2 : Rat) ^ exponent rank < magnitude rank :=
    Rat.mul_lt_mul_of_pos_right (by grind) hunit
  have hhigh : magnitude rank < (significand rank + 1 / 2) * (2 : Rat) ^ exponent rank :=
    Rat.mul_lt_mul_of_pos_right (by grind) hunit
  exact ⟨Rat.le_of_lt hlow, Rat.le_of_lt hhigh, fun _ => ⟨hlow, hhigh⟩⟩

/-- **Rounding a magnitude that is an integer gives it.** -/
theorem rankOfQuotient_magnitude {rank n : Nat} (h : magnitude rank = n) :
    rankOfQuotient n 1 = rank := by
  rcases Nat.eq_zero_or_pos rank with rfl | hrank
  · have hzero : magnitude 0 = ((0 : Nat) : Rat) := Rat.zero_mul _
    cases Rat.natCast_inj.mp (hzero.symm.trans h)
    rfl
  · have hround := roundsTo_magnitude rank
    have hquotient : (n : Rat) / (1 : Nat) = magnitude rank := by
      rw [h]
      grind
    exact rankOfQuotient_eq Nat.one_pos hrank (hquotient ▸ hround)

theorem rational?_ofRank {negative : Bool} {rank : Nat} (h : rank < topRank) :
    (ofRank negative rank).rational? =
      some (if negative then -magnitude rank else magnitude rank) := by
  have hmin : min rank topRank = rank := Nat.min_eq_left (Nat.le_of_lt h)
  simp only [ofRank, rational?, hmin, if_neg (Nat.ne_of_lt h)]

/-- The magnitude of a number that is an integer. -/
theorem exists_magnitude {x : Binary64} {n : Int} (h : x.rational? = some (n : Rat)) :
    ∃ rank, rank < topRank ∧ magnitude rank = n.natAbs := by
  cases x with
  | nan => cases h
  | signed negative rank =>
      obtain ⟨htop, h⟩ := Option.ite_none_left_eq_some.mp h
      refine ⟨rank.val, Nat.lt_of_le_of_ne (Nat.le_of_lt_succ rank.isLt) htop, ?_⟩
      exact (eq_natAbs (magnitude_nonneg rank.val) (Option.some.inj h)).1

/-- **Rounding an integer that is some number gives a number that is the integer.** -/
theorem rational?_ofInt {x : Binary64} {n : Int} (h : x.rational? = some (n : Rat)) :
    (ofInt n).rational? = some (n : Rat) := by
  obtain ⟨rank, hlt, hmagnitude⟩ := exists_magnitude h
  rw [ofInt, rankOfQuotient_magnitude hmagnitude, rational?_ofRank hlt, hmagnitude]
  by_cases hn : n < 0
  · rw [decide_eq_true hn, if_pos rfl, ← Rat.intCast_natCast, ← Rat.intCast_neg]
    congr 2
    omega
  · rw [decide_eq_false hn, if_neg Bool.false_ne_true, ← Rat.intCast_natCast]
    congr 2
    omega

theorem rational?_exactOfInt? {x : Binary64} {n : Int} (h : exactOfInt? n = some x) :
    x.rational? = some (n : Rat) := by
  obtain ⟨hexact, h⟩ := Option.ite_none_right_eq_some.mp h
  cases h
  exact exactInt?_eq_some_iff.mp hexact

/-- **Every integer that is some number is found.** -/
theorem exists_exactOfInt? {x : Binary64} {n : Int} (h : x.rational? = some (n : Rat)) :
    ∃ y, exactOfInt? n = some y :=
  ⟨ofInt n, if_pos (exactInt?_eq_some_iff.mpr (rational?_ofInt h))⟩

end Binary64

/-- The rational that a number is; infinities and `nan` are none. -/
def Number.rational? : Number → Option Rat
  | .int n => some n.toInt
  | .uint n => some n.toNat
  | .float x => x.rational?

end RecordQuery
