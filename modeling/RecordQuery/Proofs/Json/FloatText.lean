import RecordQuery.Proofs.Json.Reader
import RecordQuery.Proofs.Number.Shortest
import RecordQuery.Number.FloatText

/-!
# `Proofs.Json.FloatText` — a floating-point number is read from its text

- `readUnsigned_point`, `readUnsigned_raised`: digits with a point, with or without an exponent, and
  digits with an exponent only.
- `readUnsigned_positional`, `readUnsigned_scientific`: the two ways to set out digits have the value
  of the digits.
- `readNumber_text`: the text of a finite number is read as a decimal that rounds to the number.
-/

namespace RecordQuery.Json

open Text Rational

/-! ## Points and exponents -/

/-- An exponent with a sign. -/
theorem readExponent_signed (negative : Bool) (n : Nat) (rest : List Symbol) :
    readExponent (some (if negative then '-' else '+') ::
        ((decimalDigits n).map some ++ some '\x7d' :: rest)) =
      some (if negative then -(n : Int) else n, some '\x7d' :: rest) := by
  have hdigits := @digitsFront_stop (decimalDigits n) (fun _ => isDigit_of_mem_decimalDigits) '\x7d'
    (by decide) rest
  have hvalue := digitsValue_decimalDigits n
  cases hcons : decimalDigits n with
  | nil => exact absurd hcons (decimalDigits_ne_nil n)
  | cons d ds =>
      rw [hcons] at hdigits hvalue
      cases negative
      · simp only [readExponent, hdigits, hvalue, Bool.false_eq_true, if_false]
      · simp only [readExponent, hdigits, hvalue, if_true]

/-- An exponent is read as the integer that it writes. -/
theorem readExponent_int (n : Int) (rest : List Symbol) :
    readExponent (((if n < 0 then ['-'] else ['+']) ++ decimalDigits n.natAbs).map some ++
      some '\x7d' :: rest) = some (n, some '\x7d' :: rest) := by
  have hread := readExponent_signed (decide (n < 0)) n.natAbs rest
  by_cases hn : n < 0
  · rw [decide_eq_true hn] at hread
    rw [if_pos hn]
    refine hread.trans ?_
    congr 2
    simp only [if_true]
    omega
  · rw [decide_eq_false hn] at hread
    rw [if_neg hn]
    refine hread.trans ?_
    congr 2
    simp only [Bool.false_eq_true, if_false]
    omega

/-- One digit and an exponent. -/
theorem readUnsigned_raised (negative : Bool) {whole : List Char}
    (hwhole : ∀ c ∈ whole, isDigit c = true) (hlead : LeadsWell whole) {power : Int}
    {exponent rest : List Symbol}
    (hexponent : readExponent exponent = some (power, rest)) :
    readUnsigned negative (whole.map some ++ some 'e' :: exponent) =
      some (⟨⟨negative, digitsValue whole, power⟩, false⟩, rest) := by
  have hfront := digitsFront_stop hwhole (show isDigit 'e' = false by decide) exponent
  simp only [readUnsigned, hfront, leadsWell_iff hlead]
  simp [bind, Option.bind, hexponent]

/-- The power of ten that stands behind the digits of a number: an exponent, or none at the end of an
object. -/
inductive ReadsPower : List Symbol → Int → List Symbol → Prop where
  | none (rest : List Symbol) : ReadsPower (some '\x7d' :: rest) 0 (some '\x7d' :: rest)
  | raised {exponent rest : List Symbol} {power : Int}
      (read : readExponent exponent = some (power, rest)) :
      ReadsPower (some 'e' :: exponent) power rest

/-- Digits with a point among them. -/
theorem readUnsigned_point (negative : Bool) {whole places : List Char}
    (hwhole : ∀ c ∈ whole, isDigit c = true) (hlead : LeadsWell whole)
    (hplaces : ∀ c ∈ places, isDigit c = true) (hne : places ≠ []) {power : Int}
    {tail rest : List Symbol} (hpower : ReadsPower tail power rest) :
    readUnsigned negative ((whole ++ '.' :: places).map some ++ tail) =
      some (⟨⟨negative, digitsValue (whole ++ places), power - places.length⟩, false⟩, rest) := by
  have hfront := digitsFront_stop hwhole (show isDigit '.' = false by decide)
    (places.map some ++ tail)
  obtain ⟨place, more, rfl⟩ := List.exists_cons_of_ne_nil hne
  rw [List.map_append, List.append_assoc, List.map_cons, List.cons_append]
  cases hpower with
  | none rest =>
      have hback := digitsFront_stop hplaces (show isDigit '\x7d' = false by decide) rest
      simp only [readUnsigned, hfront, leadsWell_iff hlead, hback]
      simp [bind, Option.bind]
  | @raised exponent _ _ read =>
      have hback := digitsFront_stop hplaces (show isDigit 'e' = false by decide) exponent
      simp only [readUnsigned, hfront, leadsWell_iff hlead, hback]
      simp [bind, Option.bind, read]

/-! ## Layouts -/

/-- The numeral of a value: one that is not whole, with the sign and the value. -/
def Numeral.Has (numeral : Numeral) (negative : Bool) (value : Rat) : Prop :=
  numeral.value.negative = negative ∧ numeral.value.rational = value

/-- What starts as the digits of a positive number has no leading zero. -/
theorem leadsWell_of_head {n : Nat} (hn : 0 < n) {cs : List Char}
    (h : cs.head? = (decimalDigits n).head?) : LeadsWell cs := by
  constructor
  · rintro rfl
    exact decimalDigits_ne_nil n (List.head?_eq_none_iff.mp h.symm)
  · intro hzero
    rw [h] at hzero
    have := decimalDigits_head hzero
    omega

theorem head?_decimalDigits_append (n : Nat) (back : List Char) :
    (decimalDigits n ++ back).head? = (decimalDigits n).head? := by
  cases hdigits : decimalDigits n with
  | nil => exact absurd hdigits (decimalDigits_ne_nil n)
  | cons d ds => rfl

theorem isDigit_of_mem_zero : ∀ c ∈ ['0'], isDigit c = true := by
  intro c hc
  rw [List.mem_singleton.mp hc]
  decide

theorem leadsWell_zero : LeadsWell ['0'] := ⟨by simp, fun _ => rfl⟩

/-- Zeros after digits. -/
theorem digitsValue_append_zeros (cs : List Char) (k : Nat) :
    digitsValue (cs ++ List.replicate k '0') = digitsValue cs * 10 ^ k := by
  rw [digitsValue_append, digitsValue_zeros, List.length_replicate, Nat.add_zero]

open FloatLayout in
/-- Digits that are set out with a point alone. -/
theorem readUnsigned_positional (negative : Bool) {n : Nat} (hn : 0 < n) (top : Int)
    (rest : List Symbol) : ∃ numeral,
    readUnsigned negative ((positional (decimalDigits n) top).map some ++ some '\x7d' :: rest) =
        some (numeral, some '\x7d' :: rest) ∧
      numeral.Has negative (n * (10 : Rat) ^ (top + 1 - (decimalDigits n).length)) := by
  have hdigits : ∀ c ∈ decimalDigits n, isDigit c = true := fun _ => isDigit_of_mem_decimalDigits
  have hvalue := digitsValue_decimalDigits n
  unfold positional
  simp only
  split
  · -- all digits stand after the point
    rename_i htop
    have hread := @readUnsigned_point negative ['0']
      (List.replicate (-top - 1).toNat '0' ++ decimalDigits n) isDigit_of_mem_zero leadsWell_zero
      (fun c hc => (List.mem_append.mp hc).elim isDigit_of_mem_zeros (hdigits c))
      (List.append_ne_nil_of_right_ne_nil _ (decimalDigits_ne_nil n)) _ _ _ (.none rest)
    refine ⟨_, hread, rfl, ?_⟩
    have hzero : digitsValue (['0'] ++ (List.replicate (-top - 1).toNat '0' ++ decimalDigits n)) =
        n := by
      rw [← List.append_assoc, digitsValue_append, digitsValue_append_zeros, hvalue]
      simp [digitsValue, digitValue]
    rw [Decimal.rational, hzero, List.length_append, List.length_replicate,
      show 0 - (((-top - 1).toNat + (decimalDigits n).length : Nat) : Int) =
        top + 1 - (decimalDigits n).length by omega]
  · split
    · -- all digits stand before the point
      rename_i htop hlength
      have hread := @readUnsigned_point negative
        (decimalDigits n ++ List.replicate (top.toNat + 1 - (decimalDigits n).length) '0') ['0']
        (fun c hc => (List.mem_append.mp hc).elim (hdigits c) isDigit_of_mem_zeros)
        (leadsWell_of_head hn (head?_decimalDigits_append n _)) isDigit_of_mem_zero (by simp) _ _ _
        (.none rest)
      refine ⟨_, hread, rfl, ?_⟩
      have hzero := digitsValue_append_zeros (decimalDigits n)
        (top.toNat + 1 - (decimalDigits n).length + 1)
      rw [List.replicate_succ', ← List.append_assoc, hvalue] at hzero
      have hscale : top + 1 - (decimalDigits n).length + 1 =
          (top.toNat + 1 - (decimalDigits n).length + 1 : Nat) := by omega
      have hpow := Rat.zpow_add_one (show (10 : Rat) ≠ 0 by decide) (top + 1 - (decimalDigits n).length)
      rw [hscale, Rat.zpow_natCast] at hpow
      have htenth : (10 : Rat) ^ (0 - (['0'] : List Char).length : Int) = 1 / 10 := by decide +kernel
      rw [Decimal.rational, hzero, htenth, Rat.natCast_mul, Rat.natCast_pow, Rat.natCast_ofNat, hpow]
      grind
    · -- the point stands among the digits
      rename_i htop hlength
      have hread := @readUnsigned_point negative ((decimalDigits n).take (top.toNat + 1))
        ((decimalDigits n).drop (top.toNat + 1)) (fun c hc => hdigits c (List.mem_of_mem_take hc))
        (leadsWell_of_head hn (by simp [List.head?_take]))
        (fun c hc => hdigits c (List.mem_of_mem_drop hc))
        (fun hnil => hlength (List.drop_eq_nil_iff.mp hnil)) _ _ _ (.none rest)
      refine ⟨_, hread, rfl, ?_⟩
      rw [Decimal.rational, List.take_append_drop, hvalue, List.length_drop,
        show 0 - (((decimalDigits n).length - (top.toNat + 1) : Nat) : Int) =
          top + 1 - (decimalDigits n).length by omega]

open FloatLayout in
/-- Digits that are set out with an exponent. -/
theorem readUnsigned_scientific (negative : Bool) (n : Nat) (top : Int)
    (rest : List Symbol) : ∃ numeral,
    readUnsigned negative ((scientific true (decimalDigits n) top).map some ++
        some '\x7d' :: rest) = some (numeral, some '\x7d' :: rest) ∧
      numeral.Has negative (n * (10 : Rat) ^ (top + 1 - (decimalDigits n).length)) := by
  have hdigits : ∀ c ∈ decimalDigits n, isDigit c = true := fun _ => isDigit_of_mem_decimalDigits
  have hvalue := digitsValue_decimalDigits n
  have hlead := leadsWell_decimalDigits n
  have hexponent := readExponent_int top rest
  unfold scientific
  split
  · rename_i first second more hcons
    rw [hcons] at hdigits hvalue ⊢
    have hread := @readUnsigned_point negative [first] (second :: more)
      (fun c hc => hdigits c (by simp_all)) ⟨by simp, fun _ => rfl⟩
      (fun c hc => hdigits c (List.mem_cons_of_mem _ hc)) (by simp) top _ _ (.raised hexponent)
    refine ⟨_, Eq.trans (congrArg (readUnsigned negative) (by simp)) hread, rfl, ?_⟩
    have hfront : digitsValue ([first] ++ second :: more) = n := hvalue
    rw [Decimal.rational, hfront]
    simp only [List.length_cons]
    rw [show top + 1 - ((more.length + 1 + 1 : Nat) : Int) = top - (more.length + 1 : Nat) by omega]
  · rename_i hsingle
    cases hcons : decimalDigits n with
    | nil => exact absurd hcons (decimalDigits_ne_nil n)
    | cons first more =>
        cases more with
        | cons second more => exact absurd hcons (hsingle first second more)
        | nil =>
            rw [hcons] at hdigits hvalue hlead
            have hread := @readUnsigned_raised negative [first] hdigits hlead top _ _ hexponent
            refine ⟨_, Eq.trans (congrArg (readUnsigned negative) (by simp)) hread, rfl, ?_⟩
            rw [Decimal.rational, hvalue]
            simp only [List.length_cons, List.length_nil]
            rw [show top + 1 - ((0 + 1 : Nat) : Int) = top by omega]

/-- The text of a positive magnitude has the value of its shortest digits. -/
theorem readUnsigned_magnitude (negative : Bool) {rank : Nat} (hrank : 0 < rank)
    (rest : List Symbol) : ∃ numeral,
    readUnsigned negative ((FloatLayout.cursor.magnitude rank).map some ++ some '\x7d' :: rest) =
        some (numeral, some '\x7d' :: rest) ∧
      numeral.Has negative ((Shortest.digits .even rank).1 *
        (10 : Rat) ^ (Shortest.digits .even rank).2) := by
  have hrounds := Shortest.roundsTo_digits hrank .even
  have htie : FloatLayout.cursor.tie = .even := rfl
  unfold FloatLayout.magnitude
  rw [if_neg (Nat.ne_of_gt hrank), htie]
  generalize Shortest.digits .even rank = found at hrounds ⊢
  obtain ⟨n, scale⟩ := found
  have hn : 0 < n := by
    apply Nat.pos_of_ne_zero
    intro hzero
    have hpos := hrounds.pos hrank
    rw [hzero, Rat.natCast_ofNat, Rat.zero_mul] at hpos
    exact absurd hpos (by decide)
  have htop : ((decimalDigits n).length : Int) - 1 + scale + 1 - (decimalDigits n).length =
      scale := by omega
  simp only
  split
  · have hread := readUnsigned_positional negative hn ((decimalDigits n).length - 1 + scale) rest
    rw [htop] at hread
    exact hread
  · have hread := readUnsigned_scientific negative n ((decimalDigits n).length - 1 + scale) rest
    rw [htop] at hread
    exact hread

/-! ## Numbers -/

/-- The texts of both signs. -/
theorem readNumber_signed {negative : Bool} {body : List Char} {rest : List Symbol}
    {result : Numeral × List Symbol}
    (h : readUnsigned negative (body.map some ++ rest) = some result) :
    readNumber ((if negative then '-' :: body else body).map some ++ rest) = some result := by
  cases negative with
  | true => exact h
  | false =>
      obtain ⟨c, cs, hcons, hc⟩ := exists_digit_of_readUnsigned h
      show readNumber (body.map some ++ rest) = some result
      rw [hcons] at h ⊢
      unfold readNumber
      split
      · rename_i heq
        cases heq
        exact absurd hc (by decide)
      · exact h

/-- **The text of a finite number is read as a decimal that is rounded to the number.** -/
theorem readNumber_text {x : Binary64} (hx : x.isFinite = true) (rest : List Symbol) :
    ∃ numeral, readNumber ((x.text .cursor).toList.map some ++ some '\x7d' :: rest) =
        some (numeral, some '\x7d' :: rest) ∧ numeral.value.toBinary64 = x := by
  cases x with
  | nan => cases hx
  | signed negative rank =>
      have htop : rank.val < Binary64.topRank := of_decide_eq_true hx
      have hrank : Binary64.ofRank negative rank.val = .signed negative rank := by
        unfold Binary64.ofRank
        congr
        omega
      have htext : ((Binary64.signed negative rank).text .cursor).toList =
          if negative then '-' :: FloatLayout.cursor.magnitude rank.val
          else FloatLayout.cursor.magnitude rank.val := by
        rw [Binary64.text, String.toList_ofList, if_neg (Nat.ne_of_lt htop)]
      rw [htext]
      by_cases hzero : rank.val = 0
      · -- zero has no shortest digits; its text is `0.0`
        have hread := @readUnsigned_point negative ['0'] ['0'] isDigit_of_mem_zero leadsWell_zero
          isDigit_of_mem_zero (by simp) _ _ _ (.none rest)
        rw [hzero]
        refine ⟨_, readNumber_signed hread, ?_⟩
        rw [← hrank, hzero]
        rfl
      · obtain ⟨numeral, hread, hnegative, hvalue⟩ :=
          readUnsigned_magnitude negative (Nat.pos_of_ne_zero hzero) rest
        refine ⟨numeral, readNumber_signed hread, ?_⟩
        have hrounds := Shortest.roundsTo_digits (Nat.pos_of_ne_zero hzero) .even
        rw [← hvalue] at hrounds
        rw [Decimal.toBinary64_eq hrounds (Nat.pos_of_ne_zero hzero) htop, hnegative, hrank]

end RecordQuery.Json
