import RecordQuery.Calendar.TimestampReader
import RecordQuery.Proofs.Calendar.Date
import RecordQuery.Proofs.Text.Digits

/-!
# `Proofs.Calendar.Timestamp` — a point in time is read from its text

- `readDigits?_stop`: digits up to something else are read whole.
- `readYear?_yearText`, `readTwo?_paddedDigits`, `readFraction?_fractionText`: the parts of a text.
- `relaxed?_zuluText`: and all of it.
- `relaxed?_isRepresentable`, `read?_isRepresentable`: whatever else is read is a representable
  point too.
-/

namespace RecordQuery

/-- The point lies on a day that counts, and a leap second is the end of its minute. -/
def Timestamp.IsRepresentable (t : Timestamp) : Prop :=
  t.inRange = true ∧ (t.nanoseconds < 1000000000 ∨
    t.nanoseconds < 2000000000 ∧ t.seconds % 60 = 59)

namespace Timestamp

open Text

/-! ## Digits and white space -/

theorem takeWhile_isDigit {digits : List Char} (h : ∀ c ∈ digits, isDigit c = true) {c : Char}
    (hc : isDigit c = false) (rest : List Char) :
    (digits ++ c :: rest).takeWhile isDigit = digits := by
  rw [List.takeWhile_append_of_pos h, List.takeWhile_cons_of_neg (by simp [hc]), List.append_nil]

/-- Digits up to something else are read whole. -/
theorem readDigits?_stop {least most : Nat} {digits : List Char}
    (h : ∀ c ∈ digits, isDigit c = true) (hleast : least ≤ digits.length)
    (hmost : digits.length ≤ most) {c : Char} (hc : isDigit c = false) (rest : List Char) :
    readDigits? least most (digits ++ c :: rest) = some (digitsValue digits, c :: rest) := by
  have htake : ((digits ++ c :: rest).take most).takeWhile isDigit = digits := by
    rw [List.take_append, List.take_of_length_le hmost]
    cases hroom : most - digits.length with
    | zero =>
        rw [List.take_zero, List.append_nil]
        rw [← List.append_nil digits, List.takeWhile_append_of_pos h, List.takeWhile_nil]
    | succ room => exact takeWhile_isDigit h hc _
  simp only [readDigits?, htake, Nat.not_lt.mpr hleast, if_false, List.drop_left]

theorem isBlank_of_isDigit {c : Char} (h : isDigit c = true) : isBlank c = false := by
  rw [isDigit, Bool.and_eq_true, decide_eq_true_iff, decide_eq_true_iff] at h
  have hlow : 48 ≤ c.toNat := h.1
  have hhigh : c.toNat ≤ 57 := h.2
  unfold isBlank
  simp only [Bool.or_eq_false_iff, Bool.and_eq_false_iff, decide_eq_false_iff_not,
    beq_eq_false_iff_ne]
  omega

/-- What starts with a digit starts with no white space. -/
theorem trimStart_digits {digits : List Char} (h : ∀ c ∈ digits, isDigit c = true)
    (hne : digits ≠ []) (rest : List Char) : trimStart (digits ++ rest) = digits ++ rest := by
  cases digits with
  | nil => exact absurd rfl hne
  | cons d digits =>
      rw [List.cons_append, trimStart, List.dropWhile_cons_of_neg]
      simp [isBlank_of_isDigit (h d List.mem_cons_self)]

/-! ## The parts of a text -/

/-- Two digits up to something else. -/
theorem readTwo?_paddedDigits {n : Nat} (hn : n < 100) {c : Char} (hc : isDigit c = false)
    (rest : List Char) : readTwo? (paddedDigits 2 n ++ c :: rest) = some (n, c :: rest) := by
  have hlength := length_paddedDigits 2 n
  have hdigits : ∀ d ∈ paddedDigits 2 n, isDigit d = true :=
    fun _ => isDigit_of_mem_paddedDigits
  rw [readTwo?, trimStart_digits hdigits (paddedDigits_ne_nil (by decide) n),
    readDigits?_stop hdigits (by omega) (by omega) hc, digitsValue_paddedDigits,
    Nat.mod_eq_of_lt (by omega)]

/-- Digits without a sign are read as a year, at most four of them. -/
theorem readYear?_digits {digits : List Char} (h : ∀ c ∈ digits, isDigit c = true)
    (hne : digits ≠ []) (hlength : digits.length ≤ 4) (rest : List Char) :
    readYear? (digits ++ '-' :: rest) = some ((digitsValue digits : Int), '-' :: rest) := by
  have hpos := List.length_pos_iff.mpr hne
  have hread := readDigits?_stop h hpos hlength (show isDigit '-' = false by decide) rest
  have hsign {c : Char} {cs : List Char} (heq : digits ++ '-' :: rest = c :: cs) :
      isDigit c = true := by
    cases digits with
    | nil => exact absurd rfl hne
    | cons d digits =>
        cases heq
        exact h _ List.mem_cons_self
  rw [readYear?, trimStart_digits h hne]
  split
  · rename_i heq
    exact absurd (hsign heq) (by decide)
  · rename_i heq
    exact absurd (hsign heq) (by decide)
  · rw [hread]
    rfl

/-- After a sign, any number of digits is read. -/
theorem readYear?_signed {digits : List Char} (h : ∀ c ∈ digits, isDigit c = true)
    (hne : digits ≠ []) (negative : Bool) (rest : List Char) :
    readYear? ((if negative then '-' else '+') :: (digits ++ '-' :: rest)) =
      some (if negative then -(digitsValue digits : Int) else digitsValue digits, '-' :: rest) := by
  have hpos := List.length_pos_iff.mpr hne
  have hmost : digits.length ≤ (digits ++ '-' :: rest).length := by
    rw [List.length_append]
    omega
  have hread := readDigits?_stop h hpos hmost (show isDigit '-' = false by decide) rest
  cases negative
  · show (readDigits? 1 (digits ++ '-' :: rest).length (digits ++ '-' :: rest)).map _ = _
    rw [hread]
    rfl
  · show (readDigits? 1 (digits ++ '-' :: rest).length (digits ++ '-' :: rest)).map _ = _
    rw [hread]
    rfl

/-- A year up to its hyphen. -/
theorem readYear?_yearText (year : Int) (rest : List Char) :
    readYear? (yearText year ++ '-' :: rest) = some (year, '-' :: rest) := by
  unfold yearText
  split
  · rename_i hyear
    have hlength := length_paddedDigits 4 year.toNat
    rw [readYear?_digits (fun _ => isDigit_of_mem_paddedDigits)
        (paddedDigits_ne_nil (by decide) year.toNat) (by omega),
      digitsValue_paddedDigits, Nat.mod_eq_of_lt (by omega), Int.toNat_of_nonneg hyear.1]
  · have hdigits : ∀ d ∈ List.replicate (4 - (decimalDigits year.natAbs).length) '0' ++
        decimalDigits year.natAbs, isDigit d = true := by
      intro d hd
      rcases List.mem_append.mp hd with hd | hd
      · exact isDigit_of_mem_zeros hd
      · exact isDigit_of_mem_decimalDigits hd
    have hread := readYear?_signed hdigits (List.append_ne_nil_of_right_ne_nil _
      (decimalDigits_ne_nil year.natAbs)) (decide (year < 0)) rest
    rw [digitsValue_append, digitsValue_zeros, digitsValue_decimalDigits, Nat.zero_mul,
      Nat.zero_add] at hread
    simp only [decide_eq_true_eq] at hread
    rw [List.cons_append, List.cons_append, hread]
    congr 2
    omega

/-- A point and at most nine digits. -/
theorem readFraction?_places {width n : Nat} (hpos : 0 < width) (hwidth : width ≤ 9)
    (hn : n < 10 ^ width) : readFraction? ('.' :: paddedDigits width n ++ ['Z']) =
      some (n * 10 ^ (9 - width), ['Z']) := by
  have hdigits : ∀ d ∈ paddedDigits width n, isDigit d = true :=
    fun _ => isDigit_of_mem_paddedDigits
  have hlength := length_paddedDigits width n
  have htake := takeWhile_isDigit hdigits (show isDigit 'Z' = false by decide) []
  have hdrop : (paddedDigits width n ++ ['Z']).dropWhile isDigit = ['Z'] := by
    rw [List.dropWhile_append_of_pos hdigits]
    rfl
  have hempty : (paddedDigits width n).isEmpty = false :=
    List.isEmpty_eq_false_iff.mpr (paddedDigits_ne_nil hpos n)
  have hkept : (paddedDigits width n).take 9 = paddedDigits width n :=
    List.take_of_length_le (by omega)
  rw [List.cons_append, readFraction?]
  simp only [htake, hdrop, hempty, hkept, Bool.false_eq_true, if_false]
  rw [digitsValue_paddedDigits, Nat.mod_eq_of_lt hn, hlength]

/-- A fraction up to the end of the text. -/
theorem readFraction?_fractionText {n : Nat} (hn : n < 1000000000) :
    readFraction? (fractionText n ++ ['Z']) = some (n, ['Z']) := by
  unfold fractionText
  split
  · rename_i hzero
    rw [hzero]
    rfl
  · split
    · rw [readFraction?_places (by decide) (by decide) (by omega),
        show n / 1000000 * 10 ^ (9 - 3) = n by omega]
    · split
      · rw [readFraction?_places (by decide) (by decide) (by omega),
          show n / 1000 * 10 ^ (9 - 6) = n by omega]
      · rw [readFraction?_places (by decide) (by decide) (by omega),
          show n * 10 ^ (9 - 9) = n by omega]

/-- A fraction or the end of the text follows the seconds. -/
theorem fractionText_cons (n : Nat) :
    ∃ c cs, fractionText n ++ ['Z'] = c :: cs ∧ isDigit c = false := by
  unfold fractionText
  split
  · exact ⟨'Z', [], rfl, by decide⟩
  · split
    · exact ⟨'.', _, rfl, by decide⟩
    · split
      · exact ⟨'.', _, rfl, by decide⟩
      · exact ⟨'.', _, rfl, by decide⟩

/-! ## The text -/

theorem readDate?_text {date : Date} (h : date.isValid = true) (rest : List Char) :
    readDate? true (yearText date.year ++ '-' :: (paddedDigits 2 date.month ++
        '-' :: (paddedDigits 2 date.day ++ 'T' :: rest))) = some (date, 'T' :: rest) := by
  obtain ⟨hmonth, hday⟩ := Date.lt_hundred_of_isValid h
  have hgap (cs : List Char) : trimStart ('-' :: cs) = '-' :: cs := rfl
  simp only [readDate?, readYear?_yearText, bind, Option.bind, if_true, hgap, readChar?,
    readTwo?_paddedDigits hmonth (show isDigit '-' = false by decide),
    readTwo?_paddedDigits hday (show isDigit 'T' = false by decide)]

theorem readTime?_text (date : Date) {hour minute second n : Nat} (hhour : hour < 100)
    (hminute : minute < 100) (hsecond : second < 100) (hn : n < 1000000000) :
    readTime? true date (paddedDigits 2 hour ++ ':' :: (paddedDigits 2 minute ++
        ':' :: (paddedDigits 2 second ++ (fractionText n ++ ['Z'])))) =
      some (⟨date, hour, minute, second, n, 0⟩, ['Z']) := by
  have hgap (cs : List Char) : trimStart (':' :: cs) = ':' :: cs := rfl
  have hfraction := readFraction?_fractionText hn
  obtain ⟨c, cs, hcs, hc⟩ := fractionText_cons n
  rw [hcs] at hfraction ⊢
  simp only [readTime?, bind, Option.bind, if_true, hgap, readChar?, hfraction,
    readTwo?_paddedDigits hhour (show isDigit ':' = false by decide),
    readTwo?_paddedDigits hminute (show isDigit ':' = false by decide),
    readTwo?_paddedDigits hsecond hc]

/-- One if the point is a leap second, which its text counts as the second 60. -/
def leap (t : Timestamp) : Nat := if 1000000000 ≤ t.nanoseconds then 1 else 0

/-- The parts that stand in the text of a point. -/
def parts (t : Timestamp) : Parts :=
  ⟨Date.ofDays t.day, t.secondOfDay / 3600, t.secondOfDay / 60 % 60, t.secondOfDay % 60 + t.leap,
    t.nanoseconds - t.leap * 1000000000, 0⟩

theorem zuluText_eq (t : Timestamp) : t.zuluText.toList =
    yearText t.parts.date.year ++ '-' :: (paddedDigits 2 t.parts.date.month ++
      '-' :: (paddedDigits 2 t.parts.date.day ++ 'T' :: (paddedDigits 2 t.parts.hour ++
        ':' :: (paddedDigits 2 t.parts.minute ++ ':' :: (paddedDigits 2 t.parts.second ++
          (fractionText t.parts.nanoseconds ++ ['Z'])))))) := by
  rw [zuluText, String.toList_ofList, civilText]
  simp only [List.append_assoc, List.cons_append]
  rfl

theorem parts_bounds {t : Timestamp} (h : t.IsRepresentable) :
    t.parts.hour < 24 ∧ t.parts.minute < 60 ∧ t.parts.second ≤ 60 ∧
      t.parts.nanoseconds < 1000000000 ∧ (t.parts.second = 60 ↔ t.leap = 1) := by
  have hday : t.secondOfDay < 86400 := by
    unfold secondOfDay
    omega
  have hminute : t.secondOfDay % 60 = (t.seconds % 60).toNat := by
    unfold secondOfDay
    omega
  obtain ⟨-, hnanos⟩ := h
  unfold parts leap
  simp only
  split
  · omega
  · omega

/-- The day of a point is one of the calendar. -/
theorem isValid_parts {t : Timestamp} (h : t.IsRepresentable) : t.parts.date.isValid = true := by
  have hrange := h.1
  rw [inRange, Bool.and_eq_true, decide_eq_true_iff, decide_eq_true_iff] at hrange
  exact Date.isValid_ofDays hrange

/-- **The parts of a point make the point.** -/
theorem timestamp?_parts {t : Timestamp} (h : t.IsRepresentable) :
    t.parts.timestamp? = some t := by
  obtain ⟨hhour, hminute, hsecond, -, hleap⟩ := parts_bounds h
  have hoffset : t.parts.offset.natAbs < 86400 := (by decide : (0 : Int).natAbs < 86400)
  have hcond : (t.parts.date.isValid && decide (t.parts.hour < 24) &&
      decide (t.parts.minute < 60) && decide (t.parts.second ≤ 60) &&
      decide (t.parts.offset.natAbs < 86400)) = true := by
    rw [decide_eq_true hhour, decide_eq_true hminute, decide_eq_true hsecond,
      decide_eq_true hoffset, isValid_parts h]
    rfl
  -- the second 60 of a text goes back into the nanoseconds
  have hpoint : (if t.parts.second = 60 then 1 else 0) = t.leap := by
    unfold leap at hleap ⊢
    split at hleap <;> simp_all
  have heq : (⟨t.parts.date.toDays * 86400 + t.parts.hour * 3600 + t.parts.minute * 60 +
      (t.parts.second - t.leap : Nat) - t.parts.offset,
      t.parts.nanoseconds + t.leap * 1000000000⟩ : Timestamp) = t := by
    have hdate : t.parts.date.toDays = t.day := Date.toDays_ofDays t.day
    rw [hdate]
    obtain ⟨seconds, nanoseconds⟩ := t
    simp only [parts, leap, secondOfDay, day]
    congr 1
    · omega
    · split <;> omega
  simp only [Parts.timestamp?, hcond, if_true, hpoint, heq, h.1]

/-- **A point in time is read from its text.** -/
theorem relaxed?_zuluText {t : Timestamp} (h : t.IsRepresentable) :
    relaxed? t.zuluText.toList = some t := by
  obtain ⟨hhour, hminute, hsecond, hnanos, -⟩ := parts_bounds h
  have htime := readTime?_text t.parts.date (show t.parts.hour < 100 by omega)
    (show t.parts.minute < 100 by omega) (show t.parts.second < 100 by omega) hnanos
  have hzone : readZone? (trimStart ['Z']) = some (0, []) := by decide
  have hend : (trimStart []).isEmpty = true := rfl
  rw [zuluText_eq, relaxed?]
  simp only [readDate?_text (isValid_parts h), bind, Option.bind, readBetween?, true_or, if_true,
    htime, hzone, hend]
  exact timestamp?_parts h

/-! ## Any text -/

/-- A fraction is part of a second. -/
theorem readFraction?_lt {cs rest : List Char} {n : Nat} (h : readFraction? cs = some (n, rest)) :
    n < 1000000000 := by
  unfold readFraction? at h
  split at h
  · rename_i cs
    simp only at h
    split at h
    · cases h
    · simp only [Option.some.injEq, Prod.mk.injEq] at h
      rw [← h.1]
      have hdigits : ∀ c ∈ (cs.takeWhile isDigit).take 9, isDigit c = true := fun c hc =>
        List.all_eq_true.mp List.all_takeWhile c (List.mem_of_mem_take hc)
      have hlt := digitsValue_lt hdigits
      have hlength : ((cs.takeWhile isDigit).take 9).length ≤ 9 := List.length_take_le _ _
      calc _ < 10 ^ ((cs.takeWhile isDigit).take 9).length *
            10 ^ (9 - ((cs.takeWhile isDigit).take 9).length) :=
              Nat.mul_lt_mul_of_pos_right hlt (Nat.pow_pos (by decide))
        _ = 1000000000 := by rw [← Nat.pow_add, Nat.add_sub_cancel' hlength]
  · cases h
    decide

/-- An offset is a number of whole minutes. -/
theorem readOffset?_minutes {between : List Char → Option (List Char)} {cs rest : List Char}
    {n : Int} (h : readOffset? between cs = some (n, rest)) : n % 60 = 0 := by
  cases cs with
  | nil => cases h
  | cons c cs =>
      rw [readOffset?] at h
      split at h
      · cases h
        rfl
      · split at h
        · simp only [bind, Option.bind_eq_some_iff] at h
          obtain ⟨⟨hours, cs⟩, -, cs, -, ⟨minutes, cs⟩, -, h⟩ := h
          simp only at h
          split at h
          · cases h
          · cases h
            split <;> omega
        · cases h

theorem readZone?_minutes {cs rest : List Char} {n : Int} (h : readZone? cs = some (n, rest)) :
    n % 60 = 0 := by
  unfold readZone? at h
  split at h
  · cases h
    rfl
  · exact readOffset?_minutes h

/-- The point that parts make is representable: an offset of whole minutes leaves the leap second at
    the end of its minute. -/
theorem Parts.timestamp?_isRepresentable {p : Parts} {t : Timestamp}
    (hnanos : p.nanoseconds < 1000000000) (hoffset : p.offset % 60 = 0)
    (h : p.timestamp? = some t) : t.IsRepresentable := by
  rw [Parts.timestamp?] at h
  split at h
  · generalize hleap : (if p.second = 60 then 1 else 0) = leap at h
    simp only at h
    split at h
    · rename_i hrange
      cases h
      refine ⟨hrange, ?_⟩
      simp only
      split at hleap <;> omega
    · cases h
  · cases h

theorem readTime?_parts {gaps : Bool} {date : Date} {cs rest : List Char} {parts : Parts}
    (h : readTime? gaps date cs = some (parts, rest)) :
    parts.nanoseconds < 1000000000 ∧ parts.offset = 0 := by
  simp only [readTime?, bind, Option.bind_eq_some_iff] at h
  obtain ⟨_, -, _, -, _, -, _, -, _, -, ⟨nanoseconds, cs⟩, hfraction, h⟩ := h
  cases h
  exact ⟨readFraction?_lt hfraction, rfl⟩

/-- **Whatever is read is representable.** -/
theorem relaxed?_isRepresentable {cs : List Char} {t : Timestamp} (h : relaxed? cs = some t) :
    t.IsRepresentable := by
  simp only [relaxed?, bind, Option.bind_eq_some_iff] at h
  obtain ⟨_, -, cs, -, ⟨parts, cs⟩, htime, ⟨offset, cs⟩, hzone, h⟩ := h
  have hnanos := (readTime?_parts htime).1
  simp only at h
  split at h
  · refine Parts.timestamp?_isRepresentable ?_ (readZone?_minutes hzone) h
    exact hnanos
  · cases h

theorem strict?_isRepresentable {cs : List Char} {t : Timestamp} (h : strict? cs = some t) :
    t.IsRepresentable := by
  simp only [strict?, bind, Option.bind_eq_some_iff] at h
  obtain ⟨_, -, _, -, _, -, _, -, _, -, _, -, _, -, _, -, _, -, _, -, _, -, fraction, hfraction,
    offset, hoffset, h⟩ := h
  split at h
  · exact Parts.timestamp?_isRepresentable (readFraction?_lt hfraction)
      (readOffset?_minutes hoffset) h
  · cases h

theorem civil?_isRepresentable {between : List Char → Option (List Char)} {cs : List Char}
    {t : Timestamp} (h : civil? between cs = some t) : t.IsRepresentable := by
  simp only [civil?, bind, Option.bind_eq_some_iff] at h
  obtain ⟨_, -, cs, -, ⟨parts, cs⟩, htime, h⟩ := h
  obtain ⟨hnanos, hoffset⟩ := readTime?_parts htime
  split at h
  · exact Parts.timestamp?_isRepresentable hnanos (by rw [hoffset]; rfl) h
  · cases h

theorem date?_isRepresentable {cs : List Char} {t : Timestamp} (h : date? cs = some t) :
    t.IsRepresentable := by
  simp only [date?, bind, Option.bind_eq_some_iff] at h
  obtain ⟨_, -, h⟩ := h
  split at h
  · exact Parts.timestamp?_isRepresentable (show 0 < 1000000000 by decide) rfl h
  · cases h

/-- What a filter means by a text is representable too. -/
theorem read?_isRepresentable {cs : List Char} {t : Timestamp} (h : read? cs = some t) :
    t.IsRepresentable := by
  simp only [read?, Option.orElse_eq_orElse, Option.orElse_eq_or, Option.or_eq_some_iff] at h
  rcases h with h | ⟨-, h | ⟨-, h | ⟨-, h⟩⟩⟩
  · exact strict?_isRepresentable h
  · exact civil?_isRepresentable h
  · exact civil?_isRepresentable h
  · exact date?_isRepresentable h

end Timestamp
end RecordQuery
