import RecordQuery.Calendar.Date

/-!
# `Proofs.Calendar.Date` — days are counted back and forth

`Date.ofDays` finds the year of a day within an era of 400 years by one division; `yearOfEra_spec`
says that it is the right one. Therefore the date of a day has that day (`toDays_ofDays`), and it is
a date of the calendar (`isValid_ofDays`).
-/

namespace RecordQuery.Date

/-! ## The year of an era -/

/-- The year of an era that a day of it lies in, counted from March. -/
def yearOfEra (d : Int) : Int := (d - d / 1460 + d / 36524 - d / 146096) / 365

/-- How many days of the era lie before a year of it. -/
def daysBefore (year : Int) : Int := 365 * year + year / 4 - year / 100

/-- An era is made of centuries, these of groups of four years, and these of years; the day `t` of a
    year may be the leap day at its end. -/
theorem exists_parts {d : Int} (hd : 0 ≤ d ∧ d < 146096) :
    ∃ c q y t : Int, d = 36524 * c + 1461 * q + 365 * y + t ∧ (0 ≤ c ∧ c ≤ 3) ∧ (0 ≤ q ∧ q ≤ 24) ∧
      (0 ≤ y ∧ y ≤ 3) ∧ 0 ≤ t ∧ (t < 365 ∨ t = 365 ∧ y = 3 ∧ q ≤ 23) := by
  let r := d - 36524 * (d / 36524)
  have hr : 0 ≤ r ∧ r < 36524 := by omega
  let s := r - 1461 * (r / 1461)
  have hs : 0 ≤ s ∧ s < 1461 := by omega
  refine ⟨d / 36524, r / 1461, min (s / 365) 3, s - 365 * min (s / 365) 3, ?_⟩
  omega

theorem yearOfEra_eq {c q y t : Int} (hc : 0 ≤ c ∧ c ≤ 3) (hq : 0 ≤ q ∧ q ≤ 24)
    (hy : 0 ≤ y ∧ y ≤ 3) (ht : 0 ≤ t) (hlast : t < 365 ∨ t = 365 ∧ y = 3 ∧ q ≤ 23) :
    yearOfEra (36524 * c + 1461 * q + 365 * y + t) = 100 * c + 4 * q + y := by
  unfold yearOfEra
  have hcentury : (36524 * c + 1461 * q + 365 * y + t) / 36524 = c := by omega
  have hera : (36524 * c + 1461 * q + 365 * y + t) / 146096 = 0 := by omega
  rw [hcentury, hera]
  -- the last days before a leap day are already counted to the next group of 1460
  by_cases hgroup : 24 * c + q + 365 * y + t < 1460
  · rw [show (36524 * c + 1461 * q + 365 * y + t) / 1460 = 25 * c + q by omega]
    omega
  · rw [show (36524 * c + 1461 * q + 365 * y + t) / 1460 = 25 * c + q + 1 by omega]
    omega

/-- **The year of a day of the era**: the day lies in it, and it is the leap day only in a year that
    ends with one. -/
theorem yearOfEra_spec {d : Int} (hd : 0 ≤ d ∧ d < 146097) :
    (0 ≤ yearOfEra d ∧ yearOfEra d ≤ 399) ∧
      0 ≤ d - daysBefore (yearOfEra d) ∧ d - daysBefore (yearOfEra d) ≤ 365 ∧
      (d - daysBefore (yearOfEra d) = 365 → isLeapYear (yearOfEra d + 1) = true) := by
  by_cases hlast : d = 146096
  · -- the leap day at the end of the era belongs to no century of it
    subst hlast
    decide
  · obtain ⟨c, q, y, t, rfl, hc, hq, hy, ht, hleap⟩ := exists_parts (d := d) (by omega)
    rw [yearOfEra_eq hc hq hy ht hleap]
    have hbefore : daysBefore (100 * c + 4 * q + y) = 36524 * c + 1461 * q + 365 * y := by
      unfold daysBefore
      omega
    rw [hbefore]
    refine ⟨by omega, by omega, by omega, ?_⟩
    intro hday
    rw [isLeapYear, Bool.and_eq_true, Bool.or_eq_true, beq_iff_eq, bne_iff_ne]
    exact ⟨by omega, Or.inl (by omega)⟩

/-! ## Dates of days -/

/-- The days from the first of March to a month, which is counted from there. -/
def daysToMonth (month : Nat) : Nat := (153 * month + 2) / 5

/-- The date that lies so many months and days after the first of March of a year. -/
def afterMarch (year : Int) (month day : Nat) : Date :=
  if month < 10 then ⟨year, month + 3, day + 1⟩ else ⟨year + 1, month - 9, day + 1⟩

theorem isLeapYear_add_era (year era : Int) : isLeapYear (year + era * 400) = isLeapYear year := by
  unfold isLeapYear
  rw [show (year + era * 400) % 4 = year % 4 by omega,
    show (year + era * 400) % 100 = year % 100 by omega,
    show (year + era * 400) % 400 = year % 400 by omega]

/-- **The date of a day** lies in a month of a year of an era, and in February's leap day only if
    there is one. -/
theorem ofDays_eq (days : Int) : ∃ (era year : Int) (month day : Nat),
    ofDays days = afterMarch (year + era * 400) month day ∧
      days + 719468 = era * 146097 + daysBefore year + (daysToMonth month + day : Nat) ∧
      (0 ≤ year ∧ year ≤ 399) ∧ month ≤ 11 ∧ daysToMonth month + day < daysToMonth (month + 1) ∧
      daysToMonth month + day ≤ 365 ∧
      (daysToMonth month + day = 365 → isLeapYear (year + 1 + era * 400) = true) := by
  have hd : 0 ≤ (days + 719468) % 146097 ∧ (days + 719468) % 146097 < 146097 := by omega
  obtain ⟨hyear, hlow, hhigh, hleap⟩ := yearOfEra_spec hd
  generalize hn : ((days + 719468) % 146097 -
    daysBefore (yearOfEra ((days + 719468) % 146097))).toNat = n
  have hmonth : daysToMonth ((5 * n + 2) / 153) ≤ n ∧ n < daysToMonth ((5 * n + 2) / 153 + 1) := by
    unfold daysToMonth
    omega
  refine ⟨(days + 719468) / 146097, yearOfEra ((days + 719468) % 146097), (5 * n + 2) / 153,
    n - daysToMonth ((5 * n + 2) / 153), ?_, ?_, hyear, by omega, by omega, by omega, fun h => ?_⟩
  · unfold afterMarch ofDays
    simp only
    rw [← yearOfEra, ← daysBefore, hn, ← daysToMonth]
    split
    · simp
    · simp
      omega
  · rw [Nat.add_sub_cancel' hmonth.1]
    omega
  · rw [isLeapYear_add_era]
    exact hleap (by omega)

/-- **The date of a day has that day.** -/
theorem toDays_ofDays (days : Int) : (ofDays days).toDays = days := by
  obtain ⟨era, year, month, day, hdate, hdays, hyear, hmonth, -⟩ := ofDays_eq days
  unfold daysBefore daysToMonth at hdays
  rw [hdate]
  unfold afterMarch
  split
  · unfold toDays
    simp only
    rw [if_neg (by omega), if_neg (by omega)]
    omega
  · unfold toDays
    simp only
    rw [if_pos (by omega), if_pos (by omega)]
    omega

/-- A day before the next month is a day of the month. -/
theorem day_le_monthLength {year : Int} {month day : Nat} (hmonth : month ≤ 11)
    (hday : daysToMonth month + day < daysToMonth (month + 1))
    (hyear : daysToMonth month + day ≤ 365)
    (hleap : daysToMonth month + day = 365 → isLeapYear (year + 1) = true) :
    (afterMarch year month day).day ≤
      monthLength (afterMarch year month day).year (afterMarch year month day).month := by
  unfold daysToMonth at hday hyear hleap
  by_cases hlast : month = 11
  · -- February
    subst hlast
    show day + 1 ≤ if isLeapYear (year + 1) then 29 else 28
    split
    · omega
    · rename_i hno
      have hne : ¬(153 * 11 + 2) / 5 + day = 365 := fun h => hno (hleap h)
      omega
  · have hcases : month = 0 ∨ month = 1 ∨ month = 2 ∨ month = 3 ∨ month = 4 ∨ month = 5 ∨
        month = 6 ∨ month = 7 ∨ month = 8 ∨ month = 9 ∨ month = 10 := by omega
    rcases hcases with rfl | rfl | rfl | rfl | rfl | rfl | rfl | rfl | rfl | rfl | rfl <;>
      simp [afterMarch, monthLength] <;> omega

/-- A day that counts lies in a year that counts. -/
theorem year_afterMarch {days era year : Int} {month day : Nat}
    (h : leastDay ≤ days ∧ days ≤ greatestDay)
    (hdays : days + 719468 = era * 146097 + daysBefore year + (daysToMonth month + day : Nat))
    (hyear : 0 ≤ year ∧ year ≤ 399) (hday : daysToMonth month + day < daysToMonth (month + 1))
    (hlast : daysToMonth month + day ≤ 365) :
    leastYear ≤ (afterMarch (year + era * 400) month day).year ∧
      (afterMarch (year + era * 400) month day).year ≤ greatestYear := by
  have hleast : leastDay = -96465292 := by decide
  have hgreatest : greatestDay = 95026236 := by decide
  rw [hleast, hgreatest] at h
  unfold daysBefore daysToMonth at hdays
  unfold daysToMonth at hday hlast
  unfold afterMarch leastYear greatestYear
  -- the first year that counts lies in the era -656, the last one in the era 655
  have hera : -656 ≤ era ∧ era ≤ 655 := by omega
  have hfirst : era = -656 ∨ -655 ≤ era := by omega
  have hfinal : era = 655 ∨ era ≤ 654 := by omega
  split
  · refine ⟨?_, ?_⟩
    · show -262143 ≤ year + era * 400
      rcases hfirst with rfl | hfirst <;> omega
    · show year + era * 400 ≤ 262142
      rcases hfinal with rfl | hfinal <;> omega
  · refine ⟨?_, ?_⟩
    · show -262143 ≤ year + era * 400 + 1
      rcases hfirst with rfl | hfirst <;> omega
    · show year + era * 400 + 1 ≤ 262142
      rcases hfinal with rfl | hfinal <;> omega

/-- **The date of a day that counts is a date of the calendar.** -/
theorem isValid_ofDays {days : Int} (h : leastDay ≤ days ∧ days ≤ greatestDay) :
    (ofDays days).isValid = true := by
  obtain ⟨era, year, month, day, hdate, hdays, hyear, hmonth, hday, hlast, hleap⟩ := ofDays_eq days
  have hlength := @day_le_monthLength (year + era * 400) month day hmonth hday hlast (fun h => by
    rw [show year + era * 400 + 1 = year + 1 + era * 400 by omega]
    exact hleap h)
  have hrange := year_afterMarch h hdays hyear hday hlast
  have hpos : 1 ≤ (afterMarch (year + era * 400) month day).day := by
    unfold afterMarch
    split <;> exact Nat.le_add_left 1 day
  rw [hdate, isValid, decide_eq_true hrange.1, decide_eq_true hrange.2, decide_eq_true hpos,
    decide_eq_true hlength]
  rfl

/-- Months and days of dates of the calendar have two digits. -/
theorem lt_hundred_of_isValid {d : Date} (h : d.isValid = true) : d.month < 100 ∧ d.day < 100 := by
  simp only [isValid, Bool.and_eq_true, decide_eq_true_iff] at h
  obtain ⟨⟨⟨-, -⟩, hday⟩, hlength⟩ := h
  unfold monthLength at hlength
  split at hlength
  all_goals first
    | omega
    | (split at hlength <;> omega)

end RecordQuery.Date
