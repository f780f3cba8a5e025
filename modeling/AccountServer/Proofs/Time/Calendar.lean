import AccountServer.Time.Calendar

/-!
# Dates and numbers of days

A number of days has a date, and the date has that number of days (`daysOfDate_dateOfDays`,
`isDate_dateOfDays`). Both directions count years from March, so that a date is a year and a day of
the year, and the days before a year are `marchDay`. An era of 400 years consists of centuries, a
century of spans of four years, and a span of years; the last of each kind is a day longer or
shorter, and the formula for the year of the era gets by without cases (`yearOfEra_eq`).
-/

namespace AccountServer.Calendar

/-- The days from the first of March of the year 0 to that of a year. -/
def marchDay (year : Int) : Int := 365 * year + year / 4 - year / 100 + year / 400

theorem daysOfDate_eq (year : Int) (month day : Nat) :
    daysOfDate year month day =
      marchDay (if month ≤ 2 then year - 1 else year) +
        ((153 * (((month : Int) + 9) % 12) + 2) / 5 + day - 1) - 719468 := by
  unfold daysOfDate marchDay
  simp only [Int.fdiv_eq_ediv_of_nonneg _ (show (0 : Int) ≤ 400 by decide)]
  omega

/-! ## The year of an era -/

/-- The year of an era that has a day. -/
def yearOfEra (dayOfEra : Int) : Int :=
  (dayOfEra - dayOfEra / 1460 + dayOfEra / 36524 - dayOfEra / 146096) / 365

/-- A day of an era lies in a century, in a span of four years, in a year. Only the last year of a
span has a day of number 365, and the last span of a century none, but for the last century. -/
theorem yearOfEra_eq {d : Int} (hpos : 0 ≤ d) (hlt : d < 146097) :
    ∃ century span year day, yearOfEra d = 100 * century + 4 * span + year ∧
      d = 36524 * century + 1461 * span + 365 * year + day ∧
      (0 ≤ century ∧ century ≤ 3) ∧ (0 ≤ span ∧ span ≤ 24) ∧ (0 ≤ year ∧ year ≤ 3) ∧
      (0 ≤ day ∧ day ≤ 365) ∧ (day = 365 → year = 3 ∧ (span = 24 → century = 3)) := by
  by_cases hlast : d = 146096
  · subst hlast
    exact ⟨3, 24, 3, 365, by decide⟩
  · obtain ⟨c, r, hd, hr⟩ : ∃ c r, d = 36524 * c + r ∧ (0 ≤ r ∧ r ≤ 36523) :=
      ⟨d / 36524, d % 36524, by omega, by omega⟩
    obtain ⟨q, s, hr', hs⟩ : ∃ q s, r = 1461 * q + s ∧ (0 ≤ s ∧ s ≤ 1460) :=
      ⟨r / 1461, r % 1461, by omega, by omega⟩
    -- The division by 1460 is ahead by one at the end of a span.
    obtain ⟨e, hspan, he⟩ : ∃ e, d / 1460 = 25 * c + q + e ∧
        (e = 0 ∧ 24 * c + q + s < 1460 ∨ e = 1 ∧ 1460 ≤ 24 * c + q + s) :=
      ⟨(24 * c + q + s) / 1460, by omega, by omega⟩
    have hcentury : d / 36524 = c := by omega
    have hera : d / 146096 = 0 := by omega
    have hyear : yearOfEra d = 100 * c + 4 * q + (s - e) / 365 := by
      rw [yearOfEra, hspan, hcentury, hera]
      omega
    exact ⟨c, q, (s - e) / 365, s - 365 * ((s - e) / 365), hyear, by omega, by omega, by omega,
      by omega, by omega, by omega⟩

/-! ## The day of a year -/

/-- The date of a day of a year, both counted from March. -/
def ofYearDay (year dayOfYear : Int) : Int × Nat × Nat :=
  let monthFromMarch := (5 * dayOfYear + 2) / 153
  let day := dayOfYear - (153 * monthFromMarch + 2) / 5 + 1
  let month := if monthFromMarch < 10 then monthFromMarch + 3 else monthFromMarch - 9
  (year + if month ≤ 2 then 1 else 0, month.toNat, day.toNat)

/-- A day of a year lies in a month, which is counted from March too. -/
theorem ofYearDay_eq (year : Int) {day : Int} (hpos : 0 ≤ day) (hle : day ≤ 365) :
    ∃ m d : Nat, m < 12 ∧ day = (153 * (m : Int) + 2) / 5 + d - 1 ∧ 1 ≤ d ∧
      day < (153 * ((m : Int) + 1) + 2) / 5 ∧
      ofYearDay year day = if m < 10 then (year, m + 3, d) else (year + 1, m - 9, d) := by
  let m := (5 * day + 2) / 153
  refine ⟨m.toNat, (day - (153 * m + 2) / 5 + 1).toNat, by omega, by omega, by omega, by omega, ?_⟩
  unfold ofYearDay
  by_cases hm : m < 10
  · have hmonth : ¬ m + 3 ≤ 2 := by omega
    have hnat : m.toNat < 10 := by omega
    have htoNat : (m + 3).toNat = m.toNat + 3 := by omega
    simp only [m] at hm hmonth hnat htoNat
    simp only [hm, hmonth, hnat, htoNat, if_true, if_false, Int.add_zero, m]
  · have hmonth : m - 9 ≤ 2 := by omega
    have hnat : ¬ m.toNat < 10 := by omega
    have htoNat : (m - 9).toNat = m.toNat - 9 := by omega
    simp only [m] at hm hmonth hnat htoNat
    simp only [hm, hmonth, hnat, htoNat, if_true, if_false, m]

theorem daysOfDate_ofYearDay (year : Int) {day : Int} (hpos : 0 ≤ day) (hle : day ≤ 365) :
    daysOfDate (ofYearDay year day).1 (ofYearDay year day).2.1 (ofYearDay year day).2.2 =
      marchDay year + day - 719468 := by
  obtain ⟨m, d, hm, hday, hd, -, heq⟩ := ofYearDay_eq year hpos hle
  rw [heq, daysOfDate_eq]
  by_cases hmonth : m < 10
  · have hlate : ¬ m + 3 ≤ 2 := by omega
    have hback : (((m + 3 : Nat) : Int) + 9) % 12 = m := by omega
    simp only [hmonth, hlate, hback, if_true, if_false]
    omega
  · have hearly : m - 9 ≤ 2 := by omega
    have hback : (((m - 9 : Nat) : Int) + 9) % 12 = m := by omega
    simp only [hmonth, hearly, hback, if_true, if_false, Int.add_sub_cancel]
    omega

/-- Only February depends on the year. -/
theorem monthLength_of_ne {month : Nat} (h : month ≠ 2) (year : Int) :
    monthLength year month = monthLength 0 month := by
  unfold monthLength
  split <;> first | rfl | contradiction

theorem isDate_ofYearDay {year day : Int} (hpos : 0 ≤ day) (hle : day ≤ 365)
    (hleap : day = 365 → isLeap (year + 1) = true) :
    isDate (ofYearDay year day).1 (ofYearDay year day).2.1 (ofYearDay year day).2.2 = true := by
  obtain ⟨m, d, hm, hday, hd, hnext, heq⟩ := ofYearDay_eq year hpos hle
  rw [heq]
  by_cases hlast : m = 11
  · subst hlast
    have hlength : d ≤ if isLeap (year + 1) then 29 else 28 := by
      split
      · omega
      · next h =>
        have hshort : day ≠ 365 := fun heq => h (hleap heq)
        omega
    simpa [isDate, monthLength, hd] using hlength
  · have hlengths : ∀ m : Nat, m < 11 → (153 * ((m : Int) + 1) + 2) / 5 =
        (153 * (m : Int) + 2) / 5 + monthLength 0 (if m < 10 then m + 3 else m - 9) := by
      decide
    have hmonth : m < 11 := by omega
    have hlength := hlengths m hmonth
    split at hlength
    · next h =>
      rw [if_pos h]
      simp only [isDate, monthLength_of_ne (show m + 3 ≠ 2 by omega), Bool.and_eq_true,
        decide_eq_true_eq]
      omega
    · next h =>
      rw [if_neg h]
      simp only [isDate, monthLength_of_ne (show m - 9 ≠ 2 by omega), Bool.and_eq_true,
        decide_eq_true_eq]
      omega

/-! ## Dates -/

theorem exists_dateOfDays (days : Int) : ∃ year day, days = marchDay year + day - 719468 ∧
    0 ≤ day ∧ day ≤ 365 ∧ (day = 365 → isLeap (year + 1) = true) ∧
    dateOfDays days = ofYearDay year day := by
  -- Eras of 400 years are all of 146097 days, so it is enough to know the year within the era.
  obtain ⟨era, dayOfEra, hdays, hpos, hlt⟩ : ∃ era d, days + 719468 = 146097 * era + d ∧ 0 ≤ d ∧
      d < 146097 :=
    ⟨(days + 719468) / 146097, (days + 719468) % 146097, by omega, by omega, by omega⟩
  have hera : (days + 719468).fdiv 146097 = era := by
    rw [Int.fdiv_eq_ediv_of_nonneg _ (by decide)]
    omega
  obtain ⟨c, q, m, day, hyear, hday, hc, hq, hm, hbounds, hlast⟩ := yearOfEra_eq hpos hlt
  have hfour : (100 * c + 4 * q + m) / 4 = 25 * c + q := by omega
  have hhundred : (100 * c + 4 * q + m) / 100 = c := by omega
  refine ⟨yearOfEra dayOfEra + era * 400, day, ?_, hbounds.1, hbounds.2, fun hlong => ?_, ?_⟩
  · have hfour' : (100 * c + 4 * q + m + era * 400) / 4 = 25 * c + q + era * 100 := by omega
    have hhundred' : (100 * c + 4 * q + m + era * 400) / 100 = c + era * 4 := by omega
    have hera' : (100 * c + 4 * q + m + era * 400) / 400 = era := by omega
    rw [marchDay, hyear, hfour', hhundred', hera']
    omega
  · -- Years begin in March here, so the last day of a long one is the leap day of the next.
    obtain ⟨rfl, hspan⟩ := hlast hlong
    rw [hyear]
    simp only [isLeap, Bool.and_eq_true, Bool.or_eq_true, beq_iff_eq, bne_iff_ne]
    omega
  · have hrest : days + 719468 - era * 146097 = dayOfEra := by omega
    have hdayOfYear : dayOfEra -
        (365 * yearOfEra dayOfEra + yearOfEra dayOfEra / 4 - yearOfEra dayOfEra / 100) = day := by
      rw [hyear, hfour, hhundred]
      omega
    unfold dateOfDays
    dsimp only
    rw [hera, hrest]
    show ofYearDay (yearOfEra dayOfEra + era * 400) (dayOfEra -
      (365 * yearOfEra dayOfEra + yearOfEra dayOfEra / 4 - yearOfEra dayOfEra / 100)) = _
    rw [hdayOfYear]

/-- The date of a number of days has that number of days. -/
theorem daysOfDate_dateOfDays (days : Int) :
    daysOfDate (dateOfDays days).1 (dateOfDays days).2.1 (dateOfDays days).2.2 = days := by
  obtain ⟨year, day, hdays, hpos, hle, -, heq⟩ := exists_dateOfDays days
  rw [heq, daysOfDate_ofYearDay year hpos hle, hdays]

theorem isDate_dateOfDays (days : Int) :
    isDate (dateOfDays days).1 (dateOfDays days).2.1 (dateOfDays days).2.2 = true := by
  obtain ⟨year, day, -, hpos, hle, hleap, heq⟩ := exists_dateOfDays days
  rw [heq]
  exact isDate_ofYearDay hpos hle hleap

/-! ## Years -/

theorem bounds_of_isDate {year : Int} {month day : Nat} (h : isDate year month day = true) :
    1 ≤ month ∧ month ≤ 12 ∧ 1 ≤ day ∧ day ≤ 31 := by
  simp only [isDate, Bool.and_eq_true, decide_eq_true_eq] at h
  obtain ⟨hday, hlength⟩ := h
  unfold monthLength at hlength
  split at hlength
  case h_5 => split at hlength <;> omega
  all_goals omega

/-- A date lies between the beginnings of two years. -/
theorem daysOfDate_mem_year {year : Int} {month day : Nat} (h : isDate year month day = true) :
    daysOfDate year 1 1 ≤ daysOfDate year month day ∧
      daysOfDate year month day < daysOfDate (year + 1) 1 1 := by
  obtain ⟨hfirst, hlast, hday, hlength⟩ := bounds_of_isDate h
  have hyear : marchDay (year - 1) + 365 ≤ marchDay year := by
    simp only [marchDay]
    omega
  simp only [daysOfDate_eq, Nat.reduceLeDiff, if_true, Int.add_sub_cancel]
  by_cases hmonth : month ≤ 2
  · have hback : ((month : Int) + 9) % 12 = month + 9 := by omega
    rw [if_pos hmonth, hback]
    omega
  · have hback : ((month : Int) + 9) % 12 = month - 3 := by omega
    rw [if_neg hmonth, hback]
    omega

theorem daysOfDate_mono {year year' : Int} (h : year ≤ year') :
    daysOfDate year 1 1 ≤ daysOfDate year' 1 1 := by
  simp only [daysOfDate_eq, marchDay]
  omega

/-- The year of a number of days that lies between the beginnings of two years. -/
theorem year_dateOfDays {first last days : Int} (hfirst : daysOfDate first 1 1 ≤ days)
    (hlast : days < daysOfDate (last + 1) 1 1) :
    first ≤ (dateOfDays days).1 ∧ (dateOfDays days).1 ≤ last := by
  obtain ⟨hlow, hhigh⟩ := daysOfDate_mem_year (isDate_dateOfDays days)
  rw [daysOfDate_dateOfDays] at hlow hhigh
  constructor
  · refine Int.not_lt.mp fun hlt => ?_
    have := daysOfDate_mono (show (dateOfDays days).1 + 1 ≤ first by omega)
    omega
  · refine Int.not_lt.mp fun hlt => ?_
    have := daysOfDate_mono (show last + 1 ≤ (dateOfDays days).1 by omega)
    omega

end AccountServer.Calendar
