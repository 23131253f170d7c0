import Mathlib.Tactic.IntervalCases
import RequestQuery.Proofs.Calendar.Recovery

/-! # Day numbers are read back

A day number counts cycles of 400 years, and in a cycle the years, which begin in
March.  A year of a cycle is found by taking the leap days out of the days that
have passed, and a month by its place among the days of the year.  So dates and
their numbers determine each other (`Date.ofDayNumber?_eq_some_iff`), and so do
instants and their seconds (`DateTime.ofEpochSecond?_eq_some_iff`); an instant is
that of its milliseconds (`DateTime.ofEpochMilli?_epochMilli`) as far as these
reach.  Seconds that are not too far from the epoch all have an instant
(`DateTime.exists_ofEpochSecond?_eq`).
-/
namespace RequestQuery

/-! ## Years of a cycle -/

/-- The days of a cycle before a year of it. -/
def daysBeforeYear (yearOfCycle : Nat) : Nat :=
  365 * yearOfCycle + yearOfCycle / 4 - yearOfCycle / 100

/-- A day of a year that begins in March; the last one is a leap day. -/
def IsDayOfYear (yearOfCycle dayOfYear : Nat) : Prop :=
  dayOfYear ≤ 364 ∨ dayOfYear = 365 ∧ isLeapYear (yearOfCycle + 1) = true

theorem IsDayOfYear.le {yearOfCycle dayOfYear : Nat} (h : IsDayOfYear yearOfCycle dayOfYear) :
    dayOfYear ≤ 365 := by
  rcases h with h | ⟨h, -⟩ <;> omega

/-- **The year of a day is found.**  A year is a century, four years in it and a year of the four; what
the leap days before it add to the days never makes up a whole year. -/
theorem yearOfCycle_eq {yearOfCycle dayOfYear day : Nat} (hyear : yearOfCycle < 400)
    (hday : IsDayOfYear yearOfCycle dayOfYear) (hsum : day = daysBeforeYear yearOfCycle + dayOfYear) :
    (day - day / 1460 + day / 36524 - day / 146096) / 365 = yearOfCycle := by
  obtain ⟨century, four, year, rfl, hfour, hone⟩ : ∃ century four year,
      yearOfCycle = 100 * century + 4 * four + year ∧ four < 25 ∧ year < 4 :=
    ⟨yearOfCycle / 100, yearOfCycle % 100 / 4, yearOfCycle % 4, by omega, by omega, by omega⟩
  have hleap : dayOfYear ≤ 364 ∨ dayOfYear = 365 ∧ year = 3 ∧ (four ≠ 24 ∨ century = 3) := by
    simp only [IsDayOfYear, isLeapYear, Bool.and_eq_true, Bool.or_eq_true, beq_iff_eq, bne_iff_ne] at hday
    omega
  have hcount : day = 36524 * century + 1461 * four + 365 * year + dayOfYear := by
    rw [hsum, daysBeforeYear]
    omega
  -- the last day of the cycle is the only one for which the last quotient is not zero
  by_cases hlast : century = 3 ∧ four = 24 ∧ year = 3 ∧ dayOfYear = 365
  · obtain ⟨rfl, rfl, rfl, rfl⟩ := hlast
    subst hcount
    rfl
  · have hcentury : day / 36524 = century := by omega
    have hcycle : day / 146096 = 0 := by omega
    have hlow : day / 1460 ≤ 25 * century + four + dayOfYear := by omega
    have hhigh : 25 * century + four + dayOfYear ≤ day / 1460 + 364 := by omega
    omega

/-- A cycle has 146097 days. -/
theorem lt_of_isDayOfYear {yearOfCycle dayOfYear : Nat} (hyear : yearOfCycle < 400)
    (hday : IsDayOfYear yearOfCycle dayOfYear) : daysBeforeYear yearOfCycle + dayOfYear < 146097 := by
  have hlast := hday.le
  rw [daysBeforeYear]
  omega

/-- Every day of a cycle is a day of a year of it. -/
theorem exists_yearOfCycle {day : Nat} (h : day < 146097) :
    ∃ yearOfCycle dayOfYear, yearOfCycle < 400 ∧ IsDayOfYear yearOfCycle dayOfYear ∧
      day = daysBeforeYear yearOfCycle + dayOfYear := by
  -- the last century of a cycle, and the last of four years, are a day longer than the others
  obtain ⟨century, dayOfCentury, rfl, hcentury, hlong⟩ : ∃ century dayOfCentury,
      day = 36524 * century + dayOfCentury ∧ century < 4 ∧
        (dayOfCentury < 36524 ∨ century = 3 ∧ dayOfCentury = 36524) :=
    ⟨min (day / 36524) 3, day - 36524 * min (day / 36524) 3, by omega, by omega, by omega⟩
  obtain ⟨four, dayOfFour, rfl, hdayOfFour⟩ : ∃ four dayOfFour,
      dayOfCentury = 1461 * four + dayOfFour ∧ dayOfFour < 1461 :=
    ⟨dayOfCentury / 1461, dayOfCentury % 1461, by omega, by omega⟩
  obtain ⟨year, dayOfYear, rfl, hyear, hleap⟩ : ∃ year dayOfYear,
      dayOfFour = 365 * year + dayOfYear ∧ year < 4 ∧ (dayOfYear ≤ 364 ∨ year = 3 ∧ dayOfYear = 365) :=
    ⟨min (dayOfFour / 365) 3, dayOfFour - 365 * min (dayOfFour / 365) 3, by omega, by omega, by omega⟩
  refine ⟨100 * century + 4 * four + year, dayOfYear, by omega, ?_, ?_⟩
  · simp only [IsDayOfYear, isLeapYear, Bool.and_eq_true, Bool.or_eq_true, beq_iff_eq, bne_iff_ne]
    omega
  · have hquarter : (100 * century + 4 * four + year) / 4 = 25 * century + four := by omega
    have hwhole : (100 * century + 4 * four + year) / 100 = century := by omega
    rw [daysBeforeYear, hquarter, hwhole]
    omega

/-! ## Months of a year -/

/-- The position of a month in a year that begins in March. -/
def monthFromMarch (month : Nat) : Nat :=
  if 2 < month then month - 3 else month + 9

/-- The position of a day in a year that begins in March. -/
def dayFromMarch (month day : Nat) : Nat :=
  (153 * monthFromMarch month + 2) / 5 + day - 1

/-- The year, beginning in March, of a day of the calendar. -/
def yearFromMarch (year : Int) (month : Nat) : Int :=
  if 2 < month then year else year - 1

/-- The months from March on begin as the multiples of 30.6 days, rounded, do. -/
theorem daysInMonth_eq_next (year : Int) {month : Nat} (hlow : 1 ≤ month) (hhigh : month ≤ 12)
    (hfebruary : month ≠ 2) :
    (153 * monthFromMarch month + 2) / 5 + daysInMonth year month =
      (153 * (monthFromMarch month + 1) + 2) / 5 := by
  interval_cases month
  case «2» => exact absurd rfl hfebruary
  all_goals rfl

/-- February, the last of them, may be shorter. -/
theorem daysInMonth_le_next (year : Int) {month : Nat} (hlow : 1 ≤ month) (hhigh : month ≤ 12) :
    (153 * monthFromMarch month + 2) / 5 + daysInMonth year month ≤
      (153 * (monthFromMarch month + 1) + 2) / 5 := by
  by_cases hfebruary : month = 2
  · subst hfebruary
    have hdays : daysInMonth year 2 ≤ 29 := by
      rw [daysInMonth]
      split <;> decide
    rw [show monthFromMarch 2 = 11 from rfl]
    omega
  · exact (daysInMonth_eq_next year hlow hhigh hfebruary).le

theorem monthFromMarch_eq {year : Int} {month day : Nat} (h : isDate year month day = true) :
    (5 * dayFromMarch month day + 2) / 153 = monthFromMarch month := by
  simp only [isDate, Bool.and_eq_true, decide_eq_true_eq] at h
  obtain ⟨⟨-, hfirst⟩, hlast⟩ := h
  obtain ⟨hlow, hhigh⟩ := month_of_daysInMonth (hfirst.trans hlast)
  have hnext := daysInMonth_le_next year hlow hhigh
  rw [dayFromMarch]
  omega

theorem isDayOfYear_dayFromMarch {year : Int} {month day : Nat} (h : isDate year month day = true) :
    IsDayOfYear (yearFromMarch year month % 400).toNat (dayFromMarch month day) := by
  simp only [isDate, Bool.and_eq_true, decide_eq_true_eq] at h
  obtain ⟨⟨-, hfirst⟩, hlast⟩ := h
  obtain ⟨hlow, hhigh⟩ := month_of_daysInMonth (hfirst.trans hlast)
  by_cases hfebruary : month = 2
  · subst hfebruary
    simp only [daysInMonth] at hlast
    rw [IsDayOfYear, show dayFromMarch 2 day = 337 + day - 1 from rfl, show yearFromMarch year 2 = year - 1 from rfl]
    by_cases hleap : isLeapYear year = true
    · rw [if_pos hleap] at hlast
      simp only [isLeapYear, Bool.and_eq_true, Bool.or_eq_true, beq_iff_eq, bne_iff_ne] at hleap ⊢
      omega
    · rw [if_neg hleap] at hlast
      omega
  · have hnext := daysInMonth_le_next year hlow hhigh
    have hmonth : monthFromMarch month ≤ 10 := by
      rw [monthFromMarch]
      split <;> omega
    refine .inl ?_
    rw [dayFromMarch]
    omega

/-! ### The day of a position -/

theorem month_of_monthFromMarch {month : Nat} (hlow : 1 ≤ month) (hhigh : month ≤ 12) :
    (if monthFromMarch month < 10 then monthFromMarch month + 3 else monthFromMarch month - 9) = month := by
  rw [monthFromMarch]
  split <;> split <;> omega

theorem day_of_dayFromMarch (month : Nat) {day : Nat} (hfirst : 1 ≤ day) :
    dayFromMarch month day - (153 * monthFromMarch month + 2) / 5 + 1 = day := by
  rw [dayFromMarch]
  omega

theorem year_of_yearFromMarch (year : Int) (month : Nat) :
    (if month ≤ 2 then yearFromMarch year month + 1 else yearFromMarch year month) = year := by
  rw [yearFromMarch]
  split <;> split <;> omega

/-- Every day of a year that begins in March is a day of one of its months. -/
theorem exists_dayFromMarch {start : Int} {dayOfYear : Nat}
    (h : IsDayOfYear (start % 400).toNat dayOfYear) :
    ∃ year month day, yearFromMarch year month = start ∧ dayFromMarch month day = dayOfYear ∧
      1 ≤ day ∧ day ≤ daysInMonth year month := by
  have hlast := h.le
  obtain ⟨month, hlow, hhigh, hmonth⟩ : ∃ month, 1 ≤ month ∧ month ≤ 12 ∧
      monthFromMarch month = (5 * dayOfYear + 2) / 153 := by
    refine ⟨if (5 * dayOfYear + 2) / 153 < 10 then (5 * dayOfYear + 2) / 153 + 3
      else (5 * dayOfYear + 2) / 153 - 9, ?_, ?_, ?_⟩
    · split <;> omega
    · split <;> omega
    · rw [monthFromMarch]
      split <;> split <;> omega
  refine ⟨if 2 < month then start else start + 1, month,
    dayOfYear - (153 * monthFromMarch month + 2) / 5 + 1, ?_, ?_, by omega, ?_⟩
  · rw [yearFromMarch]
    split <;> omega
  · rw [dayFromMarch, hmonth]
    omega
  · by_cases hfebruary : month = 2
    · -- the 29th of February is the last day of the year if the calendar year is a leap year
      subst hfebruary
      rw [show monthFromMarch 2 = 11 from rfl] at hmonth ⊢
      rw [if_neg (by decide), daysInMonth]
      rcases h with h | ⟨rfl, hleap⟩
      · split <;> omega
      · have hleap' : isLeapYear (start + 1) = true := by
          simp only [isLeapYear, Bool.and_eq_true, Bool.or_eq_true, beq_iff_eq, bne_iff_ne] at hleap ⊢
          omega
        rw [hleap']
        decide
    · have hnext := daysInMonth_eq_next (if 2 < month then start else start + 1) hlow hhigh hfebruary
      omega

namespace Date

/-- A day number counts whole cycles and the days of the last one. -/
theorem dayNumber_eq (d : Date) :
    d.dayNumber + 719468 = yearFromMarch d.year d.month / 400 * 146097 +
      ((daysBeforeYear (yearFromMarch d.year d.month % 400).toNat + dayFromMarch d.month d.day : Nat) : Int) := by
  obtain ⟨-, -, hfirst, -⟩ := bounds_of_isDate d.exists_day
  simp only [dayNumber, daysBeforeYear, dayFromMarch]
  rw [show (if 2 < d.month then d.month - 3 else d.month + 9) = monthFromMarch d.month from rfl,
    show (if 2 < d.month then d.year else d.year - 1) = yearFromMarch d.year d.month from rfl]
  omega

/-- A date is the date of its number. -/
theorem ofDayNumber?_dayNumber (d : Date) : ofDayNumber? d.dayNumber = some d := by
  have hday := isDayOfYear_dayFromMarch d.exists_day
  have hnumber := d.dayNumber_eq
  obtain ⟨-, ⟨hlow, hhigh⟩, hfirst, -⟩ := bounds_of_isDate d.exists_day
  have hyear : ((yearFromMarch d.year d.month % 400).toNat : Int) = yearFromMarch d.year d.month % 400 :=
    Int.toNat_of_nonneg (by omega)
  -- of the date only its year of the cycle and its day of that year are needed from here on
  generalize (yearFromMarch d.year d.month % 400).toNat = yearOfCycle at hday hnumber hyear
  generalize hsum : daysBeforeYear yearOfCycle + dayFromMarch d.month d.day = dayOfCycle at hnumber
  have hbound := lt_of_isDayOfYear (by omega) hday
  have hcycle : (d.dayNumber + 719468) / 146097 = yearFromMarch d.year d.month / 400 := by omega
  have hrest : ((d.dayNumber + 719468) % 146097).toNat = dayOfCycle := by omega
  have hdate : yearFromMarch d.year d.month / 400 * 400 + yearOfCycle = yearFromMarch d.year d.month := by
    omega
  have hyearOfCycle := yearOfCycle_eq (by omega) hday hsum.symm
  have hdayOfYear : dayOfCycle - (365 * yearOfCycle + yearOfCycle / 4 - yearOfCycle / 100) =
      dayFromMarch d.month d.day := by
    rw [← hsum, daysBeforeYear, Nat.add_sub_cancel_left]
  simp only [ofDayNumber?, hcycle, hrest, hyearOfCycle, hdayOfYear, monthFromMarch_eq d.exists_day, hdate,
    month_of_monthFromMarch hlow hhigh, day_of_dayFromMarch _ hfirst, year_of_yearFromMarch]
  exact of?_self d

/-- **Dates and their numbers determine each other.** -/
theorem ofDayNumber?_eq_some_iff {number : Int} {d : Date} :
    ofDayNumber? number = some d ↔ d.dayNumber = number := by
  refine ⟨fun h => ?_, fun h => h ▸ ofDayNumber?_dayNumber d⟩
  have hdayOfCycle : ((number + 719468) % 146097).toNat < 146097 := by omega
  obtain ⟨yearOfCycle, dayOfYear, hyear, hday, hsum⟩ := exists_yearOfCycle hdayOfCycle
  have hyearOfCycle := yearOfCycle_eq hyear hday hsum
  have hdayOfYear : ((number + 719468) % 146097).toNat -
      (365 * yearOfCycle + yearOfCycle / 4 - yearOfCycle / 100) = dayOfYear := by
    rw [hsum, daysBeforeYear, Nat.add_sub_cancel_left]
  have hlast := hday.le
  simp only [ofDayNumber?, hyearOfCycle, hdayOfYear, of?_eq_some_iff] at h
  obtain ⟨hd, hmonth, hdayOfMonth⟩ := h
  have hmarch : monthFromMarch d.month = (5 * dayOfYear + 2) / 153 := by
    rw [hmonth, monthFromMarch]
    split <;> split <;> omega
  have hfrom : dayFromMarch d.month d.day = dayOfYear := by
    rw [dayFromMarch, hmarch, hdayOfMonth]
    omega
  have hstart : yearFromMarch d.year d.month = (number + 719468) / 146097 * 400 + yearOfCycle := by
    rw [yearFromMarch, hd, hmonth]
    split <;> split <;> omega
  have hcycle : yearFromMarch d.year d.month / 400 = (number + 719468) / 146097 := by omega
  have hrest : (yearFromMarch d.year d.month % 400).toNat = yearOfCycle := by omega
  have hnumber := d.dayNumber_eq
  rw [hcycle, hrest, hfrom, ← hsum, Int.toNat_of_nonneg (Int.emod_nonneg _ (by decide)),
    Int.ediv_mul_add_emod] at hnumber
  exact add_right_cancel hnumber

/-- Every day of the 655 cycles before and after the first of March of the year zero is a date. -/
theorem exists_dayNumber_eq {number : Int} (hlow : -655 * 146097 ≤ number + 719468)
    (hhigh : number + 719468 < 655 * 146097) : ∃ d : Date, d.dayNumber = number := by
  have hdayOfCycle : ((number + 719468) % 146097).toNat < 146097 := by omega
  obtain ⟨yearOfCycle, dayOfYear, hyear, hday, hsum⟩ := exists_yearOfCycle hdayOfCycle
  have hrest : (((number + 719468) / 146097 * 400 + yearOfCycle) % 400).toNat = yearOfCycle := by omega
  obtain ⟨year, month, day, hstart, hfrom, hfirst, hlast⟩ := exists_dayFromMarch (hrest.symm ▸ hday)
  have hdate : isDate year month day = true := by
    rw [yearFromMarch] at hstart
    simp only [isDate, Bool.and_eq_true, decide_eq_true_eq]
    refine ⟨⟨⟨?_, ?_⟩, hfirst⟩, hlast⟩
    all_goals split at hstart <;> omega
  have hnumber := dayNumber_eq ⟨year, month, day, hdate⟩
  refine ⟨⟨year, month, day, hdate⟩, ?_⟩
  simp only [hstart, hrest, hfrom, ← hsum] at hnumber
  omega

end Date

/-! ## Instants -/

namespace TimeOfDay

/-- A time of day is the one after its seconds and nanoseconds, unless a leap second is out of place. -/
theorem ofSecond?_secondOfDay {t : TimeOfDay} (hregular : t.isRegular = true) :
    ofSecond? t.secondOfDay t.nanosecond = some t := by
  obtain ⟨-, hminute, hsecond, -⟩ := t.bounds
  have hhour : t.secondOfDay / 3600 = t.hour := by rw [secondOfDay]; omega
  have hminute : t.secondOfDay / 60 % 60 = t.minute := by rw [secondOfDay]; omega
  have hsecond : t.secondOfDay % 60 = t.second := by rw [secondOfDay]; omega
  rw [ofSecond?, hhour, hminute, hsecond, of?_self hregular]

theorem ofSecond?_eq_some_iff {second nanosecond : Nat} {t : TimeOfDay} :
    ofSecond? second nanosecond = some t ↔
      (t.secondOfDay = second ∧ t.nanosecond = nanosecond) ∧ t.isRegular = true := by
  constructor
  · intro h
    obtain ⟨⟨hhour, hminute, hsecond, hnanosecond⟩, hregular⟩ := of?_eq_some_iff.mp h
    refine ⟨⟨?_, hnanosecond⟩, hregular⟩
    rw [secondOfDay]
    omega
  · rintro ⟨⟨rfl, rfl⟩, hregular⟩
    exact ofSecond?_secondOfDay hregular

/-- Every second of a day is a time of day. -/
theorem exists_ofSecond?_eq {second nanosecond : Nat} (hsecond : second < 86400)
    (hnanosecond : nanosecond < 1000000000) : ∃ t, ofSecond? second nanosecond = some t := by
  have htime : isTime (second / 3600) (second / 60 % 60) (second % 60) nanosecond = true := by
    simp only [isTime, Bool.and_eq_true, decide_eq_true_eq]
    omega
  let t : TimeOfDay := ⟨_, _, _, _, htime⟩
  have hregular : t.isRegular = true := isRegular_iff.mpr (.inl hnanosecond)
  exact ⟨t, of?_self hregular⟩

theorem secondOfDay_lt (t : TimeOfDay) : t.secondOfDay < 86400 := by
  obtain ⟨hhour, hminute, hsecond, -⟩ := t.bounds
  rw [secondOfDay]
  omega

/-- The time of day without what is finer than milliseconds. -/
def wholeMilli (t : TimeOfDay) : TimeOfDay where
  hour := t.hour
  minute := t.minute
  second := t.second
  nanosecond := t.nanosecond / 1000000 * 1000000
  exists_time := t.isTime_inMinute t.bounds.2.2.1 ((Nat.div_mul_le_self _ _).trans_lt t.bounds.2.2.2)

end TimeOfDay

namespace DateTime

/-- An instant is the one after its seconds and nanoseconds, unless a leap second is out of place. -/
theorem ofEpochSecond?_epochSecond {dt : DateTime} (hregular : dt.time.isRegular = true) :
    ofEpochSecond? dt.epochSecond dt.time.nanosecond = some dt := by
  have hbound := dt.time.secondOfDay_lt
  have hday : dt.epochSecond / 86400 = dt.date.dayNumber := by rw [epochSecond]; omega
  have hsecond : (dt.epochSecond % 86400).toNat = dt.time.secondOfDay := by rw [epochSecond]; omega
  rw [ofEpochSecond?, hday, hsecond, Date.ofDayNumber?_dayNumber,
    TimeOfDay.ofSecond?_secondOfDay hregular]
  rfl

/-- **Instants and their seconds determine each other**, the nanoseconds apart, and no leap second is out of
place in what is found. -/
theorem ofEpochSecond?_eq_some_iff {second : Int} {nanosecond : Nat} {dt : DateTime} :
    ofEpochSecond? second nanosecond = some dt ↔
      (dt.epochSecond = second ∧ dt.time.nanosecond = nanosecond) ∧ dt.time.isRegular = true := by
  constructor
  · intro h
    obtain ⟨d, hdate, h⟩ := Option.bind_eq_some_iff.mp h
    obtain ⟨t, htime, h⟩ := Option.bind_eq_some_iff.mp h
    cases h
    have hnumber := Date.ofDayNumber?_eq_some_iff.mp hdate
    obtain ⟨⟨hsecond, hnanosecond⟩, hregular⟩ := TimeOfDay.ofSecond?_eq_some_iff.mp htime
    refine ⟨⟨?_, hnanosecond⟩, hregular⟩
    simp only [epochSecond]
    omega
  · rintro ⟨⟨rfl, rfl⟩, hregular⟩
    exact ofEpochSecond?_epochSecond hregular

/-- **There is an instant for every second** of a quarter of a million years before and after the epoch. -/
theorem exists_ofEpochSecond?_eq {second : Int} {nanosecond : Nat} (hlow : -(8 * 10 ^ 12) ≤ second)
    (hhigh : second ≤ 8 * 10 ^ 12) (hnanosecond : nanosecond < 1000000000) :
    ∃ dt, ofEpochSecond? second nanosecond = some dt := by
  have hfirst : -655 * 146097 ≤ second / 86400 + 719468 := by omega
  have hlast : second / 86400 + 719468 < 655 * 146097 := by omega
  have hrest : (second % 86400).toNat < 86400 := by omega
  obtain ⟨d, hdate⟩ := Date.exists_dayNumber_eq hfirst hlast
  obtain ⟨t, htime⟩ := TimeOfDay.exists_ofSecond?_eq hrest hnanosecond
  refine ⟨⟨d, t⟩, ?_⟩
  rw [ofEpochSecond?, Date.ofDayNumber?_eq_some_iff.mpr hdate, htime]
  rfl

/-- **An instant is kept in whole milliseconds**, if it is not in a leap second. -/
theorem ofEpochMilli?_epochMilli {dt : DateTime} (hleap : dt.time.isLeapSecond = false) :
    ofEpochMilli? dt.epochMilli = some ⟨dt.date, dt.time.wholeMilli⟩ := by
  have hnanosecond : dt.time.nanosecond < 1000000000 := by simpa [TimeOfDay.isLeapSecond] using hleap
  have hsecond : dt.epochMilli / 1000 = dt.epochSecond := by rw [epochMilli]; omega
  have hmilli : (dt.epochMilli % 1000).toNat * 1000000 = dt.time.nanosecond / 1000000 * 1000000 := by
    rw [epochMilli]
    omega
  have hregular : dt.time.wholeMilli.isRegular = true :=
    TimeOfDay.isRegular_iff.mpr (.inl ((Nat.div_mul_le_self _ _).trans_lt hnanosecond))
  rw [ofEpochMilli?, hsecond, hmilli]
  exact @ofEpochSecond?_epochSecond ⟨dt.date, dt.time.wholeMilli⟩ hregular

/-- **Instants in whole milliseconds and their milliseconds determine each other**, also before the epoch,
where the milliseconds count from the second below. -/
theorem ofEpochMilli?_eq_some_iff {milli : Int} {dt : DateTime} :
    ofEpochMilli? milli = some dt ↔
      dt.epochMilli = milli ∧ dt.time.isLeapSecond = false ∧ dt.time.wholeMilli = dt.time := by
  constructor
  · intro h
    obtain ⟨⟨hsecond, hnanosecond⟩, -⟩ := ofEpochSecond?_eq_some_iff.mp h
    have hmilli : dt.epochMilli = milli := by
      rw [epochMilli, hsecond, hnanosecond]
      omega
    have hleap : dt.time.isLeapSecond = false := by
      rw [TimeOfDay.isLeapSecond, hnanosecond, decide_eq_false_iff_not]
      omega
    have hself := ofEpochMilli?_epochMilli hleap
    rw [hmilli, h, Option.some.injEq] at hself
    exact ⟨hmilli, hleap, congrArg time hself.symm⟩
  · rintro ⟨rfl, hleap, hwhole⟩
    rw [ofEpochMilli?_epochMilli hleap, hwhole]

end DateTime
end RequestQuery
