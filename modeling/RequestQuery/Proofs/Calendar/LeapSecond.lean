import RequestQuery.Calendar.Read

/-! # Leap seconds

A leap second may lie behind any second of a time of day that is given.  A time that
is put together from parts has one at the end of a minute only: it is regular.  So is
every time that is read, be it from a text, by whatever pattern, or from seconds
since the epoch (`DateTime.isRegular_of_readLenient?`, `DateTime.isRegular_of_readIso?`).

A clock shows a leap second as the second after it.  What it shows is the whole second
of the time exactly if that is regular (`TimeOfDay.shownTime_eq_wholeSecond_iff`).
-/
namespace RequestQuery

namespace TimeOfDay

/-- The bounds of the parts of a time of day. -/
theorem bounds (t : TimeOfDay) :
    t.hour < 24 ∧ t.minute < 60 ∧ t.second < 60 ∧ t.nanosecond < 2000000000 := by
  simpa [isTime, and_assoc] using t.exists_time

/-- A minute has all its seconds, and each of them may be followed by a leap second. -/
theorem isTime_inMinute (t : TimeOfDay) {second nanosecond : Nat} (hsecond : second < 60)
    (hnanosecond : nanosecond < 2000000000) : isTime t.hour t.minute second nanosecond = true := by
  obtain ⟨hhour, hminute, -⟩ := t.bounds
  simp [isTime, hhour, hminute, hsecond, hnanosecond]

theorem isRegular_iff {t : TimeOfDay} : t.isRegular = true ↔ t.nanosecond < 1000000000 ∨ t.second = 59 := by
  rw [isRegular, Bool.or_eq_true, decide_eq_true_eq, beq_iff_eq]

/-! ## Times from their parts -/

theorem of?_self {t : TimeOfDay} (h : t.isRegular = true) :
    of? t.hour t.minute t.second t.nanosecond = some t := by
  rw [of?, dif_pos t.exists_time]
  exact if_pos h

theorem of?_eq_some_iff {hour minute second nanosecond : Nat} {t : TimeOfDay} :
    of? hour minute second nanosecond = some t ↔
      (t.hour = hour ∧ t.minute = minute ∧ t.second = second ∧ t.nanosecond = nanosecond) ∧
        t.isRegular = true := by
  constructor
  · intro h
    rw [of?] at h
    split at h
    · obtain ⟨hregular, h⟩ := Option.ite_none_right_eq_some.mp h
      cases h
      exact ⟨⟨rfl, rfl, rfl, rfl⟩, hregular⟩
    · cases h
  · rintro ⟨⟨rfl, rfl, rfl, rfl⟩, hregular⟩
    exact of?_self hregular

/-! ## What a clock shows -/

theorem shownSecond_le (t : TimeOfDay) : t.shownSecond ≤ 60 := by
  have := t.bounds
  rw [shownSecond]
  omega

/-- The whole second that a clock shows.  Only the sixtieth is a leap second. -/
def shownTime (t : TimeOfDay) : TimeOfDay where
  hour := t.hour
  minute := t.minute
  second := if t.shownSecond = 60 then 59 else t.shownSecond
  nanosecond := if t.shownSecond = 60 then 1000000000 else 0
  exists_time := by
    have := t.shownSecond_le
    split
    · exact t.isTime_inMinute (by decide) (by decide)
    · exact t.isTime_inMinute (by omega) (by decide)

theorem isRegular_shownTime (t : TimeOfDay) : t.shownTime.isRegular = true := by
  rw [isRegular_iff, shownTime]
  by_cases h : t.shownSecond = 60
  · exact .inr (if_pos h)
  · exact .inl (by simp [h])

@[simp] theorem shownSecond_shownTime (t : TimeOfDay) : t.shownTime.shownSecond = t.shownSecond := by
  show (if t.shownSecond = 60 then 59 else t.shownSecond) +
    (if t.shownSecond = 60 then 1000000000 else 0) / 1000000000 = t.shownSecond
  split
  · next h => exact h.symm
  · rfl

/-- The time of day without the fraction of its second.  A leap second stays one. -/
def wholeSecond (t : TimeOfDay) : TimeOfDay where
  hour := t.hour
  minute := t.minute
  second := t.second
  nanosecond := t.nanosecond / 1000000000 * 1000000000
  exists_time := t.isTime_inMinute t.bounds.2.2.1 (Nat.lt_of_le_of_lt (Nat.div_mul_le_self _ _) t.bounds.2.2.2)

/-- **A clock shows the second of the time**, unless a leap second is out of place. -/
theorem shownTime_eq_wholeSecond_iff {t : TimeOfDay} : t.shownTime = t.wholeSecond ↔ t.isRegular = true := by
  have hbounds := t.bounds
  have hshown : t.shownSecond = t.second + t.nanosecond / 1000000000 := rfl
  rw [isRegular_iff]
  simp only [shownTime, wholeSecond, TimeOfDay.mk.injEq, true_and]
  split
  · omega
  · omega

end TimeOfDay

/-- Such a second is made of the parts that stand for what is shown. -/
theorem DateFields.secondParts_shownSecond (t : TimeOfDay) :
    secondParts t.shownSecond = ((t.shownTime.second : Int), t.shownTime.nanosecond) := by
  rw [secondParts, TimeOfDay.shownTime]
  by_cases h : t.shownSecond = 60
  · simp [h]
  · simp [h, show ¬ (t.shownSecond : Int) = 60 by omega]

/-! ## Times that are read -/

theorem TimeOfDay.isRegular_of_ofSecond? {second nanosecond : Nat} {t : TimeOfDay}
    (h : ofSecond? second nanosecond = some t) : t.isRegular = true :=
  (of?_eq_some_iff.mp h).2

namespace DateFields

variable {f : DateFields} {t : TimeOfDay} {dt : DateTime}

theorem eq_some_of_existing {α : Type} {x : Option α} {value : α} (h : existing x = .ok value) :
    x = some value := by
  cases x with
  | none => cases h
  | some found =>
    cases h
    rfl

theorem isRegular_of_time (h : f.time = .ok t) : t.isRegular = true := by
  rw [time] at h
  -- half, hour and minute must be known, and the second where there is a fraction of it
  split at h
  · split at h
    · split at h
      · split at h
        · cases h
        · exact (TimeOfDay.of?_eq_some_iff.mp (eq_some_of_existing h)).2
      · cases h
    · cases h
  · cases h

/-- What the seconds since the epoch supply is put together from fields again. -/
theorem exists_time_of_fillFromEpoch {second : Int} (h : f.fillFromEpoch second = .ok dt) :
    ∃ g : DateFields, g.time = .ok dt.time := by
  obtain ⟨_, -, h⟩ := exists_of_bind h
  obtain ⟨_, -, h⟩ := exists_of_bind h
  obtain ⟨_, -, h⟩ := exists_of_bind h
  obtain ⟨_, -, h⟩ := exists_of_bind h
  obtain ⟨_, -, h⟩ := exists_of_bind h
  obtain ⟨g, -, h⟩ := exists_of_bind h
  obtain ⟨_, -, h⟩ := exists_of_bind h
  obtain ⟨t, htime, h⟩ := exists_of_bind h
  cases h
  exact ⟨g, htime⟩

theorem isRegular_of_dateTime (h : f.dateTime = .ok dt) : dt.time.isRegular = true := by
  rw [dateTime] at h
  split at h
  · next htime _ =>
    cases h
    exact isRegular_of_time htime
  · next htime _ =>
    split at h
    · cases h
      exact isRegular_of_time htime
    · cases h
  · cases h
  · cases h
  · split at h
    · cases h
    · split at h
      · cases h
      · obtain ⟨g, htime⟩ := exists_time_of_fillFromEpoch h
        exact isRegular_of_time htime

end DateFields

namespace DateTime

variable {dt : DateTime}

theorem isRegular_atMidnight (d : Date) : (atMidnight d).time.isRegular = true := rfl

theorem isRegular_of_ofEpochSecond? {second : Int} {nanosecond : Nat}
    (h : ofEpochSecond? second nanosecond = some dt) : dt.time.isRegular = true := by
  obtain ⟨d, -, h⟩ := Option.bind_eq_some_iff.mp h
  obtain ⟨t, htime, h⟩ := Option.bind_eq_some_iff.mp h
  cases h
  exact TimeOfDay.isRegular_of_ofSecond? htime

/-- What is read by a pattern is regular. -/
theorem isRegular_of_readLenient? {s pattern : String} (h : readLenient? s pattern = some dt) :
    dt.time.isRegular = true := by
  obtain ⟨f, -, h⟩ := Option.bind_eq_some_iff.mp h
  split at h
  · next hfields =>
    cases h
    exact DateFields.isRegular_of_dateTime hfields
  · obtain ⟨d, -, h⟩ := Option.bind_eq_some_iff.mp h
    cases h
    cases htime : f.time with
    | error fault => exact isRegular_atMidnight d
    | ok t => exact DateFields.isRegular_of_time htime

/-- What is read in one of the usual forms is regular. -/
theorem isRegular_of_readIso? {s : String} (h : readIso? s = some dt) : dt.time.isRegular = true := by
  rw [readIso?] at h
  rcases Option.or_eq_some_iff.mp h with hinternet | ⟨-, h⟩
  · -- a time with an offset is moved to universal time by its seconds since the epoch
    obtain ⟨⟨f, offset, rest⟩, -, h⟩ := Option.bind_eq_some_iff.mp hinternet
    obtain ⟨-, h⟩ := Option.ite_none_right_eq_some.mp h
    obtain ⟨entered, -, h⟩ := Option.bind_eq_some_iff.mp h
    exact isRegular_of_ofEpochSecond? h
  rcases Option.or_eq_some_iff.mp h with hpattern | ⟨-, h⟩
  · obtain ⟨pattern, -, h⟩ := List.exists_of_findSome?_eq_some hpattern
    obtain ⟨f, -, h⟩ := Option.bind_eq_some_iff.mp h
    exact DateFields.isRegular_of_dateTime (DateFields.ok_of_toOption h)
  · obtain ⟨d, -, h⟩ := Option.map_eq_some_iff.mp h
    cases h
    exact isRegular_atMidnight d

end DateTime
end RequestQuery
