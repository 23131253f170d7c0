import RequestQuery.Calendar.Week

/-! # Fields of a date that is being read

Reading a text by a pattern yields fields, each at most once: a field that is
read twice must be the same both times.  The date and the time are then put
together from the fields.  A date can be named by its month and day, by its
position in the year, or by a week and a day of it.  There may be more fields
than a date needs, and they must agree with it.  There may be too few, and then
seconds since the epoch, if they were read, supply the rest.
-/
namespace RequestQuery

/-- The fields that were read. -/
structure DateFields where
  year : Option Int := none
  century : Option Int := none
  yearOfCentury : Option Int := none
  /-- The year that the week by ISO 8601 belongs to. -/
  isoYear : Option Int := none
  isoYearOfCentury : Option Int := none
  quarter : Option Int := none
  month : Option Int := none
  day : Option Int := none
  ordinal : Option Int := none
  /-- The week where weeks begin on Sunday. -/
  weekFromSunday : Option Int := none
  /-- The week where weeks begin on Monday. -/
  weekFromMonday : Option Int := none
  /-- The week by ISO 8601. -/
  isoWeek : Option Int := none
  /-- The day of the week, from zero for Monday. -/
  weekday : Option Int := none
  /-- The half of the day: zero before noon, one after it. -/
  half : Option Int := none
  /-- The hour of a half of the day, from zero. -/
  halfDayHour : Option Int := none
  minute : Option Int := none
  second : Option Int := none
  nanosecond : Option Int := none
  epochSecond : Option Int := none
  offset : Option Int := none
  deriving DecidableEq, Repr

/-- Why fields do not make a date or a time. -/
inductive DateFault where
  | outOfRange
  | impossible
  | incomplete
  deriving DecidableEq, Repr

namespace DateFields

/-! ## Setting fields -/

/-- A field that is set to a value must be empty or have that value. -/
def agree (old : Option Int) (value : Int) : Except DateFault (Option Int) :=
  match old with
  | none => .ok (some value)
  | some other => if other = value then .ok (some value) else .error .impossible

/-- A value must lie between two bounds. -/
def within (low high value : Int) : Except DateFault Int :=
  if low ≤ value ∧ value ≤ high then .ok value else .error .outOfRange

/-- The bounds of a year, a century and an offset while they are read. -/
def within32 (value : Int) : Except DateFault Int :=
  within (-2147483648) 2147483647 value

/-- Sets the year. -/
def setYear (f : DateFields) (value : Int) : Except DateFault DateFields := do
  return { f with year := ← agree f.year (← within32 value) }

/-- Sets the century, which is not negative. -/
def setCentury (f : DateFields) (value : Int) : Except DateFault DateFields := do
  return { f with century := ← agree f.century (← within 0 2147483647 value) }

/-- Sets the year of a century, from 0 to 99. -/
def setYearOfCentury (f : DateFields) (value : Int) : Except DateFault DateFields := do
  return { f with yearOfCentury := ← agree f.yearOfCentury (← within 0 99 value) }

/-- Sets the year of the week by ISO 8601. -/
def setIsoYear (f : DateFields) (value : Int) : Except DateFault DateFields := do
  return { f with isoYear := ← agree f.isoYear (← within32 value) }

/-- Sets the year of a century that such a year is, from 0 to 99. -/
def setIsoYearOfCentury (f : DateFields) (value : Int) : Except DateFault DateFields := do
  return { f with isoYearOfCentury := ← agree f.isoYearOfCentury (← within 0 99 value) }

/-- Sets the quarter of the year, from 1 to 4. -/
def setQuarter (f : DateFields) (value : Int) : Except DateFault DateFields := do
  return { f with quarter := ← agree f.quarter (← within 1 4 value) }

/-- Sets the month, from 1 to 12. -/
def setMonth (f : DateFields) (value : Int) : Except DateFault DateFields := do
  return { f with month := ← agree f.month (← within 1 12 value) }

/-- Sets the day of the month, from 1 to 31. -/
def setDay (f : DateFields) (value : Int) : Except DateFault DateFields := do
  return { f with day := ← agree f.day (← within 1 31 value) }

/-- Sets the day of the year, from 1 to 366. -/
def setOrdinal (f : DateFields) (value : Int) : Except DateFault DateFields := do
  return { f with ordinal := ← agree f.ordinal (← within 1 366 value) }

/-- Sets the week where weeks begin on Sunday, from 0 to 53. -/
def setWeekFromSunday (f : DateFields) (value : Int) : Except DateFault DateFields := do
  return { f with weekFromSunday := ← agree f.weekFromSunday (← within 0 53 value) }

/-- Sets the week where weeks begin on Monday, from 0 to 53. -/
def setWeekFromMonday (f : DateFields) (value : Int) : Except DateFault DateFields := do
  return { f with weekFromMonday := ← agree f.weekFromMonday (← within 0 53 value) }

/-- Sets the week by ISO 8601, from 1 to 53. -/
def setIsoWeek (f : DateFields) (value : Int) : Except DateFault DateFields := do
  return { f with isoWeek := ← agree f.isoWeek (← within 1 53 value) }

/-- Sets the day of the week, from 0 for Monday. -/
def setWeekday (f : DateFields) (value : Int) : Except DateFault DateFields := do
  return { f with weekday := ← agree f.weekday (← within 0 6 value) }

/-- Sets the half of the day. -/
def setHalf (f : DateFields) (afternoon : Bool) : Except DateFault DateFields := do
  return { f with half := ← agree f.half (if afternoon then 1 else 0) }

/-- An hour of a clock of twelve hours; twelve is the first of them. -/
def setHalfDayHour (f : DateFields) (value : Int) : Except DateFault DateFields := do
  return { f with halfDayHour := ← agree f.halfDayHour ((← within 1 12 value) % 12) }

/-- Sets the hour of the day, from 0 to 23.  It is kept as the half of the day and the hour of that half. -/
def setHour (f : DateFields) (value : Int) : Except DateFault DateFields := do
  let hour ← within 0 23 value
  return { f with half := ← agree f.half (hour / 12), halfDayHour := ← agree f.halfDayHour (hour % 12) }

/-- Sets the minute, from 0 to 59. -/
def setMinute (f : DateFields) (value : Int) : Except DateFault DateFields := do
  return { f with minute := ← agree f.minute (← within 0 59 value) }

/-- Sets the second, from 0 to 59, or 60 for a leap second. -/
def setSecond (f : DateFields) (value : Int) : Except DateFault DateFields := do
  return { f with second := ← agree f.second (← within 0 60 value) }

/-- Sets the nanoseconds of a second. -/
def setNanosecond (f : DateFields) (value : Int) : Except DateFault DateFields := do
  return { f with nanosecond := ← agree f.nanosecond (← within 0 999999999 value) }

/-- Sets the seconds since the epoch. -/
def setEpochSecond (f : DateFields) (value : Int) : Except DateFault DateFields := do
  return { f with epochSecond := ← agree f.epochSecond value }

/-- Sets the distance to universal time in seconds. -/
def setOffset (f : DateFields) (value : Int) : Except DateFault DateFields := do
  return { f with offset := ← agree f.offset (← within32 value) }

/-! ### What is kept of a value -/

theorem ok_of_toOption {α : Type} {x : Except DateFault α} {a : α} (h : x.toOption = some a) :
    x = .ok a := by
  cases x with
  | error fault => cases h
  | ok value =>
    cases h
    rfl

/-- What follows a check succeeds only if the check does. -/
theorem exists_of_bind {α β : Type} {x : Except DateFault α} {next : α → Except DateFault β} {b : β}
    (h : x.bind next = .ok b) : ∃ a, x = .ok a ∧ next a = .ok b := by
  cases x with
  | error fault => cases h
  | ok a => exact ⟨a, rfl, h⟩

theorem within_eq_ok {low high value kept : Int} (h : within low high value = .ok kept) : kept = value := by
  rw [within] at h
  split at h
  · cases h
    rfl
  · cases h

/-- A field that is set has the value, and had no other one before. -/
theorem agree_eq_ok {old kept : Option Int} {value : Int} (h : agree old value = .ok kept) :
    kept = some value ∧ ∀ other, old = some other → other = value := by
  rw [agree.eq_def] at h
  split at h
  · cases h
    exact ⟨rfl, nofun⟩
  · split at h
    · next heq =>
      cases h
      exact ⟨rfl, fun other hother => (Option.some.inj hother).symm.trans heq⟩
    · cases h

/-- What sets a field puts what is kept of a value in its place, and does nothing else. -/
theorem exists_of_set {check : Except DateFault Int} {keep : Int → Except DateFault (Option Int)}
    {put : Option Int → DateFields} {g : DateFields}
    (h : (check.bind fun value => (keep value).map put).toOption = some g) :
    ∃ value kept, check = .ok value ∧ keep value = .ok kept ∧ g = put kept := by
  obtain ⟨value, hcheck, hset⟩ := exists_of_bind (ok_of_toOption h)
  cases hkeep : keep value with
  | error fault =>
    rw [hkeep] at hset
    cases hset
  | ok kept =>
    rw [hkeep] at hset
    cases hset
    exact ⟨value, kept, hcheck, hkeep, rfl⟩

/-! ## The date -/

/-- The year of a full year, a century and a year of the century: the full one, with which the other two
must agree; or the one that these two make; or, from the year of the century alone, the one between 1970
and 2069. -/
def resolveYear (year century rest : Option Int) : Except DateFault (Option Int) :=
  match year, century, rest with
  | year, none, none => .ok year
  | some year, century, rest =>
    if year < 0 then .error .impossible
    else if century.getD (year / 100) = year / 100 ∧ rest.getD (year % 100) = year % 100 then
      .ok (some year)
    else .error .impossible
  | none, some century, some rest =>
    let year := century * 100 + rest
    if year ≤ 2147483647 then .ok (some year) else .error .outOfRange
  | none, none, some rest => .ok (some (rest + if rest < 70 then 2000 else 1900))
  | none, some _, none => .error .incomplete

/-- The year of the fields. -/
def fullYear (f : DateFields) : Except DateFault (Option Int) :=
  resolveYear f.year f.century f.yearOfCentury

/-- The year of the week by ISO 8601. -/
def fullIsoYear (f : DateFields) : Except DateFault (Option Int) :=
  resolveYear f.isoYear none f.isoYearOfCentury

theorem fullIsoYear_of_none {f : DateFields} (hyear : f.isoYear = none) (hrest : f.isoYearOfCentury = none) :
    f.fullIsoYear = .ok none := by
  rw [fullIsoYear, hyear, hrest]
  rfl

/-- Whether a date has the value that a field asks for. -/
def matchesField (field : Option Int) (value : Int) : Bool :=
  field.getD value == value

/-- Whether a year is as its fields ask for.  A negative year has no century. -/
def matchesYear (year century rest : Option Int) (value : Int) : Bool :=
  matchesField year value &&
    if value < 0 then century.isNone && rest.isNone
    else matchesField century (value / 100) && matchesField rest (value % 100)

/-- Whether a date agrees with all fields. -/
def agrees (f : DateFields) (d : Date) : Bool :=
  matchesYear f.year f.century f.yearOfCentury d.year && matchesField f.month d.month &&
    matchesField f.day d.day && matchesField f.weekday d.weekday && matchesField f.ordinal d.ordinal &&
    matchesYear f.isoYear none f.isoYearOfCentury d.isoWeekDate.1 && matchesField f.isoWeek d.isoWeekDate.2 &&
    matchesField f.weekFromSunday (d.weekFrom 6) && matchesField f.weekFromMonday (d.weekFrom 0) &&
    matchesField f.quarter d.quarter

/-- What the fields name must be there. -/
def existing {α : Type} : Option α → Except DateFault α
  | some value => .ok value
  | none => .error .outOfRange

/-- The date of the month and the day. -/
def byMonth? (f : DateFields) (year : Int) : Option (Except DateFault Date) := do
  return existing (Date.of? year (← f.month).toNat (← f.day).toNat)

/-- The date of the position in the year. -/
def byOrdinal? (f : DateFields) (year : Int) : Option (Except DateFault Date) := do
  return existing (Date.ofOrdinal? year (← f.ordinal).toNat)

/-- The date of the day of a week, where weeks begin on the day `first`.  If dates have the year, and only
the week does not have the day in it, the fields are impossible together. -/
def byWeek? (f : DateFields) (first : Nat) (week : Option Int) (year : Int) :
    Option (Except DateFault Date) := do
  let found := Date.ofWeekFrom? first year (← week).toNat (← f.weekday).toNat
  return match Date.of? year 1 1, found with
    | none, _ => .error .outOfRange
    | some _, none => .error .impossible
    | some _, some d => .ok d

/-- The date of the day of a week by ISO 8601. -/
def byIsoWeek? (f : DateFields) (year : Int) : Option (Except DateFault Date) := do
  return existing (Date.ofIsoWeek? year (← f.isoWeek).toNat (← f.weekday).toNat)

/-- The date that the fields name in the first way for which there are enough of them. -/
def found (f : DateFields) (year isoYear : Option Int) : Except DateFault Date :=
  let ways := [year.bind f.byMonth?, year.bind f.byOrdinal?, year.bind (f.byWeek? 6 f.weekFromSunday),
    year.bind (f.byWeek? 0 f.weekFromMonday), isoYear.bind f.byIsoWeek?]
  (ways.findSome? id).getD (.error .incomplete)

/-- The date of the fields, if it agrees with all of them. -/
def date (f : DateFields) : Except DateFault Date := do
  let d ← f.found (← f.fullYear) (← f.fullIsoYear)
  if f.agrees d then .ok d else .error .impossible

/-! ## The time -/

/-- The second of a time, and the nanoseconds that a leap second adds to it: the sixtieth second is the leap
second of the one before. -/
def secondParts (shown : Int) : Int × Nat :=
  if shown = 60 then (59, 1000000000) else (shown, 0)

/-- The time of the fields.  Seconds may be missing, but then there must be no fraction of them. -/
def time (f : DateFields) : Except DateFault TimeOfDay := do
  let some half := f.half | .error .incomplete
  let some hour := f.halfDayHour | .error .incomplete
  let some minute := f.minute | .error .incomplete
  let parts := secondParts (f.second.getD 0)
  if f.nanosecond.isSome ∧ f.second.isNone then .error .incomplete
  else
    existing (TimeOfDay.of? (half * 12 + hour).toNat minute.toNat parts.1.toNat
      (parts.2 + (f.nanosecond.getD 0).toNat))

/-! ## Both -/

/-- Whether seconds since the epoch fit an instant.  In a leap second they may be one more. -/
def epochMatches (dt : DateTime) (second : Int) : Bool :=
  second == dt.epochSecond || (dt.time.isLeapSecond && second == dt.epochSecond + 1)

/-- The fields with the second of an instant.  A leap second, which the instant does not tell from the
second after it, stays, and the instant is the one before it. -/
def fillSecond (f : DateFields) (dt : DateTime) : Except DateFault (DateFields × DateTime) :=
  if f.second = some 60 then
    if dt.time.second = 59 then .ok (f, dt)
    else if dt.time.second = 0 then (existing (dt.earlier? 1)).map (f, ·)
    else .error .impossible
  else (f.setSecond dt.time.second).map (·, dt)

/-- Supplies the missing fields from the instant of some seconds since the epoch. -/
def fillFromEpoch (f : DateFields) (second : Int) : Except DateFault DateTime := do
  let dt ← existing (DateTime.ofEpochSecond? second 0)
  let (f, dt) ← f.fillSecond dt
  let f ← f.setYear dt.date.year
  let f ← f.setOrdinal dt.date.ordinal
  let f ← f.setHour dt.time.hour
  let f ← f.setMinute dt.time.minute
  return ⟨← f.date, ← f.time⟩

/-- Whether there is a certain fault. -/
def failsWith {α : Type} (fault : DateFault) : Except DateFault α → Bool
  | .error other => other == fault
  | .ok _ => false

/-- The date and time of the fields.  Only what is incomplete is filled up. -/
def dateTime (f : DateFields) : Except DateFault DateTime :=
  match f.date, f.time, f.epochSecond with
  | .ok date, .ok time, none => .ok ⟨date, time⟩
  | .ok date, .ok time, some second =>
    if epochMatches ⟨date, time⟩ second then .ok ⟨date, time⟩ else .error .impossible
  | .error fault, _, none => .error fault
  | .ok _, .error fault, none => .error fault
  | date, time, some second =>
    if failsWith .outOfRange date || failsWith .outOfRange time then .error .outOfRange
    else if failsWith .impossible date || failsWith .impossible time then .error .impossible
    else f.fillFromEpoch second

/-- The date of the fields, where a missing day is the first of its month. -/
def dateOrFirst? (f : DateFields) : Option Date :=
  match f.date with
  | .ok d => some d
  | .error _ => (f.setDay 1).toOption.bind fun f => f.date.toOption

end DateFields
end RequestQuery
