import RequestQuery.Text.Digits

/-! # Dates, times of day, and instants

Dates are those of the Gregorian calendar, carried on to the years before it and
counted with a year zero.  A `Date` is a day that exists, in a year between
-262143 and 262142.  Days are numbered from the first of January 1970; the
numbering takes years to begin in March, so that a leap day is the last day of
its year and 400 years form a cycle of 146097 days.

A time of day has whole nanoseconds.  A leap second is a second with a thousand
million nanoseconds more.  What is put together from parts has leap seconds at the
end of a minute only; a time that is given may have one behind any second.
-/
namespace RequestQuery

/-! ## Dates -/

/-- Whether a year has a 29th of February. -/
def isLeapYear (year : Int) : Bool :=
  year % 4 == 0 && (year % 100 != 0 || year % 400 == 0)

/-- The number of days of a month; a month that does not exist has none. -/
def daysInMonth (year : Int) (month : Nat) : Nat :=
  match month with
  | 1 | 3 | 5 | 7 | 8 | 10 | 12 => 31
  | 4 | 6 | 9 | 11 => 30
  | 2 => if isLeapYear year then 29 else 28
  | _ => 0

/-- Whether there is such a day, in a year that dates can have. -/
def isDate (year : Int) (month day : Nat) : Bool :=
  -262143 ≤ year && year ≤ 262142 && 1 ≤ day && day ≤ daysInMonth year month

/-- A day of the calendar. -/
structure Date where
  year : Int
  month : Nat
  day : Nat
  exists_day : isDate year month day = true
  deriving DecidableEq, Repr

namespace Date

/-- The date of a year, a month and a day, if there is one. -/
def of? (year : Int) (month day : Nat) : Option Date :=
  if h : isDate year month day = true then some ⟨year, month, day, h⟩ else none

theorem of?_self (d : Date) : of? d.year d.month d.day = some d := by
  simp [of?, d.exists_day]

theorem of?_eq_some_iff {year : Int} {month day : Nat} {d : Date} :
    of? year month day = some d ↔ d.year = year ∧ d.month = month ∧ d.day = day := by
  constructor
  · intro h
    rw [of?] at h
    split at h
    · cases h
      exact ⟨rfl, rfl, rfl⟩
    · cases h
  · rintro ⟨rfl, rfl, rfl⟩
    exact of?_self d

/-- How many days of a year lie before a month. -/
def daysBefore (year : Int) (month : Nat) : Nat :=
  (List.range (month - 1)).foldl (fun days m => days + daysInMonth year (m + 1)) 0

/-- The position of a date in its year, from 1. -/
def ordinal (d : Date) : Nat :=
  daysBefore d.year d.month + d.day

/-- The date at a position of a year, from 1. -/
def ofOrdinal? (year : Int) (ordinal : Nat) : Option Date :=
  (List.range 12).findSome? fun m =>
    if daysBefore year (m + 1) < ordinal then of? year (m + 1) (ordinal - daysBefore year (m + 1))
    else none

/-- The number of a date, from zero for the first of January 1970. -/
def dayNumber (d : Date) : Int :=
  let monthsFromMarch := if 2 < d.month then d.month - 3 else d.month + 9
  let year := if 2 < d.month then d.year else d.year - 1
  let cycle := year / 400
  let yearOfCycle := year % 400
  let dayOfYear : Int := (153 * monthsFromMarch + 2) / 5 + d.day - 1
  cycle * 146097 + (yearOfCycle * 365 + yearOfCycle / 4 - yearOfCycle / 100 + dayOfYear) - 719468

/-- The date of a number, if it is in a year that dates can have. -/
def ofDayNumber? (number : Int) : Option Date :=
  let shifted := number + 719468
  let cycle := shifted / 146097
  let dayOfCycle := (shifted % 146097).toNat
  let yearOfCycle := (dayOfCycle - dayOfCycle / 1460 + dayOfCycle / 36524 - dayOfCycle / 146096) / 365
  let dayOfYear := dayOfCycle - (365 * yearOfCycle + yearOfCycle / 4 - yearOfCycle / 100)
  let monthsFromMarch := (5 * dayOfYear + 2) / 153
  let day := dayOfYear - (153 * monthsFromMarch + 2) / 5 + 1
  let month := if monthsFromMarch < 10 then monthsFromMarch + 3 else monthsFromMarch - 9
  let year : Int := cycle * 400 + yearOfCycle
  of? (if month ≤ 2 then year + 1 else year) month day

/-- The day of the week, from zero for Monday. -/
def weekday (d : Date) : Nat :=
  ((d.dayNumber + 3) % 7).toNat

/-- The digits of a year: four at least, and a sign when it has more or is negative. -/
def yearDigits (year : Int) : List Char :=
  let digits := Text.padLeft 4 '0' (Text.decimal year.natAbs)
  if year < 0 then '-' :: digits
  else if 9999 < year then '+' :: digits
  else digits

/-- Two digits of a number below 100. -/
def twoDigits (n : Nat) : List Char :=
  Text.padLeft 2 '0' (Text.decimal n)

/-- The text of a date: year, month and day. -/
def chars (d : Date) : List Char :=
  yearDigits d.year ++ '-' :: twoDigits d.month ++ '-' :: twoDigits d.day

end Date

/-! ## Times of day -/

/-- Whether there is such a time of day.  More nanoseconds than a second has are those of a leap second. -/
def isTime (hour minute second nanosecond : Nat) : Bool :=
  hour < 24 && minute < 60 && second < 60 && nanosecond < 2000000000

/-- A time of day. -/
structure TimeOfDay where
  hour : Nat
  minute : Nat
  second : Nat
  nanosecond : Nat
  exists_time : isTime hour minute second nanosecond = true
  deriving DecidableEq, Repr

namespace TimeOfDay

/-- Whether a leap second, if the time lies in one, is the last of its minute. -/
def isRegular (t : TimeOfDay) : Bool :=
  t.nanosecond < 1000000000 || t.second == 59

/-- The time of day that is put together from its parts, if there is one. -/
def of? (hour minute second nanosecond : Nat) : Option TimeOfDay :=
  if h : isTime hour minute second nanosecond = true then
    let t : TimeOfDay := ⟨hour, minute, second, nanosecond, h⟩
    if t.isRegular then some t else none
  else none

/-- The beginning of a day. -/
def midnight : TimeOfDay := ⟨0, 0, 0, 0, by decide⟩

/-- Whether the time lies in a leap second. -/
def isLeapSecond (t : TimeOfDay) : Bool :=
  1000000000 ≤ t.nanosecond

/-- The second as a clock shows it: a leap second counts as the one after it, at the end of a minute as the
sixtieth. -/
def shownSecond (t : TimeOfDay) : Nat :=
  t.second + t.nanosecond / 1000000000

/-- The nanoseconds since the beginning of the second that a clock shows. -/
def fraction (t : TimeOfDay) : Nat :=
  t.nanosecond % 1000000000

/-- The seconds since the beginning of the day. -/
def secondOfDay (t : TimeOfDay) : Nat :=
  (t.hour * 60 + t.minute) * 60 + t.second

/-- The time of day after some seconds and nanoseconds of a day. -/
def ofSecond? (second nanosecond : Nat) : Option TimeOfDay :=
  of? (second / 3600) (second / 60 % 60) (second % 60) nanosecond

/-- A fraction of a second behind a point, with as many groups of three digits as it needs. -/
def fractionChars (nanosecond : Nat) : List Char :=
  if nanosecond = 0 then []
  else if nanosecond % 1000000 = 0 then '.' :: Text.padLeft 3 '0' (Text.decimal (nanosecond / 1000000))
  else if nanosecond % 1000 = 0 then '.' :: Text.padLeft 6 '0' (Text.decimal (nanosecond / 1000))
  else '.' :: Text.padLeft 9 '0' (Text.decimal nanosecond)

/-- The text of a time of day. -/
def chars (t : TimeOfDay) : List Char :=
  Date.twoDigits t.hour ++ ':' :: Date.twoDigits t.minute ++ ':' :: Date.twoDigits t.shownSecond ++
    fractionChars t.fraction

end TimeOfDay

/-! ## Instants -/

/-- A date and a time of day.  Where an instant is meant, they are those of universal time. -/
structure DateTime where
  date : Date
  time : TimeOfDay
  deriving DecidableEq, Repr

namespace DateTime

/-- The beginning of a day. -/
def atMidnight (d : Date) : DateTime := ⟨d, .midnight⟩

/-- The seconds since the epoch, the beginning of 1970.  A leap second counts as the one before it. -/
def epochSecond (dt : DateTime) : Int :=
  dt.date.dayNumber * 86400 + dt.time.secondOfDay

/-- The milliseconds since the epoch, rounded down. -/
def epochMilli (dt : DateTime) : Int :=
  dt.epochSecond * 1000 + dt.time.nanosecond / 1000000

/-- The instant some seconds and nanoseconds after the epoch, if dates reach that far. -/
def ofEpochSecond? (second : Int) (nanosecond : Nat) : Option DateTime := do
  let date ← Date.ofDayNumber? (second / 86400)
  let time ← TimeOfDay.ofSecond? (second % 86400).toNat nanosecond
  return ⟨date, time⟩

/-- The instant some milliseconds after the epoch, if dates reach that far. -/
def ofEpochMilli? (milli : Int) : Option DateTime :=
  ofEpochSecond? (milli / 1000) ((milli % 1000).toNat * 1000000)

/-- The same instant some seconds earlier.  The fraction of a second, and with it a leap second, stays. -/
def earlier? (dt : DateTime) (seconds : Int) : Option DateTime :=
  ofEpochSecond? (dt.epochSecond - seconds) dt.time.nanosecond

/-- The text of a date and a time, with a space between them. -/
def chars (dt : DateTime) : List Char :=
  dt.date.chars ++ ' ' :: dt.time.chars

/-- The text of an instant of universal time in the Internet date format. -/
def internetChars (dt : DateTime) : List Char :=
  dt.date.chars ++ 'T' :: dt.time.chars ++ ['+', '0', '0', ':', '0', '0']

end DateTime
end RequestQuery
