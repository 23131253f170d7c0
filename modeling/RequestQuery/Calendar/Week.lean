import RequestQuery.Calendar.Date

/-! # Weeks and quarters of a year

Weeks of a year are counted in two ways.  One way takes weeks to begin on a day of
the week: the first such day of a year begins its week 1, and the days before it
are in week 0.  The other way is that of ISO 8601: weeks begin on Monday, and a
week belongs to the year that its Thursday lies in, so that the first days of
January can be in the last week of the year before, and the last days of December
in the first week of the year after.  The third of January 2021, a Sunday, is in
week 53 of 2020.

Days of the week are counted from zero for Monday.
-/
namespace RequestQuery

/-- The number of days of a year. -/
def daysInYear (year : Int) : Nat :=
  if isLeapYear year then 366 else 365

/-- The day of the week of the first of January, in whatever year; that of the year 1 is a Monday. -/
def firstWeekday (year : Int) : Nat :=
  let before := year - 1
  ((before * 365 + before / 4 - before / 100 + before / 400) % 7).toNat

/-- How many days there are from one day of the week to the next that is another. -/
def daysUntil (first other : Nat) : Nat :=
  (other + 7 - first) % 7

namespace Date

/-- The quarter of the year, from 1. -/
def quarter (d : Date) : Nat :=
  (d.month + 2) / 3

/-- The number of the week where weeks begin on a day of the week. -/
def weekFrom (first : Nat) (d : Date) : Nat :=
  (d.ordinal + 6 - daysUntil first d.weekday) / 7

/-- The date of a day of the week in such a week, if that is in the year. -/
def ofWeekFrom? (first : Nat) (year : Int) (week weekday : Nat) : Option Date :=
  let firstOfWeeks := 1 + daysUntil (firstWeekday year) first
  ofOrdinal? year (firstOfWeeks + 7 * week + daysUntil first weekday - 7)

/-- The year of the week by ISO 8601, and the number of the week in it. -/
def isoWeekDate (d : Date) : Int × Nat :=
  let thursday : Int := d.ordinal + 3 - d.weekday
  if thursday < 1 then (d.year - 1, ((thursday + daysInYear (d.year - 1) + 6) / 7).toNat)
  else if daysInYear d.year < thursday then (d.year + 1, 1)
  else (d.year, ((thursday + 6) / 7).toNat)

/-- The date of a day of the week in a week by ISO 8601, if the year has that week. -/
def ofIsoWeek? (year : Int) (week weekday : Nat) : Option Date :=
  -- the fourth of January is always in the first week
  let monday : Int := 7 * week - 3 - ((firstWeekday year + 3) % 7 : Nat)
  let ordinal := monday + weekday
  if week = 0 ∨ daysInYear year < monday + 3 then none
  else if ordinal < 1 then ofOrdinal? (year - 1) (ordinal + daysInYear (year - 1)).toNat
  else if daysInYear year < ordinal then ofOrdinal? (year + 1) (ordinal - daysInYear year).toNat
  else ofOrdinal? year ordinal.toNat

end Date
end RequestQuery
