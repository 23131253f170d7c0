import RequestQuery.Calendar.Pattern
import RequestQuery.Calendar.Week

/-! # Writing dates by a pattern

`Pattern.write?` writes the fields of a date, of a time of day, or of both.  A
pattern that asks for a field of what is not there writes nothing at all, and so
does one that asks for a time zone, which neither has.
-/
namespace RequestQuery

/-- The names of the months. -/
def monthNames : List String :=
  ["January", "February", "March", "April", "May", "June", "July", "August", "September", "October",
    "November", "December"]

/-- The names of the days of the week, Monday first. -/
def weekdayNames : List String :=
  ["Monday", "Tuesday", "Wednesday", "Thursday", "Friday", "Saturday", "Sunday"]

namespace Pattern

/-- A number filled up to a width. -/
def padded (padding : Padding) (width : Nat) (digits : List Char) : List Char :=
  match padding with
  | .none => digits
  | .zero => Text.padLeft width '0' digits
  | .space => Text.padLeft width ' ' digits

/-- A number that carries a sign in any case, filled up to a width that the sign counts for. -/
def signed (padding : Padding) (width : Nat) (i : Int) : List Char :=
  let sign := if i < 0 then '-' else '+'
  let digits := Text.decimal i.natAbs
  match padding with
  | .none => sign :: digits
  | .zero => sign :: Text.padLeft (width - 1) '0' digits
  | .space => Text.padLeft width ' ' (sign :: digits)

/-- A year: four places, or a sign and four places where it is not in 0 to 9999. -/
def writeYear (padding : Padding) (year : Int) : List Char :=
  if 0 ≤ year && year ≤ 9999 then padded padding 4 (Text.decimal year.natAbs)
  else signed padding 5 year

/-- A number in two places.  What exceeds 99 shows as the character that many places behind the zero. -/
def writeTwo (padding : Padding) (n : Nat) : List Char :=
  let ones := Text.digitChar (n % 10)
  match n / 10, padding with
  | 0, .none => [ones]
  | 0, .space => [' ', ones]
  | tens, _ => [Text.digitChar tens, ones]

/-- The century of a year, as a byte. -/
def centuryByte (year : Int) : Nat :=
  (year / 100 % 256).toNat

/-- The hour on a clock of twelve hours. -/
def halfDayHour (t : TimeOfDay) : Nat :=
  if t.hour % 12 = 0 then 12 else t.hour % 12

/-- A numeric field of a date. -/
def writeDateNumber? (d : Date) (padding : Padding) : NumericField → Option (List Char)
  | .year => some (writeYear padding d.year)
  | .century => some (writeTwo padding (centuryByte d.year))
  | .yearOfCentury => some (writeTwo padding (d.year % 100).toNat)
  | .isoYear => some (writeYear padding d.isoWeekDate.1)
  | .isoYearOfCentury => some (writeTwo padding (d.isoWeekDate.1 % 100).toNat)
  | .quarter => some [Text.digitChar d.quarter]
  | .month => some (writeTwo padding d.month)
  | .day => some (writeTwo padding d.day)
  | .ordinal => some (padded padding 3 (Text.decimal d.ordinal))
  | .weekFromSunday => some (writeTwo padding (d.weekFrom 6))
  | .weekFromMonday => some (writeTwo padding (d.weekFrom 0))
  | .isoWeek => some (writeTwo padding d.isoWeekDate.2)
  | .dayFromSunday => some [Text.digitChar ((d.weekday + 1) % 7)]
  | .dayFromMonday => some [Text.digitChar (d.weekday + 1)]
  | _ => none

/-- A numeric field of a time of day. -/
def writeTimeNumber? (t : TimeOfDay) (padding : Padding) : NumericField → Option (List Char)
  | .hour => some (writeTwo padding t.hour)
  | .halfDayHour => some (writeTwo padding (halfDayHour t))
  | .minute => some (writeTwo padding t.minute)
  | .second => some (writeTwo padding t.shownSecond)
  | .nanosecond => some (padded padding 9 (Text.decimal t.fraction))
  | _ => none

/-- The seconds since the epoch, filled up to nine places. -/
def writeEpochSecond (padding : Padding) (second : Int) : List Char :=
  match padding with
  | .none => Text.signedDecimal second
  | .space => Text.padLeft 9 ' ' (Text.signedDecimal second)
  | .zero =>
    if second < 0 then '-' :: Text.padLeft 8 '0' (Text.decimal second.natAbs)
    else Text.padLeft 9 '0' (Text.decimal second.natAbs)

/-- A numeric field. -/
def writeNumber? (date : Option Date) (time : Option TimeOfDay) (field : NumericField)
    (padding : Padding) : Option (List Char) :=
  match field with
  | .epochSecond => do return writeEpochSecond padding (DateTime.epochSecond ⟨← date, ← time⟩)
  | .hour | .halfDayHour | .minute | .second | .nanosecond =>
    time.bind fun t => writeTimeNumber? t padding field
  | _ => date.bind fun d => writeDateNumber? d padding field

/-- The first digits of a fraction. -/
def fractionDigits (t : TimeOfDay) (width : Nat) : List Char :=
  (Text.padLeft 9 '0' (Text.decimal t.fraction)).take width

/-- The name at a position of a list of names. -/
def nameAt (names : List String) (index : Nat) : List Char :=
  (names[index]?.getD "").toList

/-- A field with a form of its own. -/
def writeFixed? (date : Option Date) (time : Option TimeOfDay) : FixedField → Option (List Char)
  | .shortMonth => date.map fun d => (nameAt monthNames (d.month - 1)).take 3
  | .longMonth => date.map fun d => nameAt monthNames (d.month - 1)
  | .shortWeekday => date.map fun d => (nameAt weekdayNames d.weekday).take 3
  | .longWeekday => date.map fun d => nameAt weekdayNames d.weekday
  | .upperHalfDay => time.map fun t => if t.hour < 12 then ['A', 'M'] else ['P', 'M']
  | .lowerHalfDay => time.map fun t => if t.hour < 12 then ['a', 'm'] else ['p', 'm']
  | .fraction => time.map fun t => TimeOfDay.fractionChars t.fraction
  | .pointedFraction width => time.map fun t => '.' :: fractionDigits t width
  | .bareFraction width => time.map fun t => fractionDigits t width
  | .offset | .looseOffset | .zoneName | .internetDate => none

/-- One element of a pattern. -/
def writeItem? (date : Option Date) (time : Option TimeOfDay) : PatternItem → Option (List Char)
  | .literal text => some text
  | .gap text => some text
  | .numeric field padding => writeNumber? date time field padding
  | .fixed field => writeFixed? date time field

/-- What a pattern makes of a date, a time of day, or both. -/
def write? (date : Option Date) (time : Option TimeOfDay) : Pattern → Option (List Char)
  | [] => some []
  | item :: rest => do return (← writeItem? date time item) ++ (← write? date time rest)

end Pattern

/-- The text of a date by a pattern; none if the pattern is invalid or asks for a time. -/
def Date.format? (d : Date) (pattern : String) : Option String := do
  let items ← Pattern.read? pattern.toList
  return String.ofList (← Pattern.write? (some d) none items)

/-- The text of a date and time by a pattern; none if the pattern is invalid. -/
def DateTime.format? (dt : DateTime) (pattern : String) : Option String := do
  let items ← Pattern.read? pattern.toList
  return String.ofList (← Pattern.write? (some dt.date) (some dt.time) items)

end RequestQuery
