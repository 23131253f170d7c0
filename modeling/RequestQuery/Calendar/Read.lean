import RequestQuery.Calendar.Fields
import RequestQuery.Calendar.Format
import RequestQuery.Text.Split

/-! # Reading dates by a pattern

A text is read element by element.  A numeric field may have blanks in front and
takes at most as many digits as it has places; a year with a sign takes all.
Names count up to letter case, and the long form of a name may be given in
short.  The name of a time zone is whatever comes before the next blank, and says
nothing.  Nothing may be left over.

Three readers are built on this.  `Date.readStrict?` accepts only what the
pattern itself writes.  `DateTime.readLenient?` fills in midnight and the first
of the month.  `DateTime.readIso?` knows the usual forms of the Internet date
format and needs no pattern.
-/
namespace RequestQuery
namespace Pattern

/-! ## Scanning -/

/-- A number of at least one and at most `most` digits that fits in 64 bits. -/
def scanNumber? (most : Nat) (s : List Char) : Option (Int × List Char) :=
  let (digits, rest) := Text.digitRun most s
  let value := Text.valueOf digits
  if digits.isEmpty || 0x8000000000000000 ≤ value then none else some (value, rest)

/-- A number of exactly `width` digits. -/
def scanExactly? (width : Nat) (s : List Char) : Option (Int × List Char) :=
  let (digits, rest) := Text.digitRun width s
  if digits.length = width then some (Text.valueOf digits, rest) else none

/-- The number of digits to which a numeric field without a sign is read. -/
def placesOf : NumericField → Option Nat
  | .year | .isoYear => some 4
  | .century | .yearOfCentury | .isoYearOfCentury | .month | .day | .weekFromSunday | .weekFromMonday
  | .isoWeek | .hour | .halfDayHour | .minute | .second => some 2
  | .ordinal => some 3
  | .quarter | .dayFromSunday | .dayFromMonday => some 1
  | .nanosecond => some 9
  | .epochSecond => none

/-- Whether the number of a field may have a sign. -/
def maySign : NumericField → Bool
  | .year | .isoYear => true
  | _ => false

/-- The number of a field.  With a sign it may have any number of digits. -/
def scanField? (field : NumericField) (s : List Char) : Option (Int × List Char) :=
  let s := Text.trimStart s
  let places := (placesOf field).getD s.length
  match maySign field, s with
  | true, '-' :: rest => (scanNumber? rest.length rest).map fun (value, rest) => (-value, rest)
  | true, '+' :: rest => scanNumber? rest.length rest
  | _, _ => scanNumber? places s

/-- Sets the field that a number was read for. -/
def setNumeric (field : NumericField) (value : Int) (f : DateFields) : Except DateFault DateFields :=
  match field with
  | .year => f.setYear value
  | .century => f.setCentury value
  | .yearOfCentury => f.setYearOfCentury value
  | .isoYear => f.setIsoYear value
  | .isoYearOfCentury => f.setIsoYearOfCentury value
  | .quarter => f.setQuarter value
  | .month => f.setMonth value
  | .day => f.setDay value
  | .ordinal => f.setOrdinal value
  | .weekFromSunday => f.setWeekFromSunday value
  | .weekFromMonday => f.setWeekFromMonday value
  | .isoWeek => f.setIsoWeek value
  | .dayFromSunday => do f.setWeekday (((← DateFields.within 0 6 value) + 6) % 7)
  | .dayFromMonday => f.setWeekday (value - 1)
  | .hour => f.setHour value
  | .halfDayHour => f.setHalfDayHour value
  | .minute => f.setMinute value
  | .second => f.setSecond value
  | .nanosecond => f.setNanosecond value
  | .epochSecond => f.setEpochSecond value

/-- What follows a word at the front, letter case aside. -/
def afterWord? (word s : List Char) : Option (List Char) :=
  if word.map Char.toLower = (s.take word.length).map Char.toLower then some (s.drop word.length) else none

/-- The position of the name whose first three letters are at the front.  In the long form the other
letters of the name are taken too, if they are there. -/
def scanName? (names : List String) (long : Bool) (s : List Char) : Option (Int × List Char) :=
  (names.zipIdx).findSome? fun (name, index) =>
    (afterWord? (name.toList.take 3) s).map fun rest =>
      let rest := if long then (afterWord? (name.toList.drop 3) rest).getD rest else rest
      ((index : Int), rest)

/-- The half of the day. -/
def scanHalf? (s : List Char) : Option (Bool × List Char) :=
  match afterWord? ['a', 'm'] s with
  | some rest => some (false, rest)
  | none => (afterWord? ['p', 'm'] s).map (true, ·)

/-- Digits behind a point as nanoseconds; digits beyond the ninth do not count. -/
def scanFraction? (s : List Char) : Option (Int × List Char) :=
  let (digits, rest) := Text.digitRun 9 s
  if digits.isEmpty then none
  else some (Text.valueOf digits * Nat.pow 10 (9 - digits.length), rest.dropWhile Char.isDigit)

/-- Exactly `width` digits as nanoseconds. -/
def scanFixedFraction? (width : Nat) (s : List Char) : Option (Int × List Char) :=
  (scanExactly? width s).map fun (value, rest) => (value * Nat.pow 10 (9 - width), rest)

/-- The sign of an offset; the typographic minus counts. -/
def scanOffsetSign? : List Char → Option (Bool × List Char)
  | '+' :: rest => some (false, rest)
  | '-' :: rest => some (true, rest)
  | '−' :: rest => some (true, rest)
  | _ => none

/-- The minutes of an offset.  If they are optional, the text may end instead. -/
def scanOffsetMinutes? (optional : Bool) (s : List Char) : Option (Int × List Char) :=
  if optional && s.isEmpty then some (0, s) else scanExactly? 2 s

/-- An offset in seconds: sign, two digits of hours, what separates them, two digits of minutes. -/
def scanOffset? (separator : List Char → Option (List Char)) (optional : Bool) (s : List Char) :
    Option (Int × List Char) := do
  let (negative, s) ← scanOffsetSign? s
  let (hours, s) ← scanExactly? 2 s
  let s ← separator s
  let (minutes, s) ← scanOffsetMinutes? optional s
  if 59 < minutes then none
  else
    let seconds := hours * 3600 + minutes * 60
    some (if negative then -seconds else seconds, s)

/-- An offset, or a `Z` for universal time. -/
def scanOffsetOrZ? (separator : List Char → Option (List Char)) (optional : Bool) :
    List Char → Option (Int × List Char)
  | 'Z' :: rest | 'z' :: rest => some (0, rest)
  | s => scanOffset? separator optional s

/-- Any number of colons and blanks. -/
def skipColons (s : List Char) : Option (List Char) :=
  some (s.dropWhile fun c => c == ':' || Text.isBlank c)

/-- What stands between a date and a time of the Internet date format. -/
def afterDayMark? : List Char → Option (List Char)
  | 't' :: rest | 'T' :: rest | ' ' :: rest => some rest
  | _ => none

/-! ## Elements -/

/-- Reads a numeric field. -/
def scanNumeric? (field : NumericField) (s : List Char) (f : DateFields) :
    Option (DateFields × List Char) := do
  let (value, rest) ← scanField? field s
  return (← (setNumeric field value f).toOption, rest)

/-- Reads a numeric field behind a mark, which may have blanks in front. -/
def scanBehind? (mark : Char) (field : NumericField) (s : List Char) (f : DateFields) :
    Option (DateFields × List Char) := do
  scanNumeric? field (← Text.after? [mark] (Text.trimStart s)) f

/-- Reads a fraction of a second, if there is a point in front. -/
def scanPointed? (scan : List Char → Option (Int × List Char)) (s : List Char) (f : DateFields) :
    Option (DateFields × List Char) :=
  match s with
  | '.' :: rest => do
    let (nanosecond, rest) ← scan rest
    return (← (f.setNanosecond nanosecond).toOption, rest)
  | s => some (f, s)

/-- Reads an offset. -/
def scanZone? (scan : List Char → Option (Int × List Char)) (s : List Char) (f : DateFields) :
    Option (DateFields × List Char) := do
  let (offset, rest) ← scan (Text.trimStart s)
  return (← (f.setOffset offset).toOption, rest)

/-- Universal time by its name, or an offset with or without colons, or a `Z`. -/
def scanUniversal? (s : List Char) : Option (Int × List Char) :=
  match afterWord? ['u', 't', 'c'] s with
  | some rest => some (0, rest)
  | none => scanOffsetOrZ? skipColons false s

/-- Reads a date and a time of the Internet date format, with blanks between their parts. -/
def scanLooseInternet? (s : List Char) (f : DateFields) : Option (DateFields × List Char) := do
  let (f, s) ← scanNumeric? .year s f
  let (f, s) ← scanBehind? '-' .month s f
  let (f, s) ← scanBehind? '-' .day s f
  let s ← afterDayMark? s
  let (f, s) ← scanNumeric? .hour s f
  let (f, s) ← scanBehind? ':' .minute s f
  let (f, s) ← scanBehind? ':' .second s f
  let (f, s) ← scanPointed? scanFraction? s f
  scanZone? scanUniversal? s f

/-- Reads a field with a form of its own. -/
def scanFixed? (field : FixedField) (s : List Char) (f : DateFields) :
    Option (DateFields × List Char) := do
  match field with
  | .shortMonth | .longMonth =>
    let (month, rest) ← scanName? monthNames (field == .longMonth) s
    return (← (f.setMonth (month + 1)).toOption, rest)
  | .shortWeekday | .longWeekday =>
    let (weekday, rest) ← scanName? weekdayNames (field == .longWeekday) s
    return (← (f.setWeekday weekday).toOption, rest)
  | .upperHalfDay | .lowerHalfDay =>
    let (afternoon, rest) ← scanHalf? s
    return (← (f.setHalf afternoon).toOption, rest)
  | .fraction => scanPointed? scanFraction? s f
  | .pointedFraction width => scanPointed? (scanFixedFraction? width) s f
  | .bareFraction width =>
    let (nanosecond, rest) ← scanFixedFraction? width s
    return (← (f.setNanosecond nanosecond).toOption, rest)
  | .offset => scanZone? (scanOffset? skipColons false) s f
  | .looseOffset => scanZone? (scanOffsetOrZ? skipColons true) s f
  | .zoneName => return (f, s.dropWhile fun c => !Text.isBlank c)
  | .internetDate => scanLooseInternet? s f

/-- Reads one element of a pattern. -/
def scanItem? (item : PatternItem) (s : List Char) (f : DateFields) : Option (DateFields × List Char) :=
  match item with
  | .literal text => (Text.after? text s).map (f, ·)
  | .gap _ => some (f, Text.trimStart s)
  | .numeric field _ => scanNumeric? field s f
  | .fixed field => scanFixed? field s f

/-- Reads a text that ends where the pattern ends. -/
def scan? (items : Pattern) (s : List Char) (f : DateFields) : Option DateFields :=
  match items with
  | [] => if s.isEmpty then some f else none
  | item :: rest => do
    let (f, s) ← scanItem? item s f
    scan? rest s f

/-- The fields that a text has by a pattern. -/
def fields? (pattern : String) (s : List Char) : Option DateFields := do
  scan? (← read? pattern.toList) s {}

end Pattern

/-! ## Readers -/

/-- The date of a text that the pattern writes exactly so.  Where the pattern has no day, it is the
first of the month. -/
def Date.readStrict? (s pattern : String) : Option Date := do
  let d ← (← Pattern.fields? pattern s.toList).dateOrFirst?
  if d.format? pattern = some s then some d else none

/-- The date and time of a text, midnight and the first of the month where they are missing. -/
def DateTime.readLenient? (s pattern : String) : Option DateTime := do
  let f ← Pattern.fields? pattern s.toList
  match f.dateTime with
  | .ok dt => some dt
  | .error _ =>
    let d ← f.dateOrFirst?
    return ⟨d, f.time.toOption.getD .midnight⟩

namespace DateTime

/-- Reads the numbers of a date and a time of the Internet date format into fields. -/
def scanInternet? (s : List Char) : Option (DateFields × Int × List Char) := do
  let (year, s) ← Pattern.scanExactly? 4 s
  let s ← Text.after? ['-'] s
  let (month, s) ← Pattern.scanExactly? 2 s
  let s ← Text.after? ['-'] s
  let (day, s) ← Pattern.scanExactly? 2 s
  let s ← Pattern.afterDayMark? s
  let (hour, s) ← Pattern.scanExactly? 2 s
  let s ← Text.after? [':'] s
  let (minute, s) ← Pattern.scanExactly? 2 s
  let s ← Text.after? [':'] s
  let (second, s) ← Pattern.scanExactly? 2 s
  let (nanosecond, s) ← match s with
    | '.' :: rest => (Pattern.scanFraction? rest).map fun (value, rest) => (some value, rest)
    | s => some (none, s)
  let (offset, s) ← Pattern.scanOffsetOrZ? (Text.after? [':']) false s
  if offset < -86340 ∨ 86340 < offset then none
  else
    let fields : Except DateFault DateFields := do
      let f ← DateFields.setYear {} year
      let f ← f.setMonth month
      let f ← f.setDay day
      let f ← f.setHour hour
      let f ← f.setMinute minute
      let f ← f.setSecond second
      match nanosecond with
      | some value => f.setNanosecond value
      | none => .ok f
    return (← fields.toOption, offset, s)

/-- The instant of a text in the Internet date format. -/
def readInternet? (s : List Char) : Option DateTime := do
  let (f, offset, rest) ← scanInternet? s
  if rest.isEmpty then (← f.dateTime.toOption).earlier? offset else none

/-- The date and time of a text by a pattern, neither of which may be missing. -/
def readBy? (pattern : String) (s : List Char) : Option DateTime :=
  (Pattern.fields? pattern s).bind fun f => f.dateTime.toOption

/-- The patterns that are tried for a text without an offset. -/
def isoPatterns : List String :=
  ["%Y-%m-%dT%H:%M:%S%.f", "%Y-%m-%d %H:%M:%S%.f", "%Y-%m-%d %H:%M"]

/-- The date and time of a text in one of the usual forms: with an offset, then as an instant of
universal time; without one; or a date alone. -/
def readIso? (s : String) : Option DateTime :=
  let s := Text.trimChars s.toList
  (readInternet? s).or <|
    (isoPatterns.findSome? fun pattern => readBy? pattern s).or <|
    ((Pattern.fields? "%Y-%m-%d" s).bind fun f => f.date.toOption).map atMidnight

end DateTime
end RequestQuery
