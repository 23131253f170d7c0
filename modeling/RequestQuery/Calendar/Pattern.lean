import RequestQuery.Calendar.Date
import RequestQuery.Text.Blank

/-! # Date patterns

A pattern is a text with specifiers: `%` and a letter stand for a field of a
date or a time, a run of blanks stands for blanks, everything else stands for
itself.  Behind the `%` of a numeric field `-`, `_` or `0` chooses how it is
filled up.  A few specifiers have more than one letter, and some abbreviate
longer patterns.  A pattern with a specifier that does not exist is no pattern.
-/
namespace RequestQuery

/-- How a numeric field is filled up to its width. -/
inductive Padding where
  | none
  | zero
  | space
  deriving DecidableEq, Repr

/-- A field that is written as a number. -/
inductive NumericField where
  | year
  | century
  | yearOfCentury
  /-- The year that the week by ISO 8601 belongs to. -/
  | isoYear
  | isoYearOfCentury
  | quarter
  | month
  | day
  | ordinal
  /-- The week where weeks begin on Sunday. -/
  | weekFromSunday
  /-- The week where weeks begin on Monday. -/
  | weekFromMonday
  /-- The week by ISO 8601. -/
  | isoWeek
  /-- The day of the week, from 0 for Sunday. -/
  | dayFromSunday
  /-- The day of the week, from 1 for Monday. -/
  | dayFromMonday
  | hour
  | halfDayHour
  | minute
  | second
  | nanosecond
  | epochSecond
  deriving DecidableEq, Repr

/-- A field that is written as a word or in a form of its own. -/
inductive FixedField where
  | shortMonth
  | longMonth
  | shortWeekday
  | longWeekday
  | upperHalfDay
  | lowerHalfDay
  /-- A point and as many digits as the fraction needs; nothing for a whole second. -/
  | fraction
  /-- A point and this many digits. -/
  | pointedFraction (width : Nat)
  /-- This many digits. -/
  | bareFraction (width : Nat)
  /-- The distance to universal time.  Where it has colons is left to the text. -/
  | offset
  /-- The distance to universal time, which may be without minutes or just a `Z`; it is read only. -/
  | looseOffset
  /-- The name of a time zone, which is passed over. -/
  | zoneName
  /-- A whole date and time of the Internet date format, with blanks between its parts. -/
  | internetDate
  deriving DecidableEq, Repr

/-- An element of a pattern. -/
inductive PatternItem where
  | literal (text : List Char)
  | gap (text : List Char)
  | numeric (field : NumericField) (padding : Padding)
  | fixed (field : FixedField)
  deriving DecidableEq, Repr

/-- A pattern: its elements in order. -/
abbrev Pattern := List PatternItem

namespace Pattern

/-- A numeric field with leading zeros. -/
def zeroed (field : NumericField) : PatternItem := .numeric field .zero

/-- A single character that stands for itself. -/
def mark (c : Char) : PatternItem := .literal [c]

/-- Hour, minute and second. -/
def clock : Pattern := [zeroed .hour, mark ':', zeroed .minute, mark ':', zeroed .second]

/-- Month, day and year of the century. -/
def slashedDate : Pattern := [zeroed .month, mark '/', zeroed .day, mark '/', zeroed .yearOfCentury]

/-- What a letter behind `%` stands for. -/
def letter? : Char → Option Pattern
  | 'Y' => some [zeroed .year]
  | 'C' => some [zeroed .century]
  | 'y' => some [zeroed .yearOfCentury]
  | 'G' => some [zeroed .isoYear]
  | 'g' => some [zeroed .isoYearOfCentury]
  | 'q' => some [.numeric .quarter .none]
  | 'm' => some [zeroed .month]
  | 'd' => some [zeroed .day]
  | 'e' => some [.numeric .day .space]
  | 'j' => some [zeroed .ordinal]
  | 'U' => some [zeroed .weekFromSunday]
  | 'W' => some [zeroed .weekFromMonday]
  | 'V' => some [zeroed .isoWeek]
  | 'w' => some [.numeric .dayFromSunday .none]
  | 'u' => some [.numeric .dayFromMonday .none]
  | 'H' => some [zeroed .hour]
  | 'k' => some [.numeric .hour .space]
  | 'I' => some [zeroed .halfDayHour]
  | 'l' => some [.numeric .halfDayHour .space]
  | 'M' => some [zeroed .minute]
  | 'S' => some [zeroed .second]
  | 'f' => some [zeroed .nanosecond]
  | 's' => some [.numeric .epochSecond .none]
  | 'b' | 'h' => some [.fixed .shortMonth]
  | 'B' => some [.fixed .longMonth]
  | 'a' => some [.fixed .shortWeekday]
  | 'A' => some [.fixed .longWeekday]
  | 'p' => some [.fixed .upperHalfDay]
  | 'P' => some [.fixed .lowerHalfDay]
  | 'z' => some [.fixed .offset]
  | 'Z' => some [.fixed .zoneName]
  | '+' => some [.fixed .internetDate]
  | 'n' => some [.gap ['\n']]
  | 't' => some [.gap ['\t']]
  | '%' => some [mark '%']
  | 'F' => some [zeroed .year, mark '-', zeroed .month, mark '-', zeroed .day]
  | 'D' | 'x' => some slashedDate
  | 'v' => some [.numeric .day .space, mark '-', .fixed .shortMonth, mark '-', zeroed .year]
  | 'R' => some [zeroed .hour, mark ':', zeroed .minute]
  | 'T' | 'X' => some clock
  | 'r' => some [zeroed .halfDayHour, mark ':', zeroed .minute, mark ':', zeroed .second, .gap [' '],
      .fixed .upperHalfDay]
  | 'c' => some ([.fixed .shortWeekday, .gap [' '], .fixed .shortMonth, .gap [' '], .numeric .day .space,
      .gap [' ']] ++ clock ++ [.gap [' '], zeroed .year])
  | _ => none

/-- The padding that a mark behind `%` chooses. -/
def padding? : Char → Option Padding
  | '-' => some .none
  | '0' => some .zero
  | '_' => some .space
  | _ => none

/-- The specifiers of more than one letter. -/
def longSpecifiers : List (List Char × FixedField) :=
  [(['.', 'f'], .fraction), (['.', '3', 'f'], .pointedFraction 3), (['.', '6', 'f'], .pointedFraction 6),
    (['.', '9', 'f'], .pointedFraction 9), (['3', 'f'], .bareFraction 3), (['6', 'f'], .bareFraction 6),
    (['9', 'f'], .bareFraction 9), ([':', 'z'], .offset), ([':', ':', 'z'], .offset),
    ([':', ':', ':', 'z'], .offset), (['#', 'z'], .looseOffset)]

/-- A numeric field with another padding than its own; nothing else can be filled up. -/
def repadded? (padding : Padding) : Pattern → Option Pattern
  | [.numeric field _] => some [.numeric field padding]
  | _ => none

/-- The specifier of one letter, perhaps with a mark in front that chooses the padding. -/
def shortSpecifier? : List Char → Option (Pattern × List Char)
  | [] => none
  | c :: rest =>
    match padding? c, rest with
    | some padding, letter :: rest => ((letter? letter).bind (repadded? padding)).map (·, rest)
    | some _, [] => none
    | none, rest => (letter? c).map (·, rest)

/-- The specifier behind a `%`, and what follows it. -/
def specifier? (s : List Char) : Option (Pattern × List Char) :=
  match longSpecifiers.find? fun entry => entry.1.isPrefixOf s with
  | some (letters, field) => some ([.fixed field], s.drop letters.length)
  | none => shortSpecifier? s

theorem length_lt_of_shortSpecifier? {s rest : List Char} {items : Pattern}
    (h : shortSpecifier? s = some (items, rest)) : rest.length < s.length := by
  unfold shortSpecifier? at h
  split at h
  · cases h
  · split at h
    · obtain ⟨_, _, heq⟩ := Option.map_eq_some_iff.mp h
      cases heq
      simp only [List.length_cons]
      omega
    · cases h
    · obtain ⟨_, _, heq⟩ := Option.map_eq_some_iff.mp h
      cases heq
      simp

theorem length_lt_of_specifier? {s rest : List Char} {items : Pattern}
    (h : specifier? s = some (items, rest)) : rest.length < s.length := by
  unfold specifier? at h
  split at h
  · next letters field hfind =>
    cases h
    have hletters : ∀ entry ∈ longSpecifiers, 0 < entry.1.length := by decide
    have hpositive : 0 < letters.length := hletters _ (List.mem_of_find?_eq_some hfind)
    have hbegins := List.find?_some hfind
    have hlength : letters.length ≤ s.length := (List.isPrefixOf_iff_prefix.mp hbegins).length_le
    rw [List.length_drop]
    omega
  · exact length_lt_of_shortSpecifier? h

/-- Puts a character in front of a pattern, into the run of blanks or of other characters that the
pattern begins with. -/
def prepend (c : Char) (items : Pattern) : Pattern :=
  match items with
  | .gap text :: rest => if Text.isBlank c then .gap (c :: text) :: rest else .literal [c] :: items
  | .literal text :: rest => if Text.isBlank c then .gap [c] :: items else .literal (c :: text) :: rest
  | _ => if Text.isBlank c then .gap [c] :: items else .literal [c] :: items

/-- Reads a pattern. -/
def read? (s : List Char) : Option Pattern :=
  match s with
  | [] => some []
  | c :: rest =>
    if c = '%' then
      match _h : specifier? rest with
      | none => none
      | some (items, after) => (read? after).map (items ++ ·)
    else (read? rest).map (prepend c)
termination_by s.length
decreasing_by
  · have := length_lt_of_specifier? ‹_›
    simp only [List.length_cons]
    omega
  · simp

end Pattern
end RequestQuery
