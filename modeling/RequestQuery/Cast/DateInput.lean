import RequestQuery.Calendar.Read

/-! # Dates that are entered

A date is entered as a text, as seconds since the epoch, or as a date and time.
A text of ten digits is seconds as well and one of thirteen digits milliseconds;
any other text is read in the format that is asked for, or else in one of the
usual forms.
-/
namespace RequestQuery

/-- A date as it is entered. -/
inductive DateInput where
  | text (s : String)
  | timestamp (seconds : Int)
  | dateTime (dt : DateTime)
  deriving DecidableEq, Repr

namespace DateInput

/-- Whether nothing was entered. -/
def isEmpty : DateInput → Bool
  | text s => s.isEmpty
  | timestamp _ | dateTime _ => false

/-- The whole seconds since the epoch that a text of digits is. -/
def epochSecond? (s : String) : Option Int :=
  if !s.toList.all Char.isDigit then none
  else match s.toList.length with
    | 10 => some (Text.valueOf s.toList)
    | 13 => some ((Text.valueOf s.toList : Int) / 1000)
    | _ => none

/-- The date and time of a text. -/
def ofText? (s format : String) : Option DateTime :=
  if s.isEmpty then none
  else match epochSecond? s with
    | some second => DateTime.ofEpochSecond? second 0
    | none => (DateTime.readLenient? s format).or (DateTime.readIso? s)

/-- The date and time that was entered, a text being in some format. -/
def toDateTime? (input : DateInput) (format : String) : Option DateTime :=
  match input with
  | dateTime dt => some dt
  | timestamp seconds => DateTime.ofEpochSecond? seconds 0
  | text s => ofText? s format

end DateInput
end RequestQuery
