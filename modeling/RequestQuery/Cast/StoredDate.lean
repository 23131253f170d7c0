import RequestQuery.Calendar.Date
import RequestQuery.Json.Record

/-! # Dates in documents

A document holds a date as an instant: the milliseconds since the epoch, which
are 64 bits with a sign and so reach further than dates do.  In an extended
document it is written `{"$date": {"$numberLong": "0"}}`.  A date that was stored as
it was entered is a text or a number of seconds.
-/
namespace RequestQuery

/-- A moment in time. -/
structure Instant where
  /-- The milliseconds since the epoch. -/
  milli : Int
  deriving DecidableEq, Repr

namespace Instant

/-- The instant of a date and time, without what is finer than milliseconds. -/
def ofDateTime (dt : DateTime) : Instant := ⟨dt.epochMilli⟩

/-- The date and time of an instant, if dates reach that far. -/
def toDateTime? (i : Instant) : Option DateTime := DateTime.ofEpochMilli? i.milli

/-- The text of an instant: its date and time, or else its milliseconds. -/
def display (i : Instant) : String :=
  match i.toDateTime? with
  | some dt => String.ofList dt.internetChars
  | none => Text.showInt i.milli ++ "ms"

/-- The instant in an extended document. -/
def toJson (i : Instant) : Json :=
  .object [("$date", .object [("$numberLong", .string (Text.showInt i.milli))])]

/-- The instant that is in an extended document. -/
def ofJson? (value : Json) : Option Instant := do
  let date ← (← value.record? false ["$date"]).get? "$date"
  match (← date.record? false ["$numberLong"]).get? "$numberLong" with
  | some (.string digits) =>
    let milli ← Text.readInt? digits.toList
    if fitsInt64 milli then some ⟨milli⟩ else none
  | _ => none

end Instant

/-- A date as a document holds it. -/
inductive StoredDate where
  | instant (i : Instant)
  | text (s : String)
  | timestamp (seconds : Int)
  deriving DecidableEq, Repr

namespace StoredDate

/-- The stored date in an extended document. -/
def toJson : StoredDate → Json
  | instant i => i.toJson
  | text s => .string s
  | timestamp seconds => .ofInt seconds

/-- The stored date that is in an extended document. -/
def ofJson? : Json → Option StoredDate
  | .string s => some (.text s)
  | .number (.integer i) => if fitsInt64 i then some (.timestamp i) else none
  | value => (Instant.ofJson? value).map .instant

end StoredDate
end RequestQuery
