import RequestQuery.Calendar.Format
import RequestQuery.Cast.Formats
import RequestQuery.Cast.DateInput
import RequestQuery.Cast.StoredDate

/-! # Casts of date attributes

A cast takes an attribute from its stored form to the text that is shown and from
what is entered to the stored form.  A table stores a text, a document an
instant.  Without parsing, what is entered is stored as it is, except that a
date and time always has the stored form.  What is empty or cannot be read has
no value.
-/
namespace RequestQuery

/-- A cast of an attribute that a table stores as a text. -/
structure TextCast where
  formats : CastFormats
  deriving DecidableEq, Repr

namespace TextCast

/-- The cast that settings and options give an attribute. -/
def ofSettings (casts : CastSettings) (kind : CastKind) (options : CastOptions) : TextCast :=
  ⟨(CastFormats.ofSettings casts kind (kind.settings casts).parsesOnSet).withOptions options⟩

/-- The cast with some options in their place. -/
def withOptions (c : TextCast) (options : CastOptions) : TextCast :=
  ⟨c.formats.withOptions options⟩

/-- The text to show for a stored text. -/
def get (c : TextCast) (stored : String) : Option String := do
  let dt ← DateInput.ofText? stored c.formats.originFormat
  dt.format? c.formats.getFormat

/-- The text to store for what is entered. -/
def set (c : TextCast) (input : DateInput) : Option String :=
  if input.isEmpty then none
  else if c.formats.parsesOnSet then do
    let dt ← input.toDateTime? c.formats.setFormat
    dt.format? c.formats.storageFormat
  else match input with
    | .dateTime dt => dt.format? c.formats.storageFormat
    | .timestamp seconds => some (Text.showInt seconds)
    | .text s => some s

end TextCast

/-- A cast of an attribute that a document stores as an instant. -/
structure DocumentCast where
  formats : CastFormats
  deriving DecidableEq, Repr

namespace DocumentCast

/-- The cast that settings and options give an attribute. -/
def ofSettings (casts : CastSettings) (kind : CastKind) (options : CastOptions) : DocumentCast :=
  ⟨(CastFormats.ofSettings casts kind casts.documentsParseOnSet).withOptions options⟩

/-- The cast with some options in their place. -/
def withOptions (c : DocumentCast) (options : CastOptions) : DocumentCast :=
  ⟨c.formats.withOptions options⟩

/-- The date and time of a stored date. -/
def read? (c : DocumentCast) : StoredDate → Option DateTime
  | .instant i => i.toDateTime?
  | .text s => DateInput.ofText? s c.formats.originFormat
  | .timestamp seconds => DateTime.ofEpochSecond? seconds 0

/-- The text to show for a stored date. -/
def get (c : DocumentCast) (stored : StoredDate) : Option String := do
  (← c.read? stored).format? c.formats.getFormat

/-- The date to store for what is entered. -/
def set (c : DocumentCast) (input : DateInput) : Option StoredDate :=
  if input.isEmpty then none
  else if c.formats.parsesOnSet then
    (input.toDateTime? c.formats.setFormat).map fun dt => .instant (.ofDateTime dt)
  else match input with
    | .dateTime dt => some (.instant (.ofDateTime dt))
    | .timestamp seconds => some (.timestamp seconds)
    | .text s => some (.text s)

end DocumentCast
end RequestQuery
