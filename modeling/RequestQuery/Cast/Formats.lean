import RequestQuery.Settings

/-! # Formats of date attributes

A date attribute has one format in the database and others towards its users:
one in which it is shown and one in which it is entered.  What was stored may be
in yet another format, the origin format.  The settings give the formats of all
attributes, options those of a single one.
-/
namespace RequestQuery

/-- What a date attribute holds. -/
inductive CastKind where
  | date
  | dateTime
  deriving DecidableEq, Repr

namespace CastKind

/-- The format in the database where the settings have none. -/
def stockStorageFormat : CastKind → String
  | date => "%Y-%m-%d"
  | dateTime => "%Y-%m-%d %H:%M:%S"

/-- The format towards users where the settings have none. -/
def stockShownFormat : CastKind → String
  | date => "%d/%m/%y"
  | dateTime => "%d/%m/%y %I:%M %p"

/-- The settings of a kind. -/
def settings (casts : CastSettings) : CastKind → CastFormatSettings
  | date => casts.date
  | dateTime => casts.datetime

end CastKind

/-- A format that takes effect: an empty one does not, nor does the word `false` in any case. -/
def usableFormat? (format : Option String) : Option String :=
  format.filter fun f => !f.isEmpty && !Text.sameIgnoringAsciiCase f "false"

/-- The options of one attribute.  What they leave out, or what does not take effect, stays as it was. -/
structure CastOptions where
  parsesOnSet : Option Bool := none
  getFormat : Option String := none
  setFormat : Option String := none
  originFormat : Option String := none
  deriving DecidableEq, Repr

namespace CastOptions

/-- What is entered is parsed. -/
def parsed : CastOptions :=
  { parsesOnSet := some true }

/-- The attribute is a month and its year. -/
def monthYear : CastOptions :=
  { parsesOnSet := some true, getFormat := some "%m/%Y", setFormat := some "%m/%Y" }

/-- The attribute is shown as a date without time. -/
def dateOnly : CastOptions :=
  { parsesOnSet := some true, getFormat := some "%d/%m/%y" }

end CastOptions

/-- The formats of an attribute. -/
structure CastFormats where
  kind : CastKind
  storageFormat : String
  getFormat : String
  setFormat : String
  /-- The format in which stored texts are read. -/
  originFormat : String
  /-- Whether what is entered is parsed, and not only stored. -/
  parsesOnSet : Bool
  deriving DecidableEq, Repr

namespace CastFormats

/-- The formats with some options in their place. -/
def withOptions (f : CastFormats) (options : CastOptions) : CastFormats :=
  { f with
    parsesOnSet := options.parsesOnSet.getD f.parsesOnSet
    getFormat := (usableFormat? options.getFormat).getD f.getFormat
    setFormat := (usableFormat? options.setFormat).getD f.setFormat
    originFormat := (usableFormat? options.originFormat).getD f.originFormat }

/-- The formats that the settings give a kind.  Stored texts are read in the format in which they are
stored. -/
def ofSettings (casts : CastSettings) (kind : CastKind) (parsesOnSet : Bool) : CastFormats :=
  let settings := kind.settings casts
  let storage := (usableFormat? (some settings.storageFormat)).getD kind.stockStorageFormat
  { kind, parsesOnSet
    storageFormat := storage
    getFormat := (usableFormat? settings.getFormat).getD kind.stockShownFormat
    setFormat := (usableFormat? settings.setFormat).getD kind.stockShownFormat
    originFormat := storage }

end CastFormats
end RequestQuery
