import RequestQuery.Keyed
import RequestQuery.Text.Blank
import RequestQuery.Text.Digits
import RequestQuery.Text.LetterCase
import RequestQuery.Sql.Expr

/-! # Settings

Everything that can be configured, with its stock value as the default of its
field.  A record holds what was configured; what takes effect is read by the
functions below it, which fall back on the stock value where the configured text
is empty.
-/
namespace RequestQuery

/-- The kinds of values that filters compare. -/
inductive Domain where
  | text
  | number
  | date
  deriving DecidableEq, Repr

/-- A configured text, or the fallback if it is empty. -/
def orFallback (configured fallback : String) : String :=
  if configured.isEmpty then fallback else configured

/-! ## Filters -/

/-- The operator of a filter value that names none, for each domain. -/
structure DefaultOperators where
  text : String := "con"
  number : String := "eq"
  date : String := "eq"
  deriving DecidableEq, Repr

namespace DefaultOperators

/-- The operator that takes effect in a domain. -/
def forDomain (d : DefaultOperators) : Domain → String
  | .text => orFallback d.text "con"
  | .number => orFallback d.number "eq"
  | .date => orFallback d.date "eq"

end DefaultOperators

/-- The SQL type that numbers inside documents are cast to: a type as it is written, or the parts of one. -/
inductive NumberType where
  | verbatim (name : String)
  | decimal (name : String) (precision scale : Option Nat)
  deriving DecidableEq, Repr

namespace NumberType

/-- The type as it stands in a cast. -/
def sqlType : NumberType → String
  | verbatim name => orFallback (Text.trim name) "DECIMAL(20, 6)"
  | decimal name precision scale =>
    let name := orFallback (Text.upper (Text.trim name)) "DECIMAL"
    match precision, scale with
    | some p, some s => name ++ "(" ++ Text.showNat p ++ ", " ++ Text.showNat s ++ ")"
    | some p, none => name ++ "(" ++ Text.showNat p ++ ")"
    | none, _ => name

end NumberType

/-- The SQL types that values inside documents are cast to. -/
structure DocumentTypes where
  text : Option String := none
  number : NumberType := .decimal "DECIMAL" (some 20) (some 6)
  deriving DecidableEq, Repr

/-- The settings of filters. -/
structure FilterSettings where
  /-- Stands between an operator and its value. -/
  delimiter : String := "|"
  /-- Stands between the items of a list or the ends of a range. -/
  separator : String := ","
  defaults : DefaultOperators := {}
  types : DocumentTypes := {}
  /-- Other names of operators, in ascending order. -/
  aliases : Keyed String := []
  dateFormat : String := "%d/%m/%Y"
  monthYearFormat : String := "%m/%Y"
  deriving DecidableEq, Repr

namespace FilterSettings

/-- The delimiter that takes effect. -/
def delimiterInUse (f : FilterSettings) : String := orFallback f.delimiter "|"

/-- The separator that takes effect. -/
def separatorInUse (f : FilterSettings) : String := orFallback f.separator ","

/-- The pattern of dates that takes effect. -/
def dateFormatInUse (f : FilterSettings) : String := orFallback f.dateFormat "%d/%m/%Y"

/-- The pattern of months that takes effect. -/
def monthYearFormatInUse (f : FilterSettings) : String := orFallback f.monthYearFormat "%m/%Y"

/-- The code of an operator: trimmed, in lower case, and replaced by what it is an alias of.  The first
alias counts, and one that stands for nothing does not. -/
def resolveAlias (f : FilterSettings) (operator : String) : String :=
  let code := Text.lower (Text.trim operator)
  match f.aliases.find? fun entry => Text.lower entry.1 == code with
  | some (_, target) => orFallback (Text.lower (Text.trim target)) code
  | none => code

/-- The type that texts inside documents are cast to. -/
def textType (f : FilterSettings) (dialect : Dialect) : String :=
  orFallback (Text.trim (f.types.text.getD "")) <|
    match dialect with
    | .mysql => "CHAR"
    | _ => "TEXT"

/-- The type that numbers inside documents are cast to. -/
def numberType (f : FilterSettings) : String :=
  f.types.number.sqlType

end FilterSettings

/-! ## Distinct values -/

/-- The request parameters that ask for distinct values. -/
structure DistinctKeys where
  field : String := "_dist"
  filter : String := "_fdist"
  cursor : String := "_dcur"
  deriving DecidableEq, Repr

/-- The settings of listings of distinct values. -/
structure DistinctSettings where
  keys : DistinctKeys := {}
  perPage : Nat := 50
  valueAlias : String := "value"
  orderBy : Option String := none
  defaultFilterer : String := "string"
  filterSeparator : Option String := none
  deriving DecidableEq, Repr

namespace DistinctSettings

/-- The number of values on a page. -/
def perPageInUse (d : DistinctSettings) : Nat := if d.perPage = 0 then 50 else d.perPage

/-- The name of the value in a row. -/
def valueAliasInUse (d : DistinctSettings) : String := orFallback d.valueAlias "value"

/-- What the values are ordered by: their own name unless another one is configured. -/
def orderByInUse (d : DistinctSettings) : String :=
  orFallback (Text.trim (d.orderBy.getD "")) d.valueAliasInUse

/-- What stands between the parts of a filter on distinct values. -/
def filterSeparatorInUse (d : DistinctSettings) (f : FilterSettings) : String :=
  orFallback (d.filterSeparator.getD "") f.separatorInUse

end DistinctSettings

/-! ## Definitions -/

/-- A configured addon: fields that can be added to every entity. -/
structure AddonSettings where
  enabled : Bool := true
  fields : List String := []
  filterer : String := "date"
  sortable : Bool := false
  deriving DecidableEq, Repr

/-- The settings of query definitions. -/
structure DefinitionSettings where
  /-- The configured addons, in ascending order of their names. -/
  addons : Keyed AddonSettings := []
  valueDelimiter : Option String := none
  deriving DecidableEq, Repr

namespace DefinitionSettings

/-- What stands between operator and value in a request parameter. -/
def valueDelimiterInUse (d : DefinitionSettings) (f : FilterSettings) : String :=
  orFallback (d.valueDelimiter.getD "") f.delimiterInUse

end DefinitionSettings

/-! ## Casts -/

/-- The formats of a date or datetime attribute. -/
structure CastFormatSettings where
  storageFormat : String := ""
  getFormat : Option String := none
  setFormat : Option String := none
  parsesOnSet : Bool := false
  deriving DecidableEq, Repr

/-- The settings of date casts. -/
structure CastSettings where
  date : CastFormatSettings := { storageFormat := "%Y-%m-%d" }
  datetime : CastFormatSettings := { storageFormat := "%Y-%m-%d %H:%M:%S" }
  documentsParseOnSet : Bool := true
  deriving DecidableEq, Repr

/-! ## All settings -/

/-- All settings. -/
structure Settings where
  filters : FilterSettings := {}
  distinct : DistinctSettings := {}
  definitions : DefinitionSettings := {}
  casts : CastSettings := {}
  deriving DecidableEq, Repr

/-- The settings of a running program.  They are installed at most once; whoever asks before that gets
the stock settings, which then stay. -/
structure Installation where
  current : Option Settings := none

namespace Installation

/-- The settings in force, and the installation in which they are. -/
def global (i : Installation) : Settings × Installation :=
  let settings := i.current.getD {}
  (settings, ⟨some settings⟩)

/-- Installs settings.  If there are some already, the offered ones come back. -/
def install (i : Installation) (settings : Settings) : Option Settings × Installation :=
  match i.current with
  | some _ => (some settings, i)
  | none => (none, ⟨some settings⟩)

end Installation
end RequestQuery
