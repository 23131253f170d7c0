import RequestQuery.Json.Record
import RequestQuery.Number.Shortest
import RequestQuery.Settings

/-! # Reading settings

Settings are read from a document whose sections are records.  Every section and
every member may be missing and then has its stock value; members that no
section declares do not count.

How the scalars are read is a parameter.  A strict reading takes each of its own
type.  A lenient one also takes what was written as another type, since an
environment can only hold texts: numbers and words for truth values, truth
values for numbers, anything scalar for texts.
-/
namespace RequestQuery

/-- How scalars and records are read. -/
structure SettingsReading where
  text? : Json → Option String
  /-- A number of 64 bits without a sign. -/
  word? : Json → Option Nat
  flag? : Json → Option Bool
  /-- Whether a record that is written as an array may have more items than members. -/
  moreItems : Bool

namespace SettingsReading

/-! ## The strict reading -/

/-- Takes each scalar of its own type. -/
def strict : SettingsReading where
  text?
    | .string s => some s
    | _ => none
  word?
    | .number (.integer i) => if fitsWord64 i then some i.toNat else none
    | _ => none
  flag?
    | .bool b => some b
    | _ => none
  moreItems := false

/-! ## The lenient reading -/

/-- A number as a setting: integers have 64 bits with a sign, all others are binary64 numbers. -/
def settingNumber : Number → Number
  | .integer i => if fitsInt64 i then .integer i else .real (.ofInt i)
  | .real x => .real x

/-- The text of a number. -/
def numberText (n : Number) : String :=
  match settingNumber n with
  | .integer i => Text.showInt i
  | .real x => String.ofList (Decimal.ofBinary64 x).settingText

/-- The nearest whole number of 64 bits without a sign.  A half goes up, and what lies beyond the bounds
goes to the bound. -/
def nearestWord (x : Binary64) : Nat :=
  if x.negative then 0
  else min ((2 * x.units + Binary64.unitsPerOne) / (2 * Binary64.unitsPerOne)) 0xFFFFFFFFFFFFFFFF

/-- The word of a number; negative integers have none. -/
def wordOfNumber? (n : Number) : Option Nat :=
  match settingNumber n with
  | .integer i => if 0 ≤ i then some i.toNat else none
  | .real x => some (nearestWord x)

/-- The truth value that a word stands for. -/
def flagOfWord? (s : String) : Option Bool :=
  let word := Text.lower s
  if ["1", "true", "on", "yes"].contains word then some true
  else if ["0", "false", "off", "no"].contains word then some false
  else none

/-- The number that a text is: digits, or a word for a truth value. -/
def wordOfText? (s : String) : Option Nat :=
  let word := Text.lower s
  if ["true", "on", "yes"].contains word then some 1
  else if ["false", "off", "no"].contains word then some 0
  else (Text.readNat? s.toList).filter fun n => fitsWord64 n

/-- Whether a number is not zero. -/
def isNonzero : Number → Bool
  | .integer i => i != 0
  | .real x => x.rank != 0

/-- Takes a scalar also where it was written as another type. -/
def lenient : SettingsReading where
  text?
    | .string s => some s
    | .bool b => some (if b then "true" else "false")
    | .number n => some (numberText n)
    | _ => none
  word?
    | .number n => wordOfNumber? n
    | .bool b => some (if b then 1 else 0)
    | .string s => wordOfText? s
    | _ => none
  flag?
    | .bool b => some b
    | .number n => some (isNonzero n)
    | .string s => flagOfWord? s
    | _ => none
  moreItems := true

/-! ## Members -/

variable {α : Type}

/-- A member of a record, or its stock value if it is missing. -/
def member? (record : Keyed Json) (name : String) (read? : Json → Option α) (stock : α) : Option α :=
  match record.get? name with
  | some value => read? value
  | none => some stock

/-- A value that may be null. -/
def orNull? (read? : Json → Option α) : Json → Option (Option α)
  | .null => some none
  | value => (read? value).map some

/-- Values of one type under any names. -/
def keyed? (read? : Json → Option α) : Json → Option (Keyed α)
  | .object members => members.mapM fun (name, value) => (read? value).map (name, ·)
  | _ => none

/-- A list of values of one type. -/
def list? (read? : Json → Option α) : Json → Option (List α)
  | .array items => items.mapM read?
  | _ => none

end SettingsReading

open SettingsReading

variable (r : SettingsReading)

/-! ## Sections -/

/-- Reads the default operators. -/
def DefaultOperators.ofJson? (value : Json) : Option DefaultOperators := do
  let record ← value.record? r.moreItems ["string", "number", "date"]
  let stock : DefaultOperators := {}
  return {
    text := ← member? record "string" r.text? stock.text
    number := ← member? record "number" r.text? stock.number
    date := ← member? record "date" r.text? stock.date }

/-- A text, never anything in its place. -/
def NumberType.name? : Json → Option String
  | .string s => some s
  | _ => none

/-- A count of digits: a number of 32 bits, never anything in its place. -/
def NumberType.digits? : Json → Option Nat
  | .number (.integer i) => if 0 ≤ i ∧ i ≤ 0xFFFFFFFF then some i.toNat else none
  | _ => none

/-- Reads the type of numbers, which is strict in any reading. -/
def NumberType.ofJson? : Json → Option NumberType
  | .string name => some (.verbatim name)
  | .object members => do
    return .decimal (← member? members "type" name? "DECIMAL")
      (← member? members "precision" (orNull? digits?) none)
      (← member? members "scale" (orNull? digits?) none)
  | _ => none

/-- Reads the types of values inside documents. -/
def DocumentTypes.ofJson? (value : Json) : Option DocumentTypes := do
  let record ← value.record? r.moreItems ["string", "number"]
  let stock : DocumentTypes := {}
  return {
    text := ← member? record "string" (orNull? r.text?) stock.text
    number := ← member? record "number" NumberType.ofJson? stock.number }

/-- Reads the settings of filters. -/
def FilterSettings.ofJson? (value : Json) : Option FilterSettings := do
  let record ← value.record? r.moreItems
    ["delimiter", "separator", "defaults", "json_casts", "operator_aliases", "date_format",
      "month_year_format"]
  let stock : FilterSettings := {}
  return {
    delimiter := ← member? record "delimiter" r.text? stock.delimiter
    separator := ← member? record "separator" r.text? stock.separator
    defaults := ← member? record "defaults" (DefaultOperators.ofJson? r) stock.defaults
    types := ← member? record "json_casts" (DocumentTypes.ofJson? r) stock.types
    aliases := ← member? record "operator_aliases" (keyed? r.text?) stock.aliases
    dateFormat := ← member? record "date_format" r.text? stock.dateFormat
    monthYearFormat := ← member? record "month_year_format" r.text? stock.monthYearFormat }

/-- Reads the parameters that ask for distinct values. -/
def DistinctKeys.ofJson? (value : Json) : Option DistinctKeys := do
  let record ← value.record? r.moreItems ["field", "filter", "cursor"]
  let stock : DistinctKeys := {}
  return {
    field := ← member? record "field" r.text? stock.field
    filter := ← member? record "filter" r.text? stock.filter
    cursor := ← member? record "cursor" r.text? stock.cursor }

/-- Reads the settings of listings of distinct values. -/
def DistinctSettings.ofJson? (value : Json) : Option DistinctSettings := do
  let record ← value.record? r.moreItems
    ["request_keys", "per_page", "value_alias", "order_by", "default_filterer", "filter_separator"]
  let stock : DistinctSettings := {}
  return {
    keys := ← member? record "request_keys" (DistinctKeys.ofJson? r) stock.keys
    perPage := ← member? record "per_page" r.word? stock.perPage
    valueAlias := ← member? record "value_alias" r.text? stock.valueAlias
    orderBy := ← member? record "order_by" (orNull? r.text?) stock.orderBy
    defaultFilterer := ← member? record "default_filterer" r.text? stock.defaultFilterer
    filterSeparator := ← member? record "filter_separator" (orNull? r.text?) stock.filterSeparator }

/-- Reads a configured addon. -/
def AddonSettings.ofJson? (value : Json) : Option AddonSettings := do
  let record ← value.record? r.moreItems ["enabled", "fields", "filter", "sort"]
  let stock : AddonSettings := {}
  return {
    enabled := ← member? record "enabled" r.flag? stock.enabled
    fields := ← member? record "fields" (list? r.text?) stock.fields
    filterer := ← member? record "filter" r.text? stock.filterer
    sortable := ← member? record "sort" r.flag? stock.sortable }

/-- Reads the settings of query definitions. -/
def DefinitionSettings.ofJson? (value : Json) : Option DefinitionSettings := do
  let record ← value.record? r.moreItems ["addons", "array_value_delimiter"]
  let stock : DefinitionSettings := {}
  return {
    addons := ← member? record "addons" (keyed? (AddonSettings.ofJson? r)) stock.addons
    valueDelimiter := ← member? record "array_value_delimiter" (orNull? r.text?) stock.valueDelimiter }

/-- Reads the formats of date attributes.  A section that is present has no storage format of its own
unless it names one. -/
def CastFormatSettings.ofJson? (value : Json) : Option CastFormatSettings := do
  let record ← value.record? r.moreItems
    ["storage_format", "get_format", "set_format", "set_parsing_default"]
  let stock : CastFormatSettings := {}
  return {
    storageFormat := ← member? record "storage_format" r.text? stock.storageFormat
    getFormat := ← member? record "get_format" (orNull? r.text?) stock.getFormat
    setFormat := ← member? record "set_format" (orNull? r.text?) stock.setFormat
    parsesOnSet := ← member? record "set_parsing_default" r.flag? stock.parsesOnSet }

/-- Reads whether documents parse what is entered. -/
def CastSettings.documentsOfJson? (stock : Bool) (value : Json) : Option Bool := do
  let record ← value.record? r.moreItems ["set_parsing_default"]
  member? record "set_parsing_default" r.flag? stock

/-- Reads the settings of date casts. -/
def CastSettings.ofJson? (value : Json) : Option CastSettings := do
  let record ← value.record? r.moreItems ["date", "datetime", "mongo"]
  let stock : CastSettings := {}
  return {
    date := ← member? record "date" (CastFormatSettings.ofJson? r) stock.date
    datetime := ← member? record "datetime" (CastFormatSettings.ofJson? r) stock.datetime
    documentsParseOnSet := ← member? record "mongo"
      (documentsOfJson? r stock.documentsParseOnSet) stock.documentsParseOnSet }

/-- Reads all settings. -/
def Settings.ofJson? (value : Json) : Option Settings := do
  let record ← value.record? r.moreItems ["filters", "distinct", "has_query_definition", "casts"]
  let stock : Settings := {}
  return {
    filters := ← member? record "filters" (FilterSettings.ofJson? r) stock.filters
    distinct := ← member? record "distinct" (DistinctSettings.ofJson? r) stock.distinct
    definitions := ← member? record "has_query_definition" (DefinitionSettings.ofJson? r) stock.definitions
    casts := ← member? record "casts" (CastSettings.ofJson? r) stock.casts }

end RequestQuery
