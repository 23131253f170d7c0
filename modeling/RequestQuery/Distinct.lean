import RequestQuery.Cursor
import RequestQuery.Definition.Resolve

/-! # Distinct values

A listing of the distinct values of one field, for the choices of a filter.  The
values may be filtered themselves and come page by page.  The query selects the
value alone, under a name, orders by it, and takes up again at a cursor with a
condition on the column, since a name cannot be used in a condition.

Nulls are taken to come first.
-/
namespace RequestQuery

/-- What a request for distinct values says. -/
structure DistinctRequest where
  field : String
  filter : Option String := none
  cursor : Option String := none
  deriving DecidableEq, Repr

namespace DistinctRequest

/-- The parameter of a key, unless it is empty. -/
def param? (params : Keyed String) (key : String) : Option String :=
  (params.get? key).filter (!·.isEmpty)

/-- The request of some parameters, if they ask for distinct values. -/
def ofParams? (params : Keyed String) (settings : Settings) : Option DistinctRequest := do
  let keys := settings.distinct.keys
  let field ← param? params keys.field
  return ⟨field, param? params keys.filter, param? params keys.cursor⟩

end DistinctRequest

/-- The largest number of values on a page: with one more, the limit still fits in 64 bits with a sign. -/
def largestPage : Nat := 0x7FFFFFFFFFFFFFFE

/-- A listing of distinct values of an entity: its definition and all rows of its table, what is asked
for, and how the program that answers wants it. -/
structure DistinctListing where
  definition : QueryDefinition
  table : TableRef
  base : Select
  request : DistinctRequest
  settings : Settings
  /-- Narrows the rows down before anything else. -/
  preQuery : Select → Select := id
  filterer : Option Filterer := none
  perPage : Option Nat := none

/-- The query of a listing, and what is needed to make a page of its rows. -/
structure DistinctQuery where
  select : Select
  cursor : Option Cursor
  perPage : Nat
  valueAlias : String

/-- The value of a filter on distinct values: a list if the separator occurs in it. -/
def distinctFilterValue (text separator : String) : RawValue :=
  match Text.splitAt separator text with
  | [_] => .single text
  | parts => .list (parts.map Text.trim)

/-- The condition for the rows behind a cursor, or before it. -/
def Cursor.condition (c : Cursor) (value : Expr) : Except QueryError Expr := do
  return match ← c.sqlValue, c.forward with
    | some v, true => value.compareTo .greater v
    | some v, false => .either (value.compareTo .less v) (.isNull value)
    | none, true => .isNotNull value
    | none, false => (Expr.value (.int 1)).compareTo .equal (.int 0)

namespace DistinctListing

/-- The filterer for the values: the one that was given, or the configured one. -/
def chosenFilterer (d : DistinctListing) : Except QueryError Filterer :=
  match d.filterer with
  | some filterer => .ok filterer
  | none => Filterer.named d.settings.distinct.defaultFilterer

/-- The number of values on a page. -/
def pageSize (d : DistinctListing) : Nat :=
  let wanted := match d.perPage with
    | some n => if 0 < n then n else d.settings.distinct.perPageInUse
    | none => d.settings.distinct.perPageInUse
  min wanted largestPage

/-- The direction in which the values are fetched. -/
def direction : Option Cursor → Direction
  | some cursor => if cursor.forward then .ascending else .descending
  | none => .ascending

/-- The query for all values of a column, in order. -/
def valuesOf (d : DistinctListing) (value : Expr) (direction : Direction) : Select :=
  let s := d.preQuery d.base
  { s with
    distinct := true
    projections := [{ expr := value, alias? := some d.settings.distinct.valueAliasInUse }]
    order := [⟨.column none d.settings.distinct.orderByInUse, direction⟩] }

/-- The query of a listing. -/
def build (d : DistinctListing) (dialect : Dialect) : Except QueryError DistinctQuery := do
  let fields ← d.definition.resolve d.table .all d.settings
  let some allowed := fields.filter? d.request.field | .error .invalidDistinctField
  let filterer ← d.request.filter.mapM fun _ => d.chosenFilterer
  let cursor ← d.request.cursor.mapM Cursor.decode
  let value := allowed.column.toExpr dialect
  let values := d.valuesOf value (direction cursor)
  let filtered := match d.request.filter, filterer with
    | some text, some filterer =>
      filterer.apply ⟨dialect, d.settings⟩ values allowed.column
        (distinctFilterValue text (d.settings.distinct.filterSeparatorInUse d.settings.filters))
    | _, _ => values
  let placed ← match cursor with
    | some cursor => do pure (filtered.filter (← cursor.condition value))
    | none => pure filtered
  return {
    select := { placed with limit := some (d.pageSize + 1) }
    cursor
    perPage := d.pageSize
    valueAlias := d.settings.distinct.valueAliasInUse }

end DistinctListing

/-- The page of the rows that a database answers, each an object. -/
def DistinctQuery.page (q : DistinctQuery) (rows : List Json) : Page Json :=
  .ofRows (rows.map fun row => (row.member? q.valueAlias).getD .null) q.perPage q.cursor id

end RequestQuery
