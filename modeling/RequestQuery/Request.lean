import RequestQuery.Definition.Resolve

/-! # Requests

A request is a set of named texts.  `filter[field]` holds the value of a filter,
`sort` a list of fields, a minus before those to be sorted downwards.  A field
that the definition does not allow is an error, whether or not it has a value; a
filter without value is none.  Filters are applied in ascending order of their
fields, so the order of the parameters does not matter.
-/
namespace RequestQuery

/-! ## Parameters -/

/-- The field of a parameter that is a filter. -/
def filterField? (key : String) : Option String :=
  match Text.after? "filter[".toList key.toList with
  | none => none
  | some rest =>
    match rest.reverse with
    | ']' :: field => if field.isEmpty then none else some (String.ofList field.reverse)
    | _ => none

/-- The filters of some parameters, in ascending order of their fields. -/
def filterParams (params : Keyed String) : Keyed String :=
  Keyed.sorted (params.filterMap fun (key, value) => (filterField? key).map (·, value))

/-- A field to sort by. -/
structure SortDirective where
  field : String
  direction : Direction
  deriving DecidableEq, Repr

/-- The directive of a word: a minus means downwards, a plus or nothing upwards. -/
def SortDirective.ofToken : List Char → SortDirective
  | '-' :: field => ⟨String.ofList field, .descending⟩
  | '+' :: field => ⟨String.ofList field, .ascending⟩
  | field => ⟨String.ofList field, .ascending⟩

/-- The directives of a text with commas between them. -/
def sortParam (sort : String) : List SortDirective :=
  (((Text.pieces [','] sort.toList).map Text.trimChars).filter (!·.isEmpty)).map SortDirective.ofToken

/-! ## Applying them -/

namespace ResolvedFields

variable {τ : Type} [QueryTarget τ] (r : ResolvedFields) (ctx : FilterContext)

/-- The condition of one filter is appended, if it has a value and makes one. -/
def applyFilter (target : τ) (filter : AllowedFilter) (value : String) : τ :=
  if value.isEmpty then target
  else filter.filterer.apply ctx target filter.column
    (.ofRequest value (ctx.settings.definitions.valueDelimiterInUse ctx.settings.filters))

/-- Applies filters in their order, up to the first that is not allowed.  The target is as the filters
before it have left it. -/
def applyFilters (target : τ) : Keyed String → τ × Except QueryError Unit
  | [] => (target, .ok ())
  | (field, value) :: rest =>
    match r.filter? field with
    | none => (target, .error (.filterNotAllowed field))
    | some filter => applyFilters (applyFilter ctx target filter value) rest

/-- The query with one more term of ordering, or with whatever an ordering of its own makes of it. -/
def applySort (s : Select) (target : SortTarget) (direction : Direction) : Select :=
  match target with
  | .column c => s.orderBy (c.toExpr ctx.dialect) direction
  | .custom sort => sort s direction

/-- Applies directives in their order. -/
def applySorts (s : Select) : List SortDirective → Except QueryError Select
  | [] => .ok s
  | directive :: rest =>
    match r.sort? directive.field with
    | none => .error (.sortNotAllowed directive.field)
    | some target => applySorts (applySort ctx s target directive.direction) rest

/-- Applies the filters and the ordering of a request. -/
def applyParams (s : Select) (params : Keyed String) : Except QueryError Select := do
  let (s, outcome) := r.applyFilters ctx s (filterParams params)
  outcome
  match params.get? "sort" with
  | some sort => r.applySorts ctx s (sortParam sort)
  | none => return s

end ResolvedFields
end RequestQuery
