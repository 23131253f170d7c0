import RequestQuery.Definition.Resolve
import RequestQuery.Text.Quoted

/-! # Descriptions

How operators, filterers and fields are described to a developer.  What an
entity brings along itself is a function and has no description: only that it is
there is told.
-/
namespace RequestQuery

/-- The title of a domain. -/
def Domain.title : Domain → String
  | .text => "String"
  | .number => "Number"
  | .date => "Date"

/-- The title of what an operator takes. -/
def Arity.title : Arity → String
  | .unary => "Unary"
  | .range => "Range"
  | .list => "List"
  | .solo => "Solo"

/-- The title of a filterer. -/
def Filterer.title : Filterer → String
  | .builtIn domain => domain.title
  | .custom _ => "Callback(..)"

/-- The title of what a field is sorted by, if it is an ordering of its own. -/
def SortTarget.title : SortTarget → String
  | .column c => c.display
  | .custom _ => "Callback(..)"

namespace Describe

/-- A description of members under the name of their type. -/
def record (type : String) (members : List String) : String :=
  type ++ " \x7b " ++ ", ".intercalate members ++ " \x7d"

/-- A member that may be missing. -/
def optional (described : Option String) : String :=
  match described with
  | some text => "Some(" ++ text ++ ")"
  | none => "None"

/-- A truth value. -/
def flag (b : Bool) : String :=
  if b then "true" else "false"

end Describe

/-- The description of an operator of a domain. -/
def Domain.describeOperator (domain : Domain) (code : String) (arity : Arity) : String :=
  Describe.record "FilterOperator"
    ["code: " ++ Text.quoted code, "domain: " ++ domain.title, "arity: " ++ arity.title, ".."]

/-- The description of a field. -/
def FieldDefinition.describe (d : FieldDefinition) : String :=
  Describe.record "FieldDefinition"
    ["name: " ++ Text.quoted d.name,
      "filter: " ++ Describe.optional (d.filterer.map Filterer.title),
      "cfilter: " ++ Describe.flag d.customFilter.isSome,
      "internal: " ++ Describe.optional (d.internal.map Text.quoted),
      "sort: " ++ Describe.optional (d.sortable.map Describe.flag),
      "csort: " ++ Describe.flag d.customSort.isSome]

end RequestQuery
