import RequestQuery.Filter.Filterer

/-! # Query definitions

An entity declares which fields a request may filter and sort by, and what each
stands for in the database.  A field can be declared by its name alone, with a
column, or with all its options.  Further fields come in named groups, the
addons, that are added on request.
-/
namespace RequestQuery

/-- A table of the database. -/
structure TableRef where
  name : String
  deriving DecidableEq, Repr

/-- The qualified name of a column. -/
def TableRef.column (t : TableRef) (field : String) : String :=
  t.name ++ "." ++ field

/-- An ordering of its own that an entity brings along. -/
abbrev CustomSort := Select → Direction → Select

/-- A field with all its options.  Without a filterer it is compared as a text; it can be sorted by
only if that is said. -/
structure FieldDefinition where
  name : String
  filterer : Option Filterer := none
  customFilter : Option (FilterContext → ColumnRef → RawValue → Option Expr) := none
  /-- A table, or a qualified column. -/
  internal : Option String := none
  sortable : Option Bool := none
  customSort : Option CustomSort := none

/-- The declaration of a field. -/
inductive FieldSpec where
  /-- A text in the column of the same name, sortable. -/
  | bare (name : String)
  /-- A text in another column, sortable. -/
  | aliased (name internal : String)
  | full (definition : FieldDefinition)

/-- The name of a field. -/
def FieldSpec.name : FieldSpec → String
  | bare name => name
  | aliased name _ => name
  | full definition => definition.name

/-- The fields of an entity, and its addons. -/
structure QueryDefinition where
  fields : List FieldSpec := []
  addons : Keyed (List FieldSpec) := []

/-- Which addons are added to the fields. -/
inductive AddonSelection where
  | none
  | all
  | named (names : List String)
  deriving DecidableEq, Repr

namespace AddonSelection

/-- The selection of a text: a star for all addons, or names with commas between them. -/
def read (s : String) : AddonSelection :=
  let s := Text.trim s
  if s = "*" then all
  else match ((Text.splitAt "," s).map Text.trim).filter (!·.isEmpty) with
    | [] => none
    | names => named names

end AddonSelection
end RequestQuery
