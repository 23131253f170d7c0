import RequestQuery.Definition.Basic

/-! # Resolving definitions

Resolving binds every field to a column and a filterer, and every sortable field
to what it is sorted by.  Names are unique: a later declaration takes the place
of an earlier one.  Addons come from the settings, or are the built-in one if
none is configured, and from the entity, which may replace the former.
-/
namespace RequestQuery

/-- What a field is filtered by. -/
structure AllowedFilter where
  column : ColumnRef
  filterer : Filterer

/-- What a field is sorted by. -/
inductive SortTarget where
  | column (c : ColumnRef)
  | custom (sort : CustomSort)

/-- The fields that a request may filter and sort by, in order of first declaration. -/
structure ResolvedFields where
  filters : Keyed AllowedFilter := []
  sorts : Keyed SortTarget := []

/-! ## One field -/

/-- The column of a field that names a table or a qualified column. -/
def qualify (internal field : String) : String :=
  if Text.contains internal "." then internal else internal ++ "." ++ field

namespace FieldDefinition

/-- The column of a field. -/
def column (d : FieldDefinition) (table : TableRef) : ColumnRef :=
  ColumnRef.parse <| match d.internal with
    | some internal => if internal.isEmpty then table.column d.name else qualify internal d.name
    | none => table.column d.name

/-- The filterer of a field: a named one before one of its own before the one for texts. -/
def effectiveFilterer (d : FieldDefinition) : Filterer :=
  match d.filterer, d.customFilter with
  | some filterer, _ => filterer
  | none, some build => .custom build
  | none, none => .builtIn .text

/-- What a field is sorted by: its own ordering, or its column if it is said to be sortable. -/
def sortTarget? (d : FieldDefinition) (table : TableRef) : Option SortTarget :=
  match d.customSort with
  | some sort => some (.custom sort)
  | none => if d.sortable = some true then some (.column (d.column table)) else none

end FieldDefinition

namespace FieldSpec

/-- What the field is filtered by. -/
def filter (table : TableRef) : FieldSpec → AllowedFilter
  | bare name => ⟨.parse (table.column name), .builtIn .text⟩
  | aliased _ internal => ⟨.parse internal, .builtIn .text⟩
  | full d => ⟨d.column table, d.effectiveFilterer⟩

/-- What the field is sorted by. -/
def sort? (table : TableRef) : FieldSpec → Option SortTarget
  | bare name => some (.column (.parse (table.column name)))
  | aliased _ internal => some (.column (.parse internal))
  | full d => d.sortTarget? table

end FieldSpec

/-! ## Many fields -/

namespace ResolvedFields

/-- What a name is filtered by. -/
def filter? (r : ResolvedFields) (name : String) : Option AllowedFilter :=
  r.filters.get? name

/-- What a name is sorted by. -/
def sort? (r : ResolvedFields) (name : String) : Option SortTarget :=
  r.sorts.get? name

/-- Adds a field.  What an earlier field of the name is sorted by stays if the field is not sortable. -/
def add (table : TableRef) (r : ResolvedFields) (spec : FieldSpec) : ResolvedFields :=
  { filters := r.filters.upsert spec.name (spec.filter table)
    sorts := match spec.sort? table with
      | some target => r.sorts.upsert spec.name target
      | none => r.sorts }

/-- Adds fields one after the other. -/
def merge (table : TableRef) (r : ResolvedFields) (specs : List FieldSpec) : ResolvedFields :=
  specs.foldl (add table) r

/-- The resolved fields of some declarations. -/
def ofSpecs (table : TableRef) (specs : List FieldSpec) : ResolvedFields :=
  merge table {} specs

end ResolvedFields

/-! ## Addons -/

/-- The addon that there is if none is configured. -/
def builtInAddon : String × List FieldSpec :=
  ("dates", ["created_at", "updated_at"].map fun name =>
    .full { name, filterer := some (.builtIn .date), sortable := some true })

/-- The fields of a configured addon, if it is enabled and has any. -/
def AddonSettings.specs? (a : AddonSettings) : Except QueryError (Option (List FieldSpec)) :=
  if !a.enabled then .ok none
  else do
    let filterer ← Filterer.named a.filterer
    let names := a.fields.filter (!·.isEmpty)
    if names.isEmpty then return none
    else return some (names.map fun name =>
      .full { name, filterer := some filterer, sortable := some a.sortable })

/-- The fields of some configured addons. -/
def configuredAddons : Keyed AddonSettings → Except QueryError (Keyed (List FieldSpec))
  | [] => .ok []
  | (name, addon) :: rest => do
    let specs ← addon.specs?
    let rest ← configuredAddons rest
    return match specs with
      | some specs => (name, specs) :: rest
      | none => rest

/-- The addons of every entity. -/
def Settings.addons (s : Settings) : Except QueryError (Keyed (List FieldSpec)) :=
  if s.definitions.addons.isEmpty then .ok [builtInAddon] else configuredAddons s.definitions.addons

namespace QueryDefinition

/-- The addons that can be selected: those of every entity, and those of this one. -/
def available (d : QueryDefinition) (settings : Settings) : Except QueryError (Keyed (List FieldSpec)) := do
  return d.addons.foldl (fun known (name, specs) => known.upsert name specs) (← settings.addons)

/-- The fields of the selected addons, in the order of the selection. -/
def selected (available : Keyed (List FieldSpec)) : AddonSelection → Except QueryError (List FieldSpec)
  | .none => .ok []
  | .all => .ok (available.flatMap Prod.snd)
  | .named names => do
    let groups ← names.mapM fun name =>
      match available.get? name with
      | some specs => Except.ok specs
      | none => .error (.unknownAddon name)
    return groups.flatten

/-- The fields of an entity and of the selected addons. -/
def resolve (d : QueryDefinition) (table : TableRef) (selection : AddonSelection) (settings : Settings) :
    Except QueryError ResolvedFields := do
  let available ← d.available settings
  return .ofSpecs table (d.fields ++ (← selected available selection))

/-- The column of a field, looked up among the fields of the entity and of all addons. -/
def internalName (d : QueryDefinition) (table : TableRef) (field : String) (settings : Settings) :
    Except QueryError (Option ColumnRef) := do
  return ((← d.resolve table .all settings).filter? field).map (·.column)

end QueryDefinition
end RequestQuery
