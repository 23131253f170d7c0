import RequestQuery.Distinct

/-! # What a listing reads from

A listing is resolved to an expression for its values and the conditions of the
rows it reads, its source.  The cursor has no part in that: it only adds a
condition of its own and turns the direction (`build_eq`).  So the pages of one
listing all read from one source.
-/
namespace RequestQuery

/-- A choice that is made of something is made of what there is. -/
theorem mapM_some_eq_ok {α β ε : Type} {f : α → Except ε β} {a : α} {r : Option β} :
    (some a).mapM f = .ok r ↔ ∃ b, f a = .ok b ∧ some b = r := by
  rw [Option.mapM_some]
  cases f a with
  | error e => simp [Functor.map, Except.map]
  | ok b => simp [Functor.map, Except.map]

/-- Where a choice is made of something and fails, there is something. -/
theorem exists_of_mapM_eq_error {α β ε : Type} {f : α → Except ε β} {x : Option α} {e : ε}
    (h : x.mapM f = .error e) : ∃ a, x = some a ∧ f a = .error e := by
  cases x with
  | none => cases h
  | some a =>
    rw [Option.mapM_some] at h
    cases ha : f a with
    | ok b =>
      rw [ha] at h
      cases h
    | error e' =>
      rw [ha] at h
      cases h
      exact ⟨a, rfl, ha⟩

namespace Cursor

/-- The condition for what is behind a value, or the null, or before it. -/
def placeOf (forward : Bool) (value : Expr) : Option SqlValue → Expr
  | some v =>
    if forward then value.compareTo .greater v
    else .either (value.compareTo .less v) (.isNull value)
  | none => if forward then .isNotNull value else (Expr.value (.int 1)).compareTo .equal (.int 0)

/-- What it takes for a cursor to have a condition. -/
theorem condition_eq_ok {c : Cursor} {value place : Expr} : c.condition value = .ok place ↔
    ∃ v, c.sqlValue = .ok v ∧ placeOf c.forward value v = place := by
  unfold condition
  cases c.sqlValue with
  | error e => simp [bind, Except.bind]
  | ok v => cases v <;> cases c.forward <;> simp [placeOf, bind, Except.bind, pure, Except.pure]

end Cursor

/-- What a listing reads: the expression of its values, and the conditions of its rows. -/
structure DistinctSource where
  value : Expr
  conditions : List Expr

/-- Unless something else is set, values are ordered by themselves. -/
theorem DistinctSettings.orderByInUse_of_none {d : DistinctSettings} (h : d.orderBy = none) :
    d.orderByInUse = d.valueAliasInUse := by
  have htrim : Text.trim "" = "" := rfl
  simp [orderByInUse, h, orFallback, htrim]

namespace DistinctListing

/-- The listing at another place. -/
def withCursor (d : DistinctListing) (cursor : Option String) : DistinctListing :=
  { d with request := { d.request with cursor } }

/-- The condition of the filter on the values, if there is one. -/
def predicate? (d : DistinctListing) (dialect : Dialect) (allowed : AllowedFilter)
    (filterer : Option Filterer) : Option Expr :=
  match d.request.filter, filterer with
  | some text, some filterer =>
    filterer.build ⟨dialect, d.settings⟩ allowed.column
      (distinctFilterValue text (d.settings.distinct.filterSeparatorInUse d.settings.filters))
  | _, _ => none

/-- The source of a listing. -/
def source (d : DistinctListing) (dialect : Dialect) : Except QueryError DistinctSource := do
  let fields ← d.definition.resolve d.table .all d.settings
  let some allowed := fields.filter? d.request.field | .error .invalidDistinctField
  let filterer ← d.request.filter.mapM fun _ => d.chosenFilterer
  return {
    value := allowed.column.toExpr dialect
    conditions := (d.preQuery d.base).conditions ++ (d.predicate? dialect allowed filterer).toList }

/-- The query of the page at a place, the condition of the place given. -/
def queryOf (d : DistinctListing) (s : DistinctSource) (cursor : Option Cursor)
    (place : Option Expr) : DistinctQuery where
  select := { d.valuesOf s.value (direction cursor) with
    conditions := s.conditions ++ place.toList
    limit := some (d.pageSize + 1) }
  cursor
  perPage := d.pageSize
  valueAlias := d.settings.distinct.valueAliasInUse

theorem pageSize_pos (d : DistinctListing) : 0 < d.pageSize := by
  have hlargest : 0 < largestPage := by decide
  have hsettings : 0 < d.settings.distinct.perPageInUse := by
    unfold DistinctSettings.perPageInUse
    split <;> omega
  unfold pageSize
  refine Nat.lt_min.mpr ⟨?_, hlargest⟩
  split
  · split
    · assumption
    · exact hsettings
  · exact hsettings

theorem pageSize_of_perPage {d : DistinctListing} {n : Nat} (h : d.perPage = some n) (hn : 0 < n) :
    d.pageSize = min n largestPage := by
  simp [pageSize, h, hn]

/-- To ask for pages without values is to ask for none in particular. -/
theorem pageSize_of_zero {d : DistinctListing} (h : ∀ n, d.perPage = some n → n = 0) :
    d.pageSize = min d.settings.distinct.perPageInUse largestPage := by
  unfold pageSize
  cases hperPage : d.perPage with
  | none => rfl
  | some n => simp [h n hperPage]

theorem pageSize_le (d : DistinctListing) : d.pageSize ≤ largestPage :=
  Nat.min_le_right _ _

theorem direction_eq_descending_iff {cursor : Option Cursor} :
    direction cursor = .descending ↔ ∃ c, cursor = some c ∧ c.forward = false := by
  cases cursor with
  | none => simp [direction]
  | some c => cases h : c.forward <;> simp [direction, h]

variable (d : DistinctListing) (dialect : Dialect)

/-- A filter adds its condition, if it has one, to those of the query. -/
theorem apply_select (f : Filterer) (ctx : FilterContext) (s : Select) (c : ColumnRef)
    (value : RawValue) :
    f.apply ctx s c value =
      { s with conditions := s.conditions ++ (f.build ctx c value).toList } := by
  unfold Filterer.apply
  cases f.build ctx c value with
  | none => simp
  | some e => rfl

/-- What it takes for a listing to have a source. -/
theorem source_eq_ok {s : DistinctSource} : d.source dialect = .ok s ↔
    ∃ fields allowed filterer, d.definition.resolve d.table .all d.settings = .ok fields ∧
      fields.filter? d.request.field = some allowed ∧
      (d.request.filter.mapM fun _ => d.chosenFilterer) = .ok filterer ∧
      s = ⟨allowed.column.toExpr dialect,
        (d.preQuery d.base).conditions ++ (d.predicate? dialect allowed filterer).toList⟩ := by
  unfold source
  cases d.definition.resolve d.table .all d.settings with
  | error e => simp [bind, Except.bind]
  | ok fields =>
    cases hallowed : fields.filter? d.request.field with
    | none => simp [hallowed, bind, Except.bind]
    | some allowed =>
      cases d.request.filter.mapM fun _ => d.chosenFilterer with
      | error e => simp [hallowed, bind, Except.bind]
      | ok filterer => simp [hallowed, bind, Except.bind, pure, Except.pure, eq_comm]

/-- A query is built in three steps: the source, the cursor, and the condition of its place. -/
theorem build_eq : d.build dialect = do
    let s ← d.source dialect
    let cursor ← d.request.cursor.mapM Cursor.decode
    let place ← cursor.mapM (Cursor.condition · s.value)
    return d.queryOf s cursor place := by
  unfold build source predicate?
  cases d.definition.resolve d.table .all d.settings with
  | error e => rfl
  | ok fields =>
    simp only [bind, Except.bind]
    cases fields.filter? d.request.field with
    | none => rfl
    | some allowed =>
      cases d.request.filter with
      | none =>
        cases d.request.cursor.mapM Cursor.decode with
        | error e => rfl
        | ok cursor =>
          rcases cursor with _ | c
          · simp [queryOf, valuesOf, pure, Except.pure]
          · cases h : c.condition (allowed.column.toExpr dialect) <;>
              simp [h, pure, Except.pure, Functor.map, Except.map, queryOf, valuesOf, Select.filter]
      | some text =>
        cases d.chosenFilterer with
        | error e => rfl
        | ok filterer =>
          cases d.request.cursor.mapM Cursor.decode with
          | error e => rfl
          | ok cursor =>
            rcases cursor with _ | c
            · simp [queryOf, valuesOf, pure, Except.pure, Functor.map, Except.map, apply_select]
            · cases h : c.condition (allowed.column.toExpr dialect) <;>
                simp [h, pure, Except.pure, Functor.map, Except.map, apply_select, queryOf,
                  valuesOf, Select.filter]

/-- What it takes for a query to be built. -/
theorem build_eq_ok {q : DistinctQuery} : d.build dialect = .ok q ↔
    ∃ s cursor place, d.source dialect = .ok s ∧ d.request.cursor.mapM Cursor.decode = .ok cursor ∧
      cursor.mapM (Cursor.condition · s.value) = .ok place ∧ d.queryOf s cursor place = q := by
  rw [build_eq]
  cases d.source dialect with
  | error e => simp [bind, Except.bind]
  | ok s =>
    cases d.request.cursor.mapM Cursor.decode with
    | error e => simp [bind, Except.bind]
    | ok cursor =>
      cases h : cursor.mapM (Cursor.condition · s.value) with
      | error e => simp [bind, Except.bind, h]
      | ok place => simp [bind, Except.bind, pure, Except.pure, h]

end DistinctListing
end RequestQuery
