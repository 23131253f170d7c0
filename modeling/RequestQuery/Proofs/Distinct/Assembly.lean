import RequestQuery.Proofs.Cursor
import RequestQuery.Proofs.Distinct.Requirements
import RequestQuery.Sql.Render

/-! # How the query of a listing is put together

The program may narrow the rows of a listing down and order them before the
values are listed.  Of what it adds the conditions stay and come first; the
ordering goes, since only what is selected can be ordered by
(`DistinctListing.build_assembled`).  The limit is one more than a page holds, and
a page never holds so many that the limit does not fit in 64 bits with a sign.
-/
namespace RequestQuery

/-! ## What is added beforehand -/

namespace Select

/-- What a program adds to a query of its own. -/
structure Additions where
  conditions : List Expr := []
  order : List OrderTerm := []

/-- The query with conditions and terms of ordering behind those that it has. -/
def adding (s : Select) (added : Additions) : Select :=
  { s with conditions := s.conditions ++ added.conditions, order := s.order ++ added.order }

end Select

/-! ## The last bound value -/

namespace Statement

theorem valuesOf_append (front back : List SqlPiece) :
    valuesOf (front ++ back) = valuesOf front ++ valuesOf back := by
  induction front with
  | nil => rfl
  | cons piece rest ih => cases piece <;> simp [valuesOf, ih]

end Statement

/-- The limit of a query is the value that is bound last. -/
theorem Select.values_of_limit {s : Select} {n : Nat} (dialect : Dialect) (hlimit : s.limit = some n)
    (hoffset : s.offset = none) :
    ∃ others, (Query.statement dialect (.select s)).values = others ++ [.bigUnsigned n] := by
  -- behind the limit there could only be an offset
  have hpieces : ∃ front, s.pieces dialect = front ++ [.text " LIMIT ", .bound (.bigUnsigned n)] := by
    simp only [pieces, tailPieces, clausePieces, hlimit, hoffset, numberClause, List.append_nil,
      ← List.append_assoc]
    exact ⟨_, rfl⟩
  obtain ⟨front, hpieces⟩ := hpieces
  refine ⟨Statement.valuesOf front, ?_⟩
  rw [Query.statement, Query.pieces, hpieces, Statement.ofPieces]
  exact Statement.valuesOf_append _ _

/-! ## The parts of the query -/

/-- What the values are ordered by: the column that is configured, or their own name. -/
structure DistinctSettings.OrdersBy (s : DistinctSettings) (name : String) : Prop where
  set : ∀ column, s.orderBy = some column → Text.trim column ≠ "" → name = Text.trim column
  unset : (∀ column, s.orderBy = some column → Text.trim column = "") → name = s.valueAliasInUse

/-- The conditions of a filter: the one that it makes, if it makes one. -/
structure DistinctListing.FiltersBy (d : DistinctListing) (dialect : Dialect) (column : ColumnRef)
    (conditions : List Expr) : Prop where
  asked : ∀ text, d.request.filter = some text → ∃ filterer, d.chosenFilterer = .ok filterer ∧
    conditions = (filterer.build ⟨dialect, d.settings⟩ column (distinctFilterValue text
      (d.settings.distinct.filterSeparatorInUse d.settings.filters))).toList
  unasked : d.request.filter = none → conditions = []

/-- The conditions of a cursor: one, if there is a cursor. -/
structure Cursor.Places (cursor : Option Cursor) (value : Expr) (conditions : List Expr) : Prop where
  asked : ∀ c, cursor = some c → ∃ e, c.condition value = .ok e ∧ conditions = [e]
  unasked : cursor = none → conditions = []

/-- How many values a page holds: as many as the program asks for, or else the settings, or else fifty,
but no more than the largest page. -/
structure DistinctListing.IsPageSize (d : DistinctListing) (n : Nat) : Prop where
  asked : ∀ k, d.perPage = some k → 0 < k → n = min k 0x7FFFFFFFFFFFFFFE
  configured : (∀ k, d.perPage = some k → k = 0) → 0 < d.settings.distinct.perPage →
    n = min d.settings.distinct.perPage 0x7FFFFFFFFFFFFFFE
  unset : (∀ k, d.perPage = some k → k = 0) → d.settings.distinct.perPage = 0 → n = 50

/-- A query put together from conditions that the program added and the values of a column. -/
structure DistinctQuery.Assembled (q : DistinctQuery) (d : DistinctListing) (dialect : Dialect)
    (added : List Expr) (column : ColumnRef) : Prop where
  cursor : d.request.cursor.mapM Cursor.decode = .ok q.cursor
  valueAlias : q.valueAlias = d.settings.distinct.valueAliasInUse
  table : q.select.table = d.base.table
  distinct : q.select.distinct = true
  projections : q.select.projections = [⟨column.toExpr dialect, some q.valueAlias⟩]
  order : ∃ name direction, q.select.order = [⟨.column none name, direction⟩] ∧
    d.settings.distinct.OrdersBy name ∧
    (direction = .descending ↔ ∃ c, q.cursor = some c ∧ c.forward = false)
  conditions : ∃ filtered place, q.select.conditions = added ++ filtered ++ place ∧
    d.FiltersBy dialect column filtered ∧ Cursor.Places q.cursor (column.toExpr dialect) place
  limit : q.select.limit = some (q.perPage + 1)
  offset : q.select.offset = none
  perPage : d.IsPageSize q.perPage
  perPage_pos : 1 ≤ q.perPage
  /-- One more than that still fits, with a sign or without. -/
  perPage_le : q.perPage ≤ 0x7FFFFFFFFFFFFFFE
  bound : ∃ others, (Query.statement dialect (.select q.select)).values =
    others ++ [.bigUnsigned (q.perPage + 1)]
  fits : fitsInt64 (q.perPage + 1 : Nat) = true

theorem DistinctSettings.ordersBy_orderByInUse (s : DistinctSettings) :
    s.OrdersBy s.orderByInUse where
  set column hcolumn hne := by
    rw [orderByInUse, hcolumn, Option.getD_some, orFallback, if_neg (by simpa using hne)]
  unset hblank := by
    cases horder : s.orderBy with
    | none => exact orderByInUse_of_none horder
    | some column =>
      rw [orderByInUse, horder, Option.getD_some, hblank column horder]
      rfl

namespace DistinctListing

variable {d : DistinctListing} {dialect : Dialect}

theorem isPageSize_pageSize (d : DistinctListing) : d.IsPageSize d.pageSize where
  asked _ hasked hpos := pageSize_of_perPage hasked hpos
  configured hzero hset := by
    rw [pageSize_of_zero hzero, DistinctSettings.perPageInUse, if_neg (by omega)]
    rfl
  unset hzero hunset := by
    rw [pageSize_of_zero hzero, DistinctSettings.perPageInUse, if_pos hunset]
    rfl

theorem filtersBy_predicate? {allowed : AllowedFilter} {filterer : Option Filterer}
    (h : (d.request.filter.mapM fun _ => d.chosenFilterer) = .ok filterer) :
    d.FiltersBy dialect allowed.column (d.predicate? dialect allowed filterer).toList where
  asked text htext := by
    rw [htext, mapM_some_eq_ok] at h
    obtain ⟨chosen, hchosen, rfl⟩ := h
    exact ⟨chosen, hchosen, by simp only [predicate?, htext]⟩
  unasked hnone := by
    simp only [predicate?, hnone, Option.toList_none]

theorem places_of_mapM {cursor : Option Cursor} {value : Expr} {place : Option Expr}
    (h : cursor.mapM (Cursor.condition · value) = .ok place) :
    Cursor.Places cursor value place.toList where
  asked c hc := by
    rw [hc, mapM_some_eq_ok] at h
    obtain ⟨e, he, rfl⟩ := h
    exact ⟨e, he, rfl⟩
  unasked hnone := by
    rw [hnone] at h
    cases h
    rfl

/-- **How the query of a listing is put together.**  Whatever conditions and terms of ordering the
program adds to the query for all rows, the query that is built selects the values of the column that
the field stands for, each once and under their name, and orders by one term alone; its conditions are
those that were added, that of the filter, and that of the cursor; and its limit is one more than the
number of values on a page. -/
theorem build_assembled (d : DistinctListing) (dialect : Dialect) (q : DistinctQuery)
    (table : String) (columns : List String) (added : Select.Additions)
    (hbase : d.base = .ofTable table columns) (hhook : d.preQuery d.base = d.base.adding added)
    (hbuild : d.build dialect = .ok q) :
    ∃ fields allowed, d.definition.resolve d.table .all d.settings = .ok fields ∧
      fields.filter? d.request.field = some allowed ∧
      q.Assembled d dialect added.conditions allowed.column := by
  obtain ⟨s, cursor, place, hsource, hcursor, hplace, rfl⟩ := (d.build_eq_ok dialect).mp hbuild
  obtain ⟨fields, allowed, filterer, hfields, hallowed, hfilterer, rfl⟩ :=
    (d.source_eq_ok dialect).mp hsource
  -- what else the program added, the ordering, is not taken over
  have hadded : (d.preQuery d.base).conditions = added.conditions := by
    rw [hhook, hbase]
    rfl
  have htable : (d.preQuery d.base).table = d.base.table := by
    rw [hhook]
    rfl
  have hoffset : (d.preQuery d.base).offset = none := by
    rw [hhook, hbase]
    rfl
  have hsize : d.pageSize ≤ 0x7FFFFFFFFFFFFFFE := d.pageSize_le
  refine ⟨fields, allowed, hfields, hallowed, ?_⟩
  exact {
    cursor := hcursor
    valueAlias := rfl
    table := htable
    distinct := rfl
    projections := rfl
    order := ⟨_, _, rfl, d.settings.distinct.ordersBy_orderByInUse, direction_eq_descending_iff⟩
    conditions := by
      refine ⟨_, _, ?_, filtersBy_predicate? hfilterer, places_of_mapM hplace⟩
      rw [queryOf, hadded]
    limit := rfl
    offset := hoffset
    perPage := d.isPageSize_pageSize
    perPage_pos := d.pageSize_pos
    perPage_le := hsize
    bound := Select.values_of_limit dialect rfl hoffset
    fits := by
      have hlow : (-9223372036854775808 : Int) ≤ (d.pageSize + 1 : Nat) := by omega
      have hhigh : ((d.pageSize + 1 : Nat) : Int) ≤ 9223372036854775807 := by omega
      simp only [fitsInt64, queryOf, hlow, hhigh, decide_true, Bool.and_self] }

/-- Going backward from a name, with a filter, more to a page than any page holds, and a program that
leaves rows out and orders those that stay. -/
theorem build_assembled_backward :
    let archived : Expr := (Expr.column (some "t") "archived").compareTo .equal (.bool false)
    let d : DistinctListing :=
      { definition := { fields := [.bare "name"] }, table := ⟨"t"⟩, base := .ofTable "t" ["name"]
        request := ⟨"name", some "bw|A", some (Cursor.encode ⟨.string "Bob", false⟩)⟩, settings := {}
        preQuery := fun s => (s.filter archived).orderBy (.column none "id") .descending
        perPage := some 0xFFFFFFFFFFFFFFFF }
    ∃ q fields allowed, d.build .sqlite = .ok q ∧ q.perPage = 0x7FFFFFFFFFFFFFFE ∧
      d.definition.resolve d.table .all d.settings = .ok fields ∧
      fields.filter? d.request.field = some allowed ∧
      q.Assembled d .sqlite [archived] allowed.column := by
  have hdecode : Cursor.decode (Cursor.encode ⟨.string "Bob", false⟩) =
      .ok ⟨.string "Bob", false⟩ := Cursor.decode_encode (.string "Bob") (Nat.zero_le _)
  intro archived d
  have hresolve : d.definition.resolve d.table .all d.settings =
      .ok (.ofSpecs ⟨"t"⟩ (.bare "name" :: builtInAddon.2)) := rfl
  have htext : Domain.read "string" = .ok .text := by decide
  have hmet : ∀ r : Requirement, r.IsMet d := by
    intro r
    cases r with
    | definition => exact ⟨_, hresolve⟩
    | field =>
      intro fields hfields
      cases hresolve.symm.trans hfields
      show "name" ∈ _
      decide
    | filterer => exact fun _ _ => ⟨.text, htext⟩
    | cursor =>
      rintro text ⟨⟩
      exact ⟨_, hdecode⟩
    | comparable =>
      rintro text ⟨⟩ c hc
      cases hdecode.symm.trans hc
      exact not_false
  obtain ⟨q, hbuild⟩ := (exists_build_iff .sqlite).mpr hmet
  obtain ⟨fields, allowed, hfields, hallowed, hassembled⟩ := build_assembled d .sqlite q "t" ["name"]
    ⟨[archived], [⟨.column none "id", .descending⟩]⟩ rfl rfl hbuild
  have hperPage : q.perPage = min 0xFFFFFFFFFFFFFFFF 0x7FFFFFFFFFFFFFFE :=
    hassembled.perPage.asked _ rfl (by decide)
  exact ⟨q, fields, allowed, hbuild, hperPage.trans (by decide), hfields, hallowed, hassembled⟩

end DistinctListing
end RequestQuery
