import Mathlib
import RequestQuery.Proofs.Chunk
import RequestQuery.Proofs.Cursor
import RequestQuery.Proofs.Distinct.Source
import RequestQuery.Proofs.Sql.Answer

/-! # The page at a place

The values of a listing are those that its expression has in the rows its
conditions admit.  Behind a cursor, or before it, are those of them for which the
condition of the cursor holds, and the page shows the first of these
(`Lists.pageAt_cursor`).

A cursor is at the null, at a text or at an integer of 64 bits; such a value is
read back from the text of its cursor as the value of the row that it was taken
from.
-/
namespace RequestQuery

/-! ## Values of rows as places -/

namespace Datum

/-- A value as the rows of an answer hold it. -/
def toJson : Datum → Json
  | null => .null
  | bool b => .bool b
  | int i => .ofInt i
  | real x => .number (.real x)
  | text s => .string s
  | date d => .string (String.ofList d.chars)

/-- The values of a column of texts or of integers of 64 bits, nulls among them. -/
def IsKey (a : Datum) : Prop := a = null ∨ a.IsText ∨ a.IsInt64

variable {a : Datum}

theorem IsKey.isExact (h : a.IsKey) : a.toJson.IsExact := by
  rcases h with rfl | ⟨s, rfl⟩ | ⟨i, rfl, hi⟩
  · exact .null
  · exact .string s
  · simp only [fitsInt64, Bool.and_eq_true, decide_eq_true_eq] at hi
    exact .integer hi.1 (by omega)

theorem IsKey.depth_toJson (h : a.IsKey) : a.toJson.depth = 0 := by
  rcases h with rfl | ⟨s, rfl⟩ | ⟨i, rfl, hi⟩ <;> rfl

/-- A cursor at a value that is not null is compared with by that value. -/
theorem IsKey.sqlValue (h : a.IsKey) (hnull : a ≠ null) (forward : Bool) :
    ∃ v, (⟨a.toJson, forward⟩ : Cursor).sqlValue = .ok (some v) ∧ ofSqlValue v = a := by
  rcases h with rfl | ⟨s, rfl⟩ | ⟨i, rfl, hi⟩
  · exact absurd rfl hnull
  · exact ⟨.text s, rfl, rfl⟩
  · refine ⟨.bigInt i, ?_, rfl⟩
    simp [toJson, Json.ofInt, Cursor.sqlValue, Cursor.numberValue, hi]

end Datum

/-! ## Values strictly in order -/

section
variable {α : Type} {R : α → α → Prop} [Std.Irrefl R] [Std.Antisymm R] {items : List α}

/-- In a list strictly in order what follows an item is what comes after it. -/
theorem mem_back_iff {front back : List α} {x a : α} (h : (front ++ x :: back).Pairwise R) :
    a ∈ back ↔ a ∈ front ++ x :: back ∧ R x a := by
  obtain ⟨-, hback, hfront⟩ := List.pairwise_append.mp h
  rw [List.mem_append, List.mem_cons]
  constructor
  · intro ha
    exact ⟨.inr (.inr ha), List.rel_of_pairwise_cons hback ha⟩
  · rintro ⟨ha | rfl | ha, hxa⟩
    · exact absurd hxa (antisymm hxa (hfront a ha x List.mem_cons_self) ▸ irrefl _)
    · exact absurd hxa (irrefl _)
    · exact ha

/-- In a list strictly in order what precedes an item is what comes before it. -/
theorem mem_front_iff {front back : List α} {x a : α} (h : (front ++ x :: back).Pairwise R) :
    a ∈ front ↔ a ∈ front ++ x :: back ∧ R a x := by
  obtain ⟨-, hback, hfront⟩ := List.pairwise_append.mp h
  rw [List.mem_append, List.mem_cons]
  constructor
  · intro ha
    exact ⟨.inl ha, hfront a ha x List.mem_cons_self⟩
  · rintro ⟨ha | rfl | ha, hax⟩
    · exact ha
    · exact absurd hax (irrefl _)
    · exact absurd hax (antisymm hax (List.rel_of_pairwise_cons hback ha) ▸ irrefl _)

theorem take_append_getElem_drop {k : Nat} (hk : k < items.length) :
    items.take k ++ items[k] :: items.drop (k + 1) = items := by
  rw [← List.drop_eq_getElem_cons hk, List.take_append_drop]

theorem mem_drop_of_pairwise (h : items.Pairwise R) {k : Nat} (hk : k < items.length) {a : α} :
    a ∈ items.drop (k + 1) ↔ a ∈ items ∧ R items[k] a := by
  have hsplit := take_append_getElem_drop hk
  rw [mem_back_iff (hsplit.symm ▸ h), hsplit]

theorem mem_take_of_pairwise (h : items.Pairwise R) {k : Nat} (hk : k < items.length) {a : α} :
    a ∈ items.take k ↔ a ∈ items ∧ R a items[k] := by
  have hsplit := take_append_getElem_drop hk
  rw [mem_front_iff (hsplit.symm ▸ h), hsplit]

end

/-! ## Conditions of places -/

namespace Cursor

variable {E : Engine} {x : Datum} (value : Expr)

/-- Behind a value are those that come after it upwards, but for the null. -/
theorem condition_after (hx : x.IsKey) (hnull : x ≠ .null) :
    ∃ place, condition ⟨x.toJson, true⟩ value = .ok place ∧ ∀ row, place.Holds E row ↔
      value.eval E row ≠ .null ∧ E.Before .ascending x (value.eval E row) := by
  obtain ⟨v, hv, rfl⟩ := hx.sqlValue hnull true
  refine ⟨value.compareTo .greater v, condition_eq_ok.mpr ⟨some v, hv, rfl⟩, fun row => ?_⟩
  rw [Expr.holds_compareTo]
  refine and_congr_right fun hvalue => ?_
  simp [Engine.Before, Engine.inOrder, Engine.ascends, Engine.relates, hvalue, hnull]

/-- Behind the null are all values that are not null. -/
theorem condition_after_null :
    ∃ place, condition ⟨Datum.null.toJson, true⟩ value = .ok place ∧ ∀ row, place.Holds E row ↔
      value.eval E row ≠ .null :=
  ⟨.isNotNull value, rfl, fun _ => Expr.holds_isNotNull⟩

/-- Before a value are those that come before it upwards, where the null does as well. -/
theorem condition_before (hx : x.IsKey) (hnull : x ≠ .null) (hfirst : E.dialect.nullsFirst = true) :
    ∃ place, condition ⟨x.toJson, false⟩ value = .ok place ∧ ∀ row, place.Holds E row ↔
      E.Before .ascending (value.eval E row) x := by
  obtain ⟨v, hv, rfl⟩ := hx.sqlValue hnull false
  refine ⟨.either (value.compareTo .less v) (.isNull value),
    condition_eq_ok.mpr ⟨some v, hv, rfl⟩, fun row => ?_⟩
  rw [Expr.holds_either, Expr.holds_compareTo, Expr.holds_isNull]
  by_cases hvalue : value.eval E row = .null <;>
    simp [Engine.Before, Engine.inOrder, Engine.ascends, Engine.relates, hvalue, hnull, hfirst]

end Cursor

/-! ## Pages -/

namespace Select

/-- The name under which something selected stands in the rows. -/
def nameOf (p : Projection) : String :=
  match p.alias?, p.expr with
  | some name, _ => name
  | none, .column _ name => name
  | none, _ => ""

/-- The rows that a query is answered with, as objects. -/
def objects (E : Engine) (s : Select) (rows : List Row) : List Json :=
  (s.answer E rows).map fun values =>
    .ofMembers ((s.projections.map nameOf).zip (values.map Datum.toJson))

end Select

namespace DistinctListing

variable (d : DistinctListing) (E : Engine) (rows : List Row)

/-- The page at a place, given by the text of its cursor, or the first page. -/
def pageAt (cursor : Option String) : Except QueryError (Page Json) := do
  let q ← (d.withCursor cursor).build E.dialect
  return q.page (q.select.objects E rows)

/-- A listing whose values, upwards, are some texts or integers of 64 bits, with or without the
null.  It reads from a source, from the first row on, and is ordered by its values. -/
structure Lists (s : DistinctSource) (values : List Datum) : Prop where
  source : d.source E.dialect = .ok s
  offset : (d.preQuery d.base).offset = none
  order : d.settings.distinct.orderByInUse = d.settings.distinct.valueAliasInUse
  ascending : values.Pairwise (E.Before .ascending)
  mem : ∀ a, a ∈ values ↔ ∃ row ∈ rows, (∀ e ∈ s.conditions, e.Holds E row) ∧ s.value.eval E row = a
  isKey : ∀ a ∈ values, a.IsKey

variable {d E rows} {s : DistinctSource} {values : List Datum}

/-- A page shows the values of the rows that fulfil the condition of its place as well. -/
theorem Lists.pageAt_eq (h : d.Lists E rows s values) {text : Option String}
    {cursor : Option Cursor} {place : Option Expr} {shown : List Datum}
    (hdecode : text.mapM Cursor.decode = .ok cursor)
    (hplace : cursor.mapM (Cursor.condition · s.value) = .ok place)
    (hshown : shown.Pairwise (E.Before (direction cursor)))
    (hmem : ∀ a, a ∈ shown ↔ ∃ row ∈ rows, (∀ e ∈ s.conditions ++ place.toList, e.Holds E row) ∧
      s.value.eval E row = a) :
    d.pageAt E rows text =
      .ok (.ofRows ((shown.map Datum.toJson).take (d.pageSize + 1)) d.pageSize cursor id) := by
  have hbuild : (d.withCursor text).build E.dialect = .ok (d.queryOf s cursor place) :=
    (build_eq_ok ..).mpr ⟨s, cursor, place, h.source, hdecode, hplace, rfl⟩
  have hanswer : (d.queryOf s cursor place).select.answer E rows =
      (shown.take (d.pageSize + 1)).map ([·]) := by
    refine Select.answer_distinct rfl rfl ?_ h.offset rfl hshown fun a => ?_
    · simp [queryOf, valuesOf, h.order]
    · simp only [hmem, Select.mem_admitted, queryOf, and_assoc]
  have hobjects : (d.queryOf s cursor place).select.objects E rows =
      (shown.take (d.pageSize + 1)).map fun a =>
        .object [(d.settings.distinct.valueAliasInUse, a.toJson)] := by
    rw [Select.objects, hanswer, List.map_map]
    rfl
  simp only [pageAt, hbuild, bind, Except.bind, pure, Except.pure, DistinctQuery.page, hobjects]
  simp [queryOf, Json.member?, Keyed.get?, Function.comp_def, List.map_take]

theorem Lists.pageAt_none (h : d.Lists E rows s values) : d.pageAt E rows none =
    .ok (.ofRows ((values.map Datum.toJson).take (d.pageSize + 1)) d.pageSize none id) :=
  have hplace : (none : Option Cursor).mapM (Cursor.condition · s.value) = .ok none := rfl
  h.pageAt_eq rfl hplace h.ascending fun a => by simp [h.mem]

/-- The page of a cursor shows the values for which the condition of the cursor holds. -/
theorem Lists.pageAt_cursor (h : d.Lists E rows s values) {x : Datum} (hx : x.IsKey)
    {forward : Bool} {place : Expr} {P : Datum → Prop} {shown : List Datum}
    (hplace : Cursor.condition ⟨x.toJson, forward⟩ s.value = .ok place)
    (hholds : ∀ row, place.Holds E row ↔ P (s.value.eval E row))
    (hshown : shown.Pairwise (E.Before (direction (some ⟨x.toJson, forward⟩))))
    (hmem : ∀ a, a ∈ shown ↔ a ∈ values ∧ P a) :
    d.pageAt E rows (some (Cursor.encode ⟨x.toJson, forward⟩)) =
      .ok (.ofRows ((shown.map Datum.toJson).take (d.pageSize + 1)) d.pageSize
        (some ⟨x.toJson, forward⟩) id) := by
  have hdecode : Cursor.decode (Cursor.encode ⟨x.toJson, forward⟩) = .ok ⟨x.toJson, forward⟩ :=
    Cursor.decode_encode hx.isExact (hx.depth_toJson ▸ Nat.zero_le _)
  refine h.pageAt_eq (mapM_some_eq_ok.mpr ⟨_, hdecode, rfl⟩)
    (mapM_some_eq_ok.mpr ⟨place, hplace, rfl⟩) hshown fun a => ?_
  rw [hmem, h.mem]
  simp only [Option.toList_some, List.forall_mem_append, List.forall_mem_singleton, hholds]
  constructor
  · rintro ⟨⟨row, hrow, hall, rfl⟩, hP⟩
    exact ⟨row, hrow, ⟨hall, hP⟩, rfl⟩
  · rintro ⟨row, hrow, ⟨hall, hP⟩, rfl⟩
    exact ⟨⟨row, hrow, hall, rfl⟩, hP⟩

/-! ## A plain listing -/

/-- A listing of the names in a table, so many to a page. -/
def names (perPage : Nat) : DistinctListing where
  definition := { fields := [.bare "name"] }
  table := ⟨"t"⟩
  base := .ofTable "t" ["name"]
  request := { field := "name" }
  settings := {}
  perPage := some perPage

/-- The source of the names: their column, and all rows. -/
def nameSource : DistinctSource := ⟨.column (some "t") "name", []⟩

theorem lists_names {n : Nat} {column : List Datum}
    (hascending : values.Pairwise (E.Before .ascending))
    (hmem : ∀ a, a ∈ values ↔ a ∈ column) (hkey : ∀ a ∈ values, a.IsKey) :
    (names n).Lists E (column.map fun x _ _ => x) nameSource values where
  source := by
    cases E.dialect <;> cbv
  offset := rfl
  order := DistinctSettings.orderByInUse_of_none rfl
  ascending := hascending
  mem a := by
    simp [hmem, nameSource, Expr.eval]
  isKey := hkey

end DistinctListing
end RequestQuery
