import Mathlib.Data.Prod.Lex
import RequestQuery.Proofs.Calendar.StrictDate
import RequestQuery.Proofs.Filter.Bounds

/-! # Filters on months

Months are in the order of the calendar, the year first.  Two operators ask for
them: `my` compares the month and the year one by one, `bmy` a key that is made of
both.  The key keeps the order of the months, at the turn of a year and before the
year zero as well (`DateFilter.keyOf_le_keyOf_iff`).  So both operators ask the
same of one operand, and `bmy` asks for the months from one operand to another
(`Filterer.months_agree`).

What a system does to take a date apart is its own affair; that it finds the year
and the month is assumed (`Engine.FindsDate`).
-/
namespace RequestQuery

/-! ## The order of months -/

/-- The year and the month of a date, in the order of the calendar. -/
def Date.yearMonth (d : Date) : ℤ ×ₗ ℕ := toLex (d.year, d.month)

/-- The integers of 32 bits. -/
def FitsInt32 (i : ℤ) : Prop := -2147483648 ≤ i ∧ i ≤ 2147483647

namespace DateFilter

variable {d d' : Date}

/-- **The key keeps the order of the months.** -/
theorem keyOf_le_keyOf_iff : keyOf d ≤ keyOf d' ↔ d.yearMonth ≤ d'.yearMonth := by
  obtain ⟨-, ⟨hfirst, hlast⟩, -⟩ := bounds_of_isDate d.exists_day
  obtain ⟨-, ⟨hfirst', hlast'⟩, -⟩ := bounds_of_isDate d'.exists_day
  rw [Date.yearMonth, Date.yearMonth, Prod.Lex.toLex_le_toLex, keyOf, keyOf]
  -- twelve months fit between the keys of two years
  constructor
  · intro h
    rcases lt_trichotomy d.year d'.year with hlt | heq | hgt
    · exact .inl hlt
    · exact .inr ⟨heq, by omega⟩
    · omega
  · rintro (hlt | ⟨heq, hle⟩)
    · omega
    · omega

/-- Neither the key of a date nor the first step towards it leaves 32 bits. -/
theorem fitsInt32_keyOf (d : Date) : FitsInt32 (d.year * 100) ∧ FitsInt32 (keyOf d) := by
  obtain ⟨⟨hlow, hhigh⟩, ⟨hfirst, hlast⟩, -⟩ := bounds_of_isDate d.exists_day
  constructor
  · constructor <;> omega
  · rw [keyOf]
    constructor <;> omega

end DateFilter

/-! ## Whole numbers that may be missing -/

section
variable {E : Engine} {row : Row} {e : Expr} {x : Option ℤ}

theorem holds_equal_int (hE : E.OrdersIntegers) (he : e.eval E row = .ofInt? x) {i : ℤ} :
    (e.compareTo .equal (.int i)).Holds E row ↔ x = some i := by
  rw [Expr.holds_compareTo, he]
  cases x with
  | none => simp [Datum.ofInt?]
  | some a =>
    simp only [Datum.ofInt?, Datum.ofSqlValue, Engine.relates, Bool.and_eq_true, hE a i, hE i a,
      Option.some.injEq]
    constructor
    · rintro ⟨-, hle, hge⟩
      exact le_antisymm hle hge
    · rintro rfl
      exact ⟨Datum.noConfusion, le_refl a, le_refl a⟩

theorem holds_between_int (hE : E.OrdersIntegers) (he : e.eval E row = .ofInt? x) {low high : ℤ} :
    (Expr.between e (.int low) (.int high)).Holds E row ↔ ∃ i, x = some i ∧ low ≤ i ∧ i ≤ high := by
  rw [Expr.holds_between, Expr.holds_compareTo, Expr.holds_compareTo, he]
  cases x with
  | none => simp [Datum.ofInt?]
  | some a => simp [Datum.ofInt?, Datum.ofSqlValue, Engine.relates, hE a high, hE low a]

end

/-! ## Taking dates apart -/

/-- What a system finds for a part of the date in a value, by the functions of a dialect. -/
def Engine.partOf (E : Engine) (dialect : Dialect) (part : DateFilter.Part) (x : Datum) : Datum :=
  match dialect, part with
  | .mysql, .year => E.call "YEAR" [] x []
  | .mysql, .month => E.call "MONTH" [] x []
  | .postgres, .year => E.cast "INTEGER" (E.call "date_part" [.text "year"] x [])
  | .postgres, .month => E.cast "INTEGER" (E.call "date_part" [.text "month"] x [])
  | .sqlite, .year => E.cast "INTEGER" (E.call "strftime" [.text "%Y"] x [])
  | .sqlite, .month => E.cast "INTEGER" (E.call "strftime" [.text "%m"] x [])

/-- In a value that is a date the system finds its year and its month, and in one that is none it finds
nothing. -/
structure Engine.FindsDate (E : Engine) (dialect : Dialect) (x : Datum) (r : Option Date) : Prop where
  year : E.partOf dialect .year x = .ofInt? (r.map (·.year))
  month : E.partOf dialect .month x = .ofInt? (r.map fun d => (d.month : ℤ))

namespace DateFilter

variable {ctx : FilterContext} {c : ColumnRef} {E : Engine} {row : Row} {r : Option Date}

theorem eval_extract (part : Part) : (extract ctx c part).eval E row =
    E.partOf ctx.dialect part ((c.toExpr ctx.dialect).eval E row) := by
  rw [extract.eq_def, Engine.partOf.eq_def]
  cases ctx.dialect <;> cases part <;> rfl

/-- The key in a row is the key of its date. -/
theorem eval_columnKey (hrow : E.FindsDate ctx.dialect ((c.toExpr ctx.dialect).eval E row) r) :
    (columnKey ctx c).eval E row = .ofInt? (r.map keyOf) := by
  rw [columnKey, Expr.eval, Expr.eval, eval_extract, eval_extract, hrow.year, hrow.month]
  cases r <;> rfl

/-! ## What the operators build -/

/-- The month of an operand does not depend on the blanks around it. -/
theorem month?_trim (s : String) : month? ctx (Text.trim s) = month? ctx s := by
  rw [month?, Text.trim_trim, month?]

/-- The condition for one month. -/
def inMonth (ctx : FilterContext) (c : ColumnRef) (d : Date) : Expr :=
  .both ((extract ctx c .month).compareTo .equal (.int d.month))
    ((extract ctx c .year).compareTo .equal (.int d.year))

/-- The condition for the months between two operands, if both are months. -/
def monthsBetween (ctx : FilterContext) (c : ColumnRef) (low high : String) : Option Expr := do
  let low ← month? ctx low
  let high ← month? ctx high
  return .between (columnKey ctx c) (.int (keyOf low)) (.int (keyOf high))

theorem monthsBetween_trim (low high : String) :
    monthsBetween ctx c (Text.trim low) (Text.trim high) = monthsBetween ctx c low high := by
  rw [monthsBetween, month?_trim, month?_trim, monthsBetween]

theorem isSome_monthsBetween {low high : String} :
    (monthsBetween ctx c low high).isSome ↔ (month? ctx low).isSome ∧ (month? ctx high).isSome := by
  rw [monthsBetween]
  cases month? ctx low <;> cases month? ctx high <;> simp

theorem holds_inMonth (hE : E.OrdersIntegers)
    (hrow : E.FindsDate ctx.dialect ((c.toExpr ctx.dialect).eval E row) r) {d : Date} :
    (inMonth ctx c d).Holds E row ↔ ∃ r', r = some r' ∧ r'.yearMonth = d.yearMonth := by
  have hmonth := holds_equal_int hE ((eval_extract .month).trans hrow.month) (i := d.month)
  have hyear := holds_equal_int hE ((eval_extract .year).trans hrow.year) (i := d.year)
  rw [inMonth, Expr.holds_both, hmonth, hyear]
  cases r with
  | none => simp
  | some r =>
    simp only [Option.map_some, Option.some.injEq, exists_eq_left', Int.natCast_inj,
      Date.yearMonth, toLex_inj, Prod.mk.injEq]
    exact and_comm

/-- The condition for the month of an operand. -/
theorem selects_inMonth (hE : E.OrdersIntegers)
    (hrow : E.FindsDate ctx.dialect ((c.toExpr ctx.dialect).eval E row) r) {t : String} :
    Selects E row ((month? ctx t).map (inMonth ctx c)) ↔
      ∃ d r', month? ctx t = some d ∧ r = some r' ∧ r'.yearMonth = d.yearMonth := by
  cases month? ctx t with
  | none => simp
  | some d => simp [holds_inMonth hE hrow]

theorem selects_monthsBetween (hE : E.OrdersIntegers)
    (hrow : E.FindsDate ctx.dialect ((c.toExpr ctx.dialect).eval E row) r) {low high : String} :
    Selects E row (monthsBetween ctx c low high) ↔
      ∃ d d' r', month? ctx low = some d ∧ month? ctx high = some d' ∧ r = some r' ∧
        d.yearMonth ≤ r'.yearMonth ∧ r'.yearMonth ≤ d'.yearMonth := by
  rw [monthsBetween]
  cases month? ctx low with
  | none => simp
  | some d =>
    cases month? ctx high with
    | none => simp
    | some d' =>
      have hbetween : (Expr.between (columnKey ctx c) (.int (keyOf d)) (.int (keyOf d'))).Holds E row ↔
          ∃ i, r.map keyOf = some i ∧ keyOf d ≤ i ∧ i ≤ keyOf d' :=
        holds_between_int hE (eval_columnKey hrow)
      refine selects_some.trans (hbetween.trans ?_)
      cases r <;> simp [keyOf_le_keyOf_iff]

/-- Between a month and itself lies nothing but that month. -/
theorem selects_monthsBetween_self (hE : E.OrdersIntegers)
    (hrow : E.FindsDate ctx.dialect ((c.toExpr ctx.dialect).eval E row) r) {t : String} :
    Selects E row (monthsBetween ctx c t t) ↔ Selects E row ((month? ctx t).map (inMonth ctx c)) := by
  rw [selects_monthsBetween hE hrow, selects_inMonth hE hrow]
  constructor
  · rintro ⟨d, d', r', hd, hd', hr, hlow, hhigh⟩
    obtain rfl : d = d' := Option.some.inj (hd.symm.trans hd')
    exact ⟨d, r', hd, hr, le_antisymm hhigh hlow⟩
  · rintro ⟨d, r', hd, hr, heq⟩
    exact ⟨d, d, r', hd, hd, hr, heq.ge, heq.le⟩

end DateFilter

namespace Filterer

variable {ctx : FilterContext} {c : ColumnRef}

/-- The month of one operand. -/
theorem condition_month {t : String} (ht : ctx.Plain t) :
    condition .date ctx c "my" t = (DateFilter.month? ctx t).map (DateFilter.inMonth ctx c) := by
  have hdelimiter : ctx.delimiter ≠ "" := ctx.settings.filters.delimiterInUse_ne_empty
  have hcode : DateOperator.ofCode? "my" = some .month := DateOperator.ofCode?_code .month
  rw [condition, buildDomain, hcode, Option.bind_some, DateFilter.build,
    RawValue.firstSegment_of_apart hdelimiter ht.1, DateFilter.month?_trim]
  rfl

theorem condition_betweenMonths_eq (v : String) :
    condition .date ctx c "bmy" v = ((RawValue.single v).splitRange? ctx.separator).bind fun ends =>
      DateFilter.monthsBetween ctx c ends.1 ends.2 := by
  have hcode : DateOperator.ofCode? "bmy" = some .betweenMonths :=
    DateOperator.ofCode?_code .betweenMonths
  rw [condition, buildDomain, hcode]
  rfl

/-- One operand is both ends. -/
theorem condition_betweenMonths_point {t : String} (ht : ctx.Plain t) :
    condition .date ctx c "bmy" t = DateFilter.monthsBetween ctx c t t := by
  have hseparator : ctx.separator ≠ "" := ctx.settings.filters.separatorInUse_ne_empty
  rw [condition_betweenMonths_eq, RawValue.splitRange?_of_apart hseparator ht.2]
  rfl

/-- The months between two operands. -/
theorem condition_betweenMonths {t t' : String} (ht : ctx.Plain t) (ht' : ctx.Plain t') :
    condition .date ctx c "bmy" (t ++ ctx.separator ++ t') = DateFilter.monthsBetween ctx c t t' := by
  have hseparator : ctx.separator ≠ "" := ctx.settings.filters.separatorInUse_ne_empty
  rw [condition_betweenMonths_eq, RawValue.splitRange?_append hseparator ht.2 ht'.2]
  exact DateFilter.monthsBetween_trim t t'

/-- What filters on months ask for.  The row holds a date, or none. -/
structure MonthsAgree (ctx : FilterContext) (c : ColumnRef) (E : Engine) : Prop where
  /-- An operand is a month only if the pattern writes that month so. -/
  operand {t : String} {d : Date} (h : DateFilter.month? ctx t = some d) :
    d.format? ctx.settings.filters.monthYearFormatInUse = some (Text.trim t)
  month_built {t : String} (ht : ctx.Plain t) :
    (condition .date ctx c "my" t).isSome ↔ (DateFilter.month? ctx t).isSome
  point_built {t : String} (ht : ctx.Plain t) :
    (condition .date ctx c "bmy" t).isSome ↔ (condition .date ctx c "my" t).isSome
  month_selects {t : String} (ht : ctx.Plain t) {row : Row} {r : Option Date}
    (hrow : E.FindsDate ctx.dialect ((c.toExpr ctx.dialect).eval E row) r) :
    Selects E row (condition .date ctx c "my" t) ↔
      ∃ d r', DateFilter.month? ctx t = some d ∧ r = some r' ∧ r'.yearMonth = d.yearMonth
  point_selects {t : String} (ht : ctx.Plain t) {row : Row} {r : Option Date}
    (hrow : E.FindsDate ctx.dialect ((c.toExpr ctx.dialect).eval E row) r) :
    Selects E row (condition .date ctx c "bmy" t) ↔ Selects E row (condition .date ctx c "my" t)
  between_built {t t' : String} (ht : ctx.Plain t) (ht' : ctx.Plain t') :
    (condition .date ctx c "bmy" (t ++ ctx.separator ++ t')).isSome ↔
      (DateFilter.month? ctx t).isSome ∧ (DateFilter.month? ctx t').isSome
  between_selects {t t' : String} (ht : ctx.Plain t) (ht' : ctx.Plain t') {row : Row}
    {r : Option Date} (hrow : E.FindsDate ctx.dialect ((c.toExpr ctx.dialect).eval E row) r) :
    Selects E row (condition .date ctx c "bmy" (t ++ ctx.separator ++ t')) ↔
      ∃ d d' r', DateFilter.month? ctx t = some d ∧ DateFilter.month? ctx t' = some d' ∧ r = some r' ∧
        d.yearMonth ≤ r'.yearMonth ∧ r'.yearMonth ≤ d'.yearMonth
  /-- No key that is bound leaves 32 bits, nor the first step towards it. -/
  key_fits (d : Date) : FitsInt32 (d.year * 100) ∧ FitsInt32 (DateFilter.keyOf d)

/-- **What filters on months ask for.**  Of one operand both operators ask for its month, and a range
asks for the months from one end to the other, in whatever years. -/
theorem months_agree (ctx : FilterContext) (c : ColumnRef) {E : Engine} (hE : E.OrdersIntegers) :
    MonthsAgree ctx c E := by
  constructor
  case operand =>
    intro t d h
    exact Date.format?_of_readStrict? h
  case month_built =>
    intro t ht
    rw [condition_month ht, Option.isSome_map]
  case point_built =>
    intro t ht
    rw [condition_betweenMonths_point ht, condition_month ht, DateFilter.isSome_monthsBetween,
      Option.isSome_map, and_self]
  case month_selects =>
    intro t ht row r hrow
    rw [condition_month ht, DateFilter.selects_inMonth hE hrow]
  case point_selects =>
    intro t ht row r hrow
    rw [condition_betweenMonths_point ht, condition_month ht,
      DateFilter.selects_monthsBetween_self hE hrow]
  case between_built =>
    intro t t' ht ht'
    rw [condition_betweenMonths ht ht', DateFilter.isSome_monthsBetween]
  case between_selects =>
    intro t t' ht ht' row r hrow
    rw [condition_betweenMonths ht ht', DateFilter.selects_monthsBetween hE hrow]
  case key_fits => exact DateFilter.fitsInt32_keyOf

/-- Months before the first year and at the turn of a year, on a date in the year 45 before it. -/
theorem months_agree_ides :
    let ctx : FilterContext := ⟨.mysql, {}⟩
    let c : ColumnRef := { column := "day" }
    let E := Engine.binary .mysql fun name _ x _ =>
      match name, x with
      | "YEAR", .date d => .int d.year
      | "MONTH", .date d => .int d.month
      | _, _ => .null
    let ides : Date := ⟨-44, 3, 15, by decide⟩
    let row : Row := fun _ _ => .date ides
    E.OrdersIntegers ∧ E.FindsDate .mysql ((c.toExpr .mysql).eval E row) (some ides) ∧
      Selects E row (condition .date ctx c "my" "03/-0044") ∧
      Selects E row (condition .date ctx c "bmy" "03/-0044") ∧
      Selects E row (condition .date ctx c "bmy" ("12/-0045" ++ ctx.separator ++ "01/-0043")) ∧
      ¬ Selects E row (condition .date ctx c "bmy" ("04/-0044" ++ ctx.separator ++ "12/9999")) ∧
      ¬ (condition .date ctx c "bmy" ("03/-0044" ++ ctx.separator ++ "13/-0044")).isSome := by
  intro ctx c E ides row
  have hE : E.OrdersIntegers := Engine.binary_ordersIntegers
  have hrow : E.FindsDate .mysql ((c.toExpr .mysql).eval E row) (some ides) := ⟨rfl, rfl⟩
  have hagree := months_agree ctx c hE
  have hmonth : DateFilter.month? ctx "03/-0044" = some ⟨-44, 3, 1, by decide⟩ := by decide +kernel
  have hbefore : DateFilter.month? ctx "12/-0045" = some ⟨-45, 12, 1, by decide⟩ := by decide +kernel
  have hafter : DateFilter.month? ctx "01/-0043" = some ⟨-43, 1, 1, by decide⟩ := by decide +kernel
  have hnext : DateFilter.month? ctx "04/-0044" = some ⟨-44, 4, 1, by decide⟩ := by decide +kernel
  have hnone : DateFilter.month? ctx "13/-0044" = none := by decide +kernel
  have hselected : Selects E row (condition .date ctx c "my" "03/-0044") :=
    (hagree.month_selects (by decide) hrow).mpr ⟨_, ides, hmonth, rfl, rfl⟩
  refine ⟨hE, hrow, hselected, ?_, ?_, ?_, ?_⟩
  · exact (hagree.point_selects (by decide) hrow).mpr hselected
  · exact (hagree.between_selects (by decide) (by decide) hrow).mpr
      ⟨_, _, ides, hbefore, hafter, rfl, by decide, by decide⟩
  · intro h
    obtain ⟨d, -, r, hd, -, hr, hle, -⟩ := (hagree.between_selects (by decide) (by decide) hrow).mp h
    cases hr
    cases hnext.symm.trans hd
    exact absurd hle (by decide)
  · rw [hagree.between_built (by decide) (by decide), hnone]
    simp

end Filterer
end RequestQuery
