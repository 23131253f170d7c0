import RequestQuery.Calendar.Read
import RequestQuery.Filter.Operator

/-! # Filters on dates

Operands are dates or months that the configured pattern writes exactly so; a
31st of February is refused instead of becoming a day in March, and a refused
operand makes no condition.  Months are compared by a key, the year times a
hundred plus the month, which orders them across years.
-/
namespace RequestQuery
namespace DateFilter

/-- The value to compare, without its time of day. -/
def subject (ctx : FilterContext) (c : ColumnRef) : Expr :=
  .call "DATE" [] (c.toExpr ctx.dialect) []

/-- The parts of a date that can be taken out of a column. -/
inductive Part where
  | year
  | month
  deriving DecidableEq, Repr

/-- A part of the date in a column, as a number. -/
def extract (ctx : FilterContext) (c : ColumnRef) (part : Part) : Expr :=
  let column := c.toExpr ctx.dialect
  match ctx.dialect, part with
  | .mysql, .year => .call "YEAR" [] column []
  | .mysql, .month => .call "MONTH" [] column []
  | .postgres, .year => .cast (.call "date_part" [.text "year"] column []) "INTEGER"
  | .postgres, .month => .cast (.call "date_part" [.text "month"] column []) "INTEGER"
  | .sqlite, .year => .cast (.call "strftime" [.text "%Y"] column []) "INTEGER"
  | .sqlite, .month => .cast (.call "strftime" [.text "%m"] column []) "INTEGER"

/-- The key of the month in a column. -/
def columnKey (ctx : FilterContext) (c : ColumnRef) : Expr :=
  .plus (.times (extract ctx c .year) (.value (.int 100))) (extract ctx c .month)

/-- The key of the month of a date. -/
def keyOf (d : Date) : Int :=
  d.year * 100 + d.month

/-- The date of an operand. -/
def date? (ctx : FilterContext) (s : String) : Option Date :=
  Date.readStrict? (Text.trim s) ctx.settings.filters.dateFormatInUse

/-- The first day of the month of an operand. -/
def month? (ctx : FilterContext) (s : String) : Option Date :=
  Date.readStrict? (Text.trim s) ctx.settings.filters.monthYearFormatInUse

/-- The condition of an operator and its value. -/
def build (ctx : FilterContext) (c : ColumnRef) (value : RawValue) : DateOperator → Option Expr
  | .compare relation =>
    (date? ctx (value.firstSegment ctx.delimiter)).map fun d =>
      (subject ctx c).compareTo relation (.date d)
  | .between => do
    let (low, high) ← value.splitRange? ctx.separator
    return .between (subject ctx c) (.date (← date? ctx low)) (.date (← date? ctx high))
  | .oneOf =>
    match value.splitList ctx.separator with
    | [] => none
    | items => (items.mapM (date? ctx)).map fun ds => .oneOf (subject ctx c) (ds.map .date)
  | .month =>
    (month? ctx (value.firstSegment ctx.delimiter)).map fun d =>
      .both ((extract ctx c .month).compareTo .equal (.int d.month))
        ((extract ctx c .year).compareTo .equal (.int d.year))
  | .betweenMonths => do
    let (low, high) ← value.splitRange? ctx.separator
    let low ← month? ctx low
    let high ← month? ctx high
    return .between (columnKey ctx c) (.int (keyOf low)) (.int (keyOf high))
  | .isNull => some (.isNull (c.toExpr ctx.dialect))
  | .isNotNull => some (.isNotNull (c.toExpr ctx.dialect))

end DateFilter
end RequestQuery
