import RequestQuery.Filter.Operator

/-! # Filters on numbers

Integers are compared exactly.  An operand that is no number makes no condition,
and neither does a list or a range one of whose parts is none.
-/
namespace RequestQuery

/-- The value that a number is bound as. -/
def Number.toSqlValue : Number → SqlValue
  | .integer i => .bigInt i
  | .real x => .double x

namespace NumberFilter

/-- The value to compare, as a number if it comes from a document. -/
def subject (ctx : FilterContext) (c : ColumnRef) : Expr :=
  c.toCastExpr ctx.dialect ctx.settings.filters.numberType

/-- The value of an operand. -/
def operand? (s : String) : Option SqlValue :=
  (Number.read? s).map Number.toSqlValue

/-- The condition of an operator and its value. -/
def build (ctx : FilterContext) (c : ColumnRef) (value : RawValue) : NumberOperator → Option Expr
  | .compare relation => (operand? value.operand).map ((subject ctx c).compareTo relation)
  | .between => do
    let (low, high) ← value.splitRange? ctx.separator
    return .between (subject ctx c) (← operand? low) (← operand? high)
  | .oneOf =>
    match value.splitList ctx.separator with
    | [] => none
    | items => (items.mapM operand?).map (.oneOf (subject ctx c))

end NumberFilter
end RequestQuery
