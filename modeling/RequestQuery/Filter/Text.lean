import RequestQuery.Filter.Operator

/-! # Filters on texts

A text is compared as a whole or searched for a part.  The part is looked for
literally: the characters that mean something in a pattern are escaped, so that
`50%` finds `50%` and nothing else.
-/
namespace RequestQuery
namespace TextFilter

/-- The value to compare, as a text if it comes from a document. -/
def subject (ctx : FilterContext) (c : ColumnRef) : Expr :=
  c.toCastExpr ctx.dialect (ctx.settings.filters.textType ctx.dialect)

/-- A character as it stands for itself in a pattern. -/
def escapeChar (c : Char) : List Char :=
  if c = '\\' || c = '%' || c = '_' then ['\\', c] else [c]

/-- A text as it stands for itself in a pattern. -/
def escape (s : String) : List Char :=
  s.toList.flatMap escapeChar

/-- The pattern of the texts that have a part at the beginning, at the end, or anywhere. -/
def pattern (openStart openEnd : Bool) (part : String) : String :=
  String.ofList ((if openStart then ['%'] else []) ++ escape part ++ (if openEnd then ['%'] else []))

/-- The condition of an operator and its value. -/
def build (ctx : FilterContext) (c : ColumnRef) (value : RawValue) : TextOperator → Option Expr
  | .equal => some ((subject ctx c).compareTo .equal (.text value.operand))
  | .differs => some ((subject ctx c).compareTo .differs (.text value.operand))
  | .contains => some (.like (subject ctx c) (pattern true true value.operand))
  | .lacks => some (.notLike (subject ctx c) (pattern true true value.operand))
  | .begins => some (.like (subject ctx c) (pattern false true value.operand))
  | .ends => some (.like (subject ctx c) (pattern true false value.operand))
  | .beginsNot => some (.notLike (subject ctx c) (pattern false true value.operand))
  | .endsNot => some (.notLike (subject ctx c) (pattern true false value.operand))
  | .empty =>
    some (.either (.isNull (subject ctx c)) ((subject ctx c).compareTo .equal (.text "")))
  | .filled =>
    some (.both (.isNotNull (subject ctx c)) ((subject ctx c).compareTo .differs (.text "")))
  | .oneOf =>
    match value.splitList ctx.separator with
    | [] => none
    | items => some (.oneOf (subject ctx c) (items.map .text))

end TextFilter
end RequestQuery
