import RequestQuery.ColumnRef
import RequestQuery.Error
import RequestQuery.FilterValue

/-! # Domains and operators

Each domain has its own operators, known by short codes.  An operator takes one
operand, the two ends of a range, a list, or nothing.  A code that is no
operator of its domain is not an error: a filter with such a code is skipped.
-/
namespace RequestQuery

/-! ## Domains -/

namespace Domain

/-- The name of a domain. -/
def name : Domain → String
  | text => "string"
  | number => "number"
  | date => "date"

/-- The domain of a name, letter case and blanks around it aside.  What is no name comes back as it was
compared. -/
def read (s : String) : Except String Domain :=
  let name := Text.lower (Text.trim s)
  if name == "string" || name == "str" || name == "text" then .ok text
  else if name == "number" || name == "numeric" || name == "num" then .ok number
  else if name == "date" then .ok date
  else .error name

end Domain

/-! ## Operators -/

/-- How much of a value an operator takes. -/
inductive Arity where
  | unary
  | range
  | list
  | solo
  deriving DecidableEq, Repr

/-- The operators on texts. -/
inductive TextOperator where
  | equal
  | differs
  | contains
  | lacks
  | begins
  | ends
  | beginsNot
  | endsNot
  | empty
  | filled
  | oneOf
  deriving DecidableEq, Repr

namespace TextOperator

/-- The operators in the order of their table. -/
def all : List TextOperator :=
  [equal, differs, contains, lacks, begins, ends, beginsNot, endsNot, empty, filled, oneOf]

/-- The code of an operator. -/
def code : TextOperator → String
  | equal => "eq"
  | differs => "neq"
  | contains => "con"
  | lacks => "ncon"
  | begins => "bw"
  | ends => "ew"
  | beginsNot => "nbw"
  | endsNot => "new"
  | empty => "e"
  | filled => "ne"
  | oneOf => "in"

/-- What an operator takes. -/
def arity : TextOperator → Arity
  | empty | filled => .solo
  | oneOf => .list
  | _ => .unary

/-- The operator of a code. -/
def ofCode? (code : String) : Option TextOperator :=
  all.find? (·.code == code)

end TextOperator

/-- The operators on numbers. -/
inductive NumberOperator where
  | compare (relation : Comparison)
  | between
  | oneOf
  deriving DecidableEq, Repr

/-- The code of a relation. -/
def Comparison.code : Comparison → String
  | .equal => "eq"
  | .differs => "neq"
  | .less => "lt"
  | .atMost => "lte"
  | .greater => "gt"
  | .atLeast => "gte"

/-- The relations in the order of the tables. -/
def Comparison.all : List Comparison :=
  [.equal, .differs, .less, .atMost, .greater, .atLeast]

namespace NumberOperator

/-- The operators in the order of their table. -/
def all : List NumberOperator :=
  Comparison.all.map compare ++ [between, oneOf]

/-- The code of an operator. -/
def code : NumberOperator → String
  | compare relation => relation.code
  | between => "bw"
  | oneOf => "in"

/-- What an operator takes. -/
def arity : NumberOperator → Arity
  | compare _ => .unary
  | between => .range
  | oneOf => .list

/-- The operator of a code. -/
def ofCode? (code : String) : Option NumberOperator :=
  all.find? (·.code == code)

end NumberOperator

/-- The operators on dates. -/
inductive DateOperator where
  | compare (relation : Comparison)
  | between
  | oneOf
  | month
  | betweenMonths
  | isNull
  | isNotNull
  deriving DecidableEq, Repr

namespace DateOperator

/-- The operators in the order of their table. -/
def all : List DateOperator :=
  Comparison.all.map compare ++ [between, oneOf, month, betweenMonths, isNull, isNotNull]

/-- The code of an operator. -/
def code : DateOperator → String
  | compare relation => relation.code
  | between => "bw"
  | oneOf => "in"
  | month => "my"
  | betweenMonths => "bmy"
  | isNull => "null"
  | isNotNull => "nnull"

/-- What an operator takes. -/
def arity : DateOperator → Arity
  | compare _ | month => .unary
  | between | betweenMonths => .range
  | oneOf => .list
  | isNull | isNotNull => .solo

/-- The operator of a code. -/
def ofCode? (code : String) : Option DateOperator :=
  all.find? (·.code == code)

end DateOperator

/-- The codes of a domain in the order of their table, with what each operator takes. -/
def Domain.operators : Domain → Keyed Arity
  | .text => TextOperator.all.map fun op => (op.code, op.arity)
  | .number => NumberOperator.all.map fun op => (op.code, op.arity)
  | .date => DateOperator.all.map fun op => (op.code, op.arity)

/-! ## What a filter is built against -/

/-- The database system and the settings that a filter is built for. -/
structure FilterContext where
  dialect : Dialect
  settings : Settings

/-- The delimiter that takes effect. -/
def FilterContext.delimiter (ctx : FilterContext) : String :=
  ctx.settings.filters.delimiterInUse

/-- The separator that takes effect. -/
def FilterContext.separator (ctx : FilterContext) : String :=
  ctx.settings.filters.separatorInUse

end RequestQuery
