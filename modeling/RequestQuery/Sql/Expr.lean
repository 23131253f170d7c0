import RequestQuery.Calendar.Date
import RequestQuery.Number.Binary64

/-! # SQL expressions

The expressions that filters, orderings and pages are made of.  Operands never
stand in an expression as text: they are values, to be bound when the statement
is run.  A function is called with one expression, and with values before and
after it; that is all the calls that occur.
-/
namespace RequestQuery

/-- The database systems that statements are written for. -/
inductive Dialect where
  | sqlite
  | mysql
  | postgres
  deriving DecidableEq, Repr

/-- A value that is bound to a statement. -/
inductive SqlValue where
  | bool (value : Bool)
  /-- An integer of 32 bits. -/
  | int (value : Int)
  /-- An integer of 64 bits. -/
  | bigInt (value : Int)
  /-- An integer of 64 bits without a sign. -/
  | bigUnsigned (value : Nat)
  | double (value : Binary64)
  | text (value : String)
  | date (value : Date)
  deriving DecidableEq, Repr

/-- The relations that two expressions are compared by. -/
inductive Comparison where
  | equal
  | differs
  | less
  | atMost
  | greater
  | atLeast
  deriving DecidableEq, Repr

/-- An SQL expression. -/
inductive Expr where
  | column (table : Option String) (name : String)
  | value (v : SqlValue)
  /-- A function of one expression, with values before and after it. -/
  | call (function : String) (before : List SqlValue) (argument : Expr) (after : List SqlValue)
  | cast (e : Expr) (type : String)
  | compare (relation : Comparison) (left right : Expr)
  | isNull (e : Expr)
  | isNotNull (e : Expr)
  | oneOf (e : Expr) (values : List SqlValue)
  | between (e : Expr) (low high : SqlValue)
  /-- A pattern match in which a backslash makes the next character stand for itself. -/
  | like (e : Expr) (pattern : String)
  | notLike (e : Expr) (pattern : String)
  | plus (left right : Expr)
  | times (left right : Expr)
  | both (left right : Expr)
  | either (left right : Expr)
  | truth (value : Bool)
  deriving DecidableEq, Repr

namespace Expr

/-- A comparison with a value. -/
def compareTo (e : Expr) (relation : Comparison) (v : SqlValue) : Expr :=
  compare relation e (value v)

/-- The truth of all of some conditions, from left to right; of none it is true. -/
def all : List Expr → Expr
  | [] => truth true
  | e :: rest => rest.foldl both e

/-- The truth of at least one of some conditions, from left to right; of none it is false. -/
def any : List Expr → Expr
  | [] => truth false
  | e :: rest => rest.foldl either e

end Expr

/-- The direction of an ordering. -/
inductive Direction where
  | ascending
  | descending
  deriving DecidableEq, Repr

namespace Direction

/-- The opposite direction. -/
def flip : Direction → Direction
  | ascending => descending
  | descending => ascending

end Direction

/-- A term of an ordering. -/
structure OrderTerm where
  key : Expr
  direction : Direction
  deriving DecidableEq, Repr

/-- An expression that a query selects, with the name under which it is found in the rows. -/
structure Projection where
  expr : Expr
  alias? : Option String := none
  deriving DecidableEq, Repr

/-- A query of one table.  The rows are those that fulfil all conditions. -/
structure Select where
  distinct : Bool := false
  projections : List Projection
  table : Option String := none
  conditions : List Expr := []
  order : List OrderTerm := []
  limit : Option Nat := none
  offset : Option Nat := none
  deriving DecidableEq, Repr

namespace Select

/-- The query for all rows of a table, its columns in order. -/
def ofTable (table : String) (columns : List String) : Select :=
  { projections := columns.map fun name => { expr := .column (some table) name }, table := some table }

/-- The query with one more condition. -/
def filter (s : Select) (e : Expr) : Select :=
  { s with conditions := s.conditions ++ [e] }

/-- The query with one more term at the end of its ordering. -/
def orderBy (s : Select) (key : Expr) (direction : Direction) : Select :=
  { s with order := s.order ++ [⟨key, direction⟩] }

end Select

/-- What is sent to the database: a query, or the count of the rows of one. -/
inductive Query where
  | select (s : Select)
  | count (s : Select)
  deriving DecidableEq, Repr

end RequestQuery
