import RequestQuery.Sql.Expr
import RequestQuery.Text.Digits
import RequestQuery.Text.Split

/-! # Rendering SQL

An expression is rendered to pieces: text, and the places of the values that are
bound.  The pieces of text depend on the shape of the expression alone.  The
statement is the text with a placeholder at each place, and the values in the
order of their placeholders.

Parentheses are set by position.  At the left of a connective, only another
connective or a range needs them; at the right, any connective or a range does,
also the same one.
-/
namespace RequestQuery

/-- A piece of a rendered expression. -/
inductive SqlPiece where
  | text (s : String)
  | bound (v : SqlValue)
  deriving DecidableEq, Repr

namespace Dialect

/-- The character around an identifier. -/
def quoteMark : Dialect → Char
  | .mysql => Char.ofNat 0x60
  | _ => '"'

/-- An identifier in quotes, quotes inside it doubled. -/
def quote (dialect : Dialect) (name : String) : String :=
  let mark := dialect.quoteMark
  String.ofList (mark :: (Text.replaceChar mark [mark, mark] name.toList ++ [mark]))

/-- The clause that makes the backslash the escape character of a pattern. -/
def escapeClause : Dialect → String
  | .sqlite => " ESCAPE '\\'"
  | .mysql => " ESCAPE '\\\\'"
  | .postgres => " ESCAPE E'\\\\'"

/-- The placeholder of the bound value with a number, from 1. -/
def placeholder (dialect : Dialect) (number : Nat) : String :=
  match dialect with
  | .postgres => "$" ++ Text.showNat number
  | _ => "?"

end Dialect

/-- The sign of a relation. -/
def Comparison.symbol : Comparison → String
  | .equal => "="
  | .differs => "<>"
  | .less => "<"
  | .atMost => "<="
  | .greater => ">"
  | .atLeast => ">="

namespace Expr

/-- A column, with its table if it has one. -/
def columnText (dialect : Dialect) (table : Option String) (name : String) : String :=
  match table with
  | some table => dialect.quote table ++ "." ++ dialect.quote name
  | none => dialect.quote name

/-- Values with commas between them. -/
def listPieces : List SqlValue → List SqlPiece
  | [] => []
  | [v] => [.bound v]
  | v :: rest => .bound v :: .text ", " :: listPieces rest

/-- Pieces in parentheses, if they are needed. -/
def enclose (needed : Bool) (pieces : List SqlPiece) : List SqlPiece :=
  if needed then .text "(" :: (pieces ++ [.text ")"]) else pieces

/-- Whether an expression needs parentheses at the left of a connective. -/
def looseAtLeft (conjunction : Bool) : Expr → Bool
  | both _ _ => !conjunction
  | either _ _ => conjunction
  | between _ _ _ => true
  | _ => false

/-- Whether an expression needs parentheses at the right of a connective. -/
def looseAtRight : Expr → Bool
  | both _ _ => true
  | either _ _ => true
  | between _ _ _ => true
  | _ => false

/-- Whether an expression is a calculation. -/
def isCalculation : Expr → Bool
  | plus _ _ => true
  | times _ _ => true
  | _ => false

/-- The pieces of an expression. -/
def pieces (dialect : Dialect) : Expr → List SqlPiece
  | column table name => [.text (columnText dialect table name)]
  | value v => [.bound v]
  | call function before argument after =>
    .text (function ++ "(") ::
      (before.flatMap (fun v => [.bound v, .text ", "]) ++ pieces dialect argument ++
        after.flatMap (fun v => [.text ", ", .bound v]) ++ [.text ")"])
  | cast e type => .text "CAST(" :: (pieces dialect e ++ [.text (" AS " ++ type ++ ")")])
  | compare relation left right =>
    pieces dialect left ++ .text (" " ++ relation.symbol ++ " ") :: pieces dialect right
  | isNull e => pieces dialect e ++ [.text " IS NULL"]
  | isNotNull e => pieces dialect e ++ [.text " IS NOT NULL"]
  | oneOf e values =>
    if values.isEmpty then [.bound (.int 1), .text " = ", .bound (.int 2)]
    else pieces dialect e ++ .text " IN (" :: (listPieces values ++ [.text ")"])
  | between e low high =>
    pieces dialect e ++ [.text " BETWEEN ", .bound low, .text " AND ", .bound high]
  | like e pattern =>
    pieces dialect e ++ [.text " LIKE ", .bound (.text pattern), .text dialect.escapeClause]
  | notLike e pattern =>
    pieces dialect e ++ [.text " NOT LIKE ", .bound (.text pattern), .text dialect.escapeClause]
  | plus left right =>
    enclose left.isCalculation (pieces dialect left) ++ .text " + " ::
      enclose right.isCalculation (pieces dialect right)
  | times left right =>
    enclose left.isCalculation (pieces dialect left) ++ .text " * " ::
      enclose right.isCalculation (pieces dialect right)
  | both left right =>
    enclose (left.looseAtLeft true) (pieces dialect left) ++ .text " AND " ::
      enclose right.looseAtRight (pieces dialect right)
  | either left right =>
    enclose (left.looseAtLeft false) (pieces dialect left) ++ .text " OR " ::
      enclose right.looseAtRight (pieces dialect right)
  | truth true => [.text "TRUE"]
  | truth false => [.text "FALSE"]

end Expr

/-! ## Queries -/

/-- Lists of pieces with a text between them. -/
def joinPieces (separator : String) : List (List SqlPiece) → List SqlPiece
  | [] => []
  | [p] => p
  | p :: rest => p ++ .text separator :: joinPieces separator rest

namespace Select

variable (dialect : Dialect)

/-- An expression that is selected, with its name. -/
def projectionPieces (p : Projection) : List SqlPiece :=
  p.expr.pieces dialect ++ match p.alias? with
    | some name => [.text (" AS " ++ dialect.quote name)]
    | none => []

/-- A term of the ordering. -/
def orderPieces (t : OrderTerm) : List SqlPiece :=
  t.key.pieces dialect ++ [.text (match t.direction with | .ascending => " ASC" | .descending => " DESC")]

/-- What is selected, up to the table. -/
def headPieces (s : Select) : List SqlPiece :=
  .text (if s.distinct then "SELECT DISTINCT " else "SELECT ") ::
    joinPieces ", " (s.projections.map (projectionPieces dialect))

/-- A clause that holds a number, if there is one. -/
def numberClause (keyword : String) : Option Nat → List SqlPiece
  | none => []
  | some n => [.text keyword, .bound (.bigUnsigned n)]

/-- The clauses behind the table. -/
def clausePieces (s : Select) : List SqlPiece :=
  (if s.conditions.isEmpty then [] else .text " WHERE " :: (Expr.all s.conditions).pieces dialect) ++
    (if s.order.isEmpty then []
      else .text " ORDER BY " :: joinPieces ", " (s.order.map (orderPieces dialect))) ++
    numberClause " LIMIT " s.limit ++ numberClause " OFFSET " s.offset

/-- The query from the table on. -/
def tailPieces (s : Select) : List SqlPiece :=
  (match s.table with
    | some table => [.text ("FROM " ++ dialect.quote table)]
    | none => []) ++ clausePieces dialect s

/-- The whole query. -/
def pieces (s : Select) : List SqlPiece :=
  headPieces dialect s ++ (if s.table.isSome then [.text " "] else []) ++ tailPieces dialect s

end Select

/-- The pieces of a query.  Rows are counted without their order, and all of them. -/
def Query.pieces (dialect : Dialect) : Query → List SqlPiece
  | .select s => s.pieces dialect
  | .count s =>
    .text "SELECT COUNT(*) AS num_items FROM (" ::
      ({ s with order := [], limit := none, offset := none }.pieces dialect ++
        [.text (") AS " ++ dialect.quote "sub_query")])

/-! ## Statements -/

/-- The text of a statement and the values bound to it, in the order of their placeholders. -/
structure Statement where
  sql : String
  values : List SqlValue
  deriving DecidableEq, Repr

namespace Statement

/-- The text of pieces, `count` values having been bound before them. -/
def textOf (dialect : Dialect) (count : Nat) : List SqlPiece → String
  | [] => ""
  | .text s :: rest => s ++ textOf dialect count rest
  | .bound _ :: rest => dialect.placeholder (count + 1) ++ textOf dialect (count + 1) rest

/-- The values of pieces. -/
def valuesOf : List SqlPiece → List SqlValue
  | [] => []
  | .text _ :: rest => valuesOf rest
  | .bound v :: rest => v :: valuesOf rest

/-- The statement of pieces. -/
def ofPieces (dialect : Dialect) (pieces : List SqlPiece) : Statement :=
  ⟨textOf dialect 0 pieces, valuesOf pieces⟩

end Statement

/-- The statement that selects one expression from nowhere. -/
def Expr.statement (dialect : Dialect) (e : Expr) : Statement :=
  .ofPieces dialect (Select.pieces dialect { projections := [{ expr := e }] })

/-- The statement of a query. -/
def Query.statement (dialect : Dialect) (q : Query) : Statement :=
  .ofPieces dialect (q.pieces dialect)

end RequestQuery
