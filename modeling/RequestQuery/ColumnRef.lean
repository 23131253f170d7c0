import RequestQuery.Sql.Expr
import RequestQuery.Text.Blank
import RequestQuery.Text.Split

/-! # Columns

A column reference names a column, with its table if it has one, and possibly a
path into the document that the column holds: `clients.meta->address->city`.
How a path is looked up differs between dialects.
-/
namespace RequestQuery

/-- A reference to a column, or to a value inside the document it holds. -/
structure ColumnRef where
  table : Option String := none
  column : String
  path : List String := []
  deriving DecidableEq, Repr

namespace ColumnRef

/-- What stands between a column and the keys of a path. -/
def arrow : List Char := ['-', '>']

/-- The quotes that may stand around a key. -/
def isQuote (c : Char) : Bool := c == '\'' || c == '"'

/-- The column of a text without path: what stands before the last point is the table, unless it is
empty. -/
def ofHead (head : List Char) : ColumnRef :=
  match Text.cutLast? '.' head with
  | some (table, column) =>
    if table.isEmpty then { column := String.ofList head }
    else { table := some (String.ofList table), column := String.ofList column }
  | none => { column := String.ofList head }

/-- The reference that a text is.  Blanks around the parts do not count, nor do empty keys and the
quotes around a key. -/
def parse (reference : String) : ColumnRef :=
  match (Text.pieces arrow reference.toList).map Text.trimChars with
  | [] => { column := "" }
  | head :: keys =>
    { ofHead head with
      path := (keys.filter (!·.isEmpty)).map fun key => String.ofList (Text.stripWhile isQuote key) }

/-- The text of a reference. -/
def display (c : ColumnRef) : String :=
  (match c.table with
    | some table => table ++ "."
    | none => "") ++ c.column ++ String.join (c.path.map ("->" ++ ·))

/-- Whether the reference is to a value inside a document. -/
def isPath (c : ColumnRef) : Bool := !c.path.isEmpty

/-- The column itself, whatever the path. -/
def columnExpr (c : ColumnRef) : Expr := .column c.table c.column

/-- The value that the reference is to. -/
def toExpr (c : ColumnRef) (dialect : Dialect) : Expr :=
  if c.path.isEmpty then c.columnExpr
  else match dialect with
    | .mysql =>
      let keys := c.path.map fun key => "\"" ++ key ++ "\""
      .call "JSON_UNQUOTE" [] (.call "JSON_EXTRACT" [] c.columnExpr [.text ("$." ++ ".".intercalate keys)]) []
    | .postgres =>
      .call "json_extract_path_text" [] (.cast c.columnExpr "JSON") (c.path.map .text)
    | .sqlite => .call "json_extract" [] c.columnExpr [.text ("$." ++ ".".intercalate c.path)]

/-- The value that the reference is to, cast to a type if it comes from a document. -/
def toCastExpr (c : ColumnRef) (dialect : Dialect) (type : String) : Expr :=
  if c.isPath then .cast (c.toExpr dialect) type else c.toExpr dialect

end ColumnRef
end RequestQuery
