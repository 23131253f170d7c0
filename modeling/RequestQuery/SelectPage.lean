import RequestQuery.SelectOption
import RequestQuery.Sql.Render

/-! # Pages of select options

The options of the rows of a query, page by page.  Pages are numbered from one.
Two queries make a page: one counts all rows and so tells how many pages there
are, the other fetches the rows of the page.
-/
namespace RequestQuery

/-- A page of options. -/
structure SelectPage where
  data : List SelectOption
  hasMore : Bool
  perPage : Nat
  currentPage : Nat

/-- The number of pages that some rows fill, the last one perhaps in part. -/
def pageCount (rows perPage : Nat) : Nat :=
  rows / perPage + if 0 < rows % perPage then 1 else 0

/-- A page as it is asked for.  Page zero is the first one, and a page holds one row at least. -/
structure SelectPaging where
  select : Select
  perPage : Nat
  page : Nat

namespace SelectPaging

/-- The number of rows on a page. -/
def size (p : SelectPaging) : Nat := max p.perPage 1

/-- The number of the page. -/
def number (p : SelectPaging) : Nat := max p.page 1

/-- How many rows are before the page, a word of 64 bits. -/
def skipped (p : SelectPaging) : Nat := p.size * (p.number - 1) % 0x10000000000000000

/-- The query for the number of all rows. -/
def countQuery (p : SelectPaging) : Query :=
  .count p.select

/-- The query for the rows of the page. -/
def pageQuery (p : SelectPaging) : Query :=
  .select { p.select with limit := some p.size, offset := some p.skipped }

/-- The page of the answers to the two queries. -/
def ofAnswers {α : Type} [Selectable α] (p : SelectPaging) (count : Nat) (rows : List α) : SelectPage :=
  { data := Selectable.options none rows
    hasMore := p.number < pageCount count p.size
    perPage := p.size
    currentPage := p.number }

end SelectPaging
end RequestQuery
