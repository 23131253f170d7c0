import RequestQuery.Filter.Date
import RequestQuery.Filter.Number
import RequestQuery.Filter.Text

/-! # Filterers

A filterer turns the value of a request into at most one condition on one
column.  Three are built in, one for each domain, and an entity may bring its
own.  Conditions are appended to a target in the order in which they are built.
-/
namespace RequestQuery

/-- What turns a value into a condition on a column. -/
inductive Filterer where
  | builtIn (domain : Domain)
  | custom (build : FilterContext → ColumnRef → RawValue → Option Expr)

namespace Filterer

/-- The built-in filterer of a name. -/
def named (name : String) : Except QueryError Filterer :=
  match Domain.read name with
  | .ok domain => .ok (builtIn domain)
  | .error _ => .error (.unknownFilterer name)

/-- The condition of an operator code and its value. -/
def buildDomain (domain : Domain) (ctx : FilterContext) (c : ColumnRef) (v : FilterValue) : Option Expr :=
  match domain with
  | .text => (TextOperator.ofCode? v.operator).bind (TextFilter.build ctx c v.value)
  | .number => (NumberOperator.ofCode? v.operator).bind (NumberFilter.build ctx c v.value)
  | .date => (DateOperator.ofCode? v.operator).bind (DateFilter.build ctx c v.value)

/-- The condition of a value, if there is one. -/
def build (f : Filterer) (ctx : FilterContext) (c : ColumnRef) (value : RawValue) : Option Expr :=
  match f with
  | builtIn domain => buildDomain domain ctx c (.ofRaw ctx.settings.filters domain value)
  | custom build => build ctx c value

end Filterer

/-! ## Targets -/

/-- How the conditions of a target are connected. -/
inductive Connective where
  | all
  | any
  deriving DecidableEq, Repr

/-- Conditions with one connective. -/
structure Junction where
  connective : Connective
  members : List Expr := []
  deriving DecidableEq, Repr

/-- The condition that a junction is. -/
def Junction.toExpr (j : Junction) : Expr :=
  match j.connective with
  | .all => Expr.all j.members
  | .any => Expr.any j.members

/-- What conditions can be appended to. -/
class QueryTarget (τ : Type) where
  add : τ → Expr → τ

/-- A list of conditions takes a further one at its end. -/
instance : QueryTarget (List Expr) := ⟨fun es e => es ++ [e]⟩

/-- A query takes a condition that its rows fulfil besides all others. -/
instance : QueryTarget Select := ⟨Select.filter⟩

/-- A junction takes a condition at its end. -/
instance : QueryTarget Junction := ⟨fun j e => { j with members := j.members ++ [e] }⟩

/-- Appends the condition of a value, if there is one. -/
def Filterer.apply {τ : Type} [QueryTarget τ] (f : Filterer) (ctx : FilterContext) (target : τ)
    (c : ColumnRef) (value : RawValue) : τ :=
  match f.build ctx c value with
  | some e => QueryTarget.add target e
  | none => target

end RequestQuery
