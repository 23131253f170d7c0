import RequestQuery.Sql.Render

/-! # The shape of a statement

The text of a statement is made of the pieces of text of its expressions and of
placeholders.  Which value stands at a place does not show in it.  An expression
without its values is its shape, and expressions of one shape have one text
wherever they stand (`Expr.textOf_eq`, `Select.sql_eq`).
-/
namespace RequestQuery

/-- The value that stands for every value in a shape. -/
def SqlValue.blank : SqlValue := .text ""

/-- A piece without its value. -/
def SqlPiece.shape : SqlPiece → SqlPiece
  | text s => text s
  | bound _ => bound .blank

namespace Expr

/-- An expression without its values.  Of a list of values the length is left. -/
def shape : Expr → Expr
  | column table name => column table name
  | value _ => value .blank
  | call function before argument after =>
    call function (before.map fun _ => .blank) (shape argument) (after.map fun _ => .blank)
  | cast e type => cast (shape e) type
  | compare r left right => compare r (shape left) (shape right)
  | isNull e => isNull (shape e)
  | isNotNull e => isNotNull (shape e)
  | oneOf e values => oneOf (shape e) (values.map fun _ => .blank)
  | between e _ _ => between (shape e) .blank .blank
  | like e _ => like (shape e) ""
  | notLike e _ => notLike (shape e) ""
  | plus left right => plus (shape left) (shape right)
  | times left right => times (shape left) (shape right)
  | both left right => both (shape left) (shape right)
  | either left right => either (shape left) (shape right)
  | truth b => truth b

end Expr

/-! ## Pieces of one shape -/

namespace SqlPiece

/-- Whether two sequences of pieces differ at most in their values. -/
def SameShape (p q : List SqlPiece) : Prop := p.map shape = q.map shape

namespace SameShape

variable {p p' q q' : List SqlPiece}

theorem refl (p : List SqlPiece) : SameShape p p := rfl

theorem append (hp : SameShape p p') (hq : SameShape q q') : SameShape (p ++ q) (p' ++ q') := by
  unfold SameShape at *
  rw [List.map_append, List.map_append, hp, hq]

theorem cons (s : String) (h : SameShape p p') : SameShape (text s :: p) (text s :: p') :=
  append (refl [text s]) h

theorem enclose (needed : Bool) (h : SameShape p p') :
    SameShape (Expr.enclose needed p) (Expr.enclose needed p') := by
  cases needed with
  | true => exact cons "(" (append h (refl _))
  | false => exact h

theorem textOf (h : SameShape p q) (dialect : Dialect) (count : Nat) :
    Statement.textOf dialect count p = Statement.textOf dialect count q := by
  have shaped (r : List SqlPiece) (count : Nat) :
      Statement.textOf dialect count r = Statement.textOf dialect count (r.map shape) := by
    induction r generalizing count with
    | nil => rfl
    | cons piece rest ih => cases piece <;> simp [Statement.textOf, shape, ih]
  rw [shaped p, shaped q, h]

theorem length_valuesOf (h : SameShape p q) :
    (Statement.valuesOf p).length = (Statement.valuesOf q).length := by
  have shaped (r : List SqlPiece) :
      (Statement.valuesOf r).length = (Statement.valuesOf (r.map shape)).length := by
    induction r with
    | nil => rfl
    | cons piece rest ih => cases piece <;> simp [Statement.valuesOf, shape, ih]
  rw [shaped p, shaped q, h]

end SameShape
end SqlPiece

/-! ## Expressions of one shape -/

namespace Expr

open SqlPiece (SameShape)

variable {dialect : Dialect}

@[simp] theorem looseAtLeft_shape (e : Expr) (conjunction : Bool) :
    e.shape.looseAtLeft conjunction = e.looseAtLeft conjunction := by
  cases e <;> rfl

@[simp] theorem looseAtRight_shape (e : Expr) : e.shape.looseAtRight = e.looseAtRight := by
  cases e <;> rfl

@[simp] theorem isCalculation_shape (e : Expr) : e.shape.isCalculation = e.isCalculation := by
  cases e <;> rfl

theorem sameShape_listPieces (values : List SqlValue) :
    SameShape (listPieces (values.map fun _ => .blank)) (listPieces values) := by
  induction values with
  | nil => rfl
  | cons v rest ih =>
    cases rest with
    | nil => rfl
    | cons w rest =>
      simp only [SameShape, List.map_cons, listPieces] at ih ⊢
      rw [ih]
      rfl

theorem sameShape_flatMap {f : SqlValue → List SqlPiece} (hf : ∀ v, SameShape (f .blank) (f v))
    (values : List SqlValue) :
    SameShape ((values.map fun _ => SqlValue.blank).flatMap f) (values.flatMap f) := by
  induction values with
  | nil => rfl
  | cons v rest ih => exact (hf v).append ih

/-- The pieces of an expression and of its shape differ at most in their values. -/
theorem sameShape_pieces_shape (e : Expr) :
    SameShape (e.shape.pieces dialect) (e.pieces dialect) := by
  induction e with
  | column table name => rfl
  | value v => rfl
  | call function before argument after ih =>
    have hbefore := sameShape_flatMap (f := fun v => [.bound v, .text ", "]) (fun _ => rfl) before
    have hafter := sameShape_flatMap (f := fun v => [.text ", ", .bound v]) (fun _ => rfl) after
    exact .cons _ (((hbefore.append ih).append hafter).append (.refl _))
  | cast e type ih => exact .cons _ (ih.append (.refl _))
  | compare r left right ihl ihr => exact ihl.append (.cons _ ihr)
  | isNull e ih => exact ih.append (.refl _)
  | isNotNull e ih => exact ih.append (.refl _)
  | oneOf e values ih =>
    cases values with
    | nil => rfl
    | cons v rest => exact ih.append (.cons _ ((sameShape_listPieces (v :: rest)).append (.refl _)))
  | between e low high ih => exact ih.append rfl
  | like e pattern ih => exact ih.append rfl
  | notLike e pattern ih => exact ih.append rfl
  | plus left right ihl ihr | times left right ihl ihr =>
    simp only [shape, pieces, isCalculation_shape]
    exact (ihl.enclose _).append (.cons _ (ihr.enclose _))
  | both left right ihl ihr | either left right ihl ihr =>
    simp only [shape, pieces, looseAtLeft_shape, looseAtRight_shape]
    exact (ihl.enclose _).append (.cons _ (ihr.enclose _))
  | truth b => rfl

variable {a b : Expr}

theorem sameShape_pieces (h : a.shape = b.shape) :
    SameShape (a.pieces dialect) (b.pieces dialect) :=
  (sameShape_pieces_shape a).symm.trans (h ▸ sameShape_pieces_shape b)

/-- Expressions of one shape have one text, and as many values. -/
theorem sameShape_statement (h : a.shape = b.shape) :
    (a.statement dialect).sql = (b.statement dialect).sql ∧
      (a.statement dialect).values.length = (b.statement dialect).values.length := by
  have : SameShape (Select.pieces dialect { projections := [{ expr := a }] })
      (Select.pieces dialect { projections := [{ expr := b }] }) :=
    ((SameShape.cons _ ((sameShape_pieces h).append (.refl _))).append (.refl _)).append (.refl _)
  exact ⟨this.textOf dialect 0, this.length_valuesOf⟩

/-! ## Queries with conditions of one shape -/

theorem shape_all (conditions : List Expr) :
    (all conditions).shape = all (conditions.map shape) := by
  cases conditions with
  | nil => rfl
  | cons e rest =>
    simp only [all, List.map_cons]
    induction rest generalizing e with
    | nil => rfl
    | cons c rest ih => exact ih (both e c)

end Expr

namespace Select

open SqlPiece (SameShape)

variable {dialect : Dialect}

/-- A query with other conditions of the same shapes has the same text. -/
theorem sql_eq (s : Select) {conditions conditions' : List Expr}
    (h : conditions.map Expr.shape = conditions'.map Expr.shape) :
    ((Query.select { s with conditions := conditions }).statement dialect).sql =
      ((Query.select { s with conditions := conditions' }).statement dialect).sql := by
  have hempty : conditions.isEmpty = conditions'.isEmpty := by
    simpa using congrArg List.isEmpty h
  have hall : SameShape ((Expr.all conditions).pieces dialect)
      ((Expr.all conditions').pieces dialect) :=
    Expr.sameShape_pieces (by rw [Expr.shape_all, Expr.shape_all, h])
  have hwhere : SameShape
      (if conditions.isEmpty then [] else .text " WHERE " :: (Expr.all conditions).pieces dialect)
      (if conditions'.isEmpty then [] else .text " WHERE " ::
        (Expr.all conditions').pieces dialect) := by
    rw [hempty]
    split
    · exact .refl _
    · exact hall.cons _
  have hpieces : SameShape (Select.pieces dialect { s with conditions := conditions })
      (Select.pieces dialect { s with conditions := conditions' }) :=
    .append (.refl _) <| .append (.refl _) <|
      ((hwhere.append (.refl _)).append (.refl _)).append (.refl _)
  exact hpieces.textOf dialect 0

end Select
end RequestQuery
