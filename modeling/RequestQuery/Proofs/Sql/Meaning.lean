import RequestQuery.Proofs.Sql.Pattern
import RequestQuery.Sql.Expr

/-! # What expressions mean

The value of an expression in a row, as a database system finds it.  Truth has
three values: what is compared with the null is neither true nor false, and a row
is kept only where its condition is true.

A system is free in what its functions and casts do and in how it orders values,
as long as any two values compare and the order is transitive; values that are
each at most the other count as equal.
-/
namespace RequestQuery

/-! ## Values -/

/-- A value in a row, or the null. -/
inductive Datum where
  | null
  | bool (value : Bool)
  | int (value : Int)
  | real (value : Binary64)
  | text (value : String)
  | date (value : Date)
  deriving DecidableEq, Repr

namespace Datum

/-- A bound value.  None of them is the null. -/
def ofSqlValue : SqlValue → Datum
  | .bool b => bool b
  | .int i | .bigInt i => int i
  | .bigUnsigned n => int n
  | .double x => real x
  | .text s => text s
  | .date d => date d

/-- A text that may be missing. -/
def ofText? : Option String → Datum
  | some s => text s
  | none => null

/-- A whole number that may be missing. -/
def ofInt? : Option Int → Datum
  | some i => int i
  | none => null

/-- The text of a value, if it is one. -/
def text? : Datum → Option String
  | text s => some s
  | _ => none

theorem ofSqlValue_ne_null (v : SqlValue) : ofSqlValue v ≠ null := by
  cases v <;> simp [ofSqlValue]

@[simp] theorem text?_ofText? (x : Option String) : (ofText? x).text? = x := by
  cases x <;> rfl

@[simp] theorem ofText?_eq_null {x : Option String} : ofText? x = null ↔ x = none := by
  cases x <;> simp [ofText?]

/-- The values that are texts. -/
def IsText (x : Datum) : Prop := ∃ s, x = text s

/-- The integers of 64 bits. -/
def IsInt64 (x : Datum) : Prop := ∃ i, x = int i ∧ fitsInt64 i = true

end Datum

/-! ## Truth -/

/-- True, false, or neither. -/
abbrev Truth := Option Bool

namespace Truth

/-- Whether both are true. -/
def both : Truth → Truth → Truth
  | some false, _ => some false
  | _, some false => some false
  | some true, some true => some true
  | _, _ => none

/-- Whether one at least is true. -/
def either : Truth → Truth → Truth
  | some true, _ => some true
  | _, some true => some true
  | some false, some false => some false
  | _, _ => none

@[simp] theorem both_eq_true {a b : Truth} :
    both a b = some true ↔ a = some true ∧ b = some true := by
  rcases a with _ | _ | _ <;> rcases b with _ | _ | _ <;> decide

@[simp] theorem either_eq_true {a b : Truth} :
    either a b = some true ↔ a = some true ∨ b = some true := by
  rcases a with _ | _ | _ <;> rcases b with _ | _ | _ <;> decide

end Truth

namespace Datum

/-- A truth as a value: neither true nor false is the null. -/
def ofTruth : Truth → Datum
  | some b => bool b
  | none => null

/-- The truth of a value.  Of the numbers, zero is false. -/
def truth : Datum → Truth
  | bool b => some b
  | int i => some (i != 0)
  | _ => none

@[simp] theorem truth_ofTruth (t : Truth) : (ofTruth t).truth = t := by
  cases t <;> rfl

end Datum

/-! ## Systems -/

/-- A database system: its dialect, its order of the values that are not null, and what its
functions and casts do. -/
structure Engine where
  dialect : Dialect
  le : Datum → Datum → Bool
  le_trans : ∀ a b c, le a b → le b c → le a c
  le_total : ∀ a b, le a b ∨ le b a
  call : String → List SqlValue → Datum → List SqlValue → Datum
  cast : String → Datum → Datum

namespace Engine

variable (E : Engine)

/-- Whether two values that are not null are in a relation. -/
def relates (r : Comparison) (a b : Datum) : Bool :=
  match r with
  | .equal => E.le a b && E.le b a
  | .differs => !(E.le a b && E.le b a)
  | .less => !E.le b a
  | .atMost => E.le a b
  | .greater => !E.le a b
  | .atLeast => E.le b a

/-- Whether two values are in a relation; with the null nothing is in one. -/
def compare (r : Comparison) (a b : Datum) : Truth :=
  if a = .null ∨ b = .null then none else some (E.relates r a b)

/-- Different values of a kind do not count as equal. -/
def Separates (kind : Datum → Prop) : Prop :=
  ∀ a b, kind a → kind b → E.le a b → E.le b a → a = b

/-- Whole numbers are in their usual order. -/
def OrdersIntegers : Prop :=
  ∀ a b : Int, E.le (.int a) (.int b) = true ↔ a ≤ b

variable {E}

theorem compare_eq_true {r : Comparison} {a b : Datum} :
    E.compare r a b = some true ↔ a ≠ .null ∧ b ≠ .null ∧ E.relates r a b = true := by
  by_cases ha : a = .null
  · simp [compare, ha]
  · by_cases hb : b = .null <;> simp [compare, ha, hb]

theorem le_refl (a : Datum) : E.le a a = true := by
  simpa using E.le_total a a

theorem Separates.relates_equal {kind : Datum → Prop} (h : E.Separates kind) {a b : Datum}
    (ha : kind a) (hb : kind b) : E.relates .equal a b = true ↔ a = b := by
  simp only [relates, Bool.and_eq_true]
  constructor
  · rintro ⟨hab, hba⟩
    exact h a b ha hb hab hba
  · rintro rfl
    exact ⟨le_refl a, le_refl a⟩

theorem Separates.relates_differs {kind : Datum → Prop} (h : E.Separates kind) {a b : Datum}
    (ha : kind a) (hb : kind b) : E.relates .differs a b = true ↔ a ≠ b := by
  have : E.relates .differs a b = !E.relates .equal a b := rfl
  rw [this, Ne, ← h.relates_equal ha hb, Bool.not_eq_true', Bool.not_eq_true]

end Engine

/-! ## Expressions -/

/-- The value of each column of a row, by the table it is qualified with, if any, and its name. -/
abbrev Row := Option String → String → Datum

namespace Expr

variable (E : Engine) (row : Row)

/-- The value of an expression.  Only whole numbers are calculated with, and only texts fit
patterns. -/
def eval : Expr → Datum
  | column table name => row table name
  | value v => .ofSqlValue v
  | call function before argument after => E.call function before (eval argument) after
  | cast e type => E.cast type (eval e)
  | compare r left right => .ofTruth (E.compare r (eval left) (eval right))
  | isNull e => .bool (eval e == .null)
  | isNotNull e => .bool (eval e != .null)
  | oneOf e values =>
    .ofTruth <| values.foldr
      (fun v t => Truth.either (E.compare .equal (eval e) (.ofSqlValue v)) t) (some false)
  | between e low high =>
    .ofTruth <| Truth.both (E.compare .atLeast (eval e) (.ofSqlValue low))
      (E.compare .atMost (eval e) (.ofSqlValue high))
  | like e pattern => .ofTruth ((eval e).text?.map fun s => Pattern.accepts pattern.toList s.toList)
  | notLike e pattern =>
    .ofTruth ((eval e).text?.map fun s => !Pattern.accepts pattern.toList s.toList)
  | plus left right => calculate (· + ·) (eval left) (eval right)
  | times left right => calculate (· * ·) (eval left) (eval right)
  | both left right => .ofTruth (Truth.both (eval left).truth (eval right).truth)
  | either left right => .ofTruth (Truth.either (eval left).truth (eval right).truth)
  | truth b => .bool b
where
  /-- A calculation with whole numbers. -/
  calculate (f : Int → Int → Int) : Datum → Datum → Datum
    | .int a, .int b => .int (f a b)
    | _, _ => .null

/-- Whether a condition is true in a row. -/
def Holds (e : Expr) : Prop := (e.eval E row).truth = some true

instance (e : Expr) : Decidable (e.Holds E row) := inferInstanceAs (Decidable (_ = _))

variable {E row}

attribute [local simp] eval

theorem holds_compareTo {e : Expr} {r : Comparison} {v : SqlValue} :
    (e.compareTo r v).Holds E row ↔
      e.eval E row ≠ .null ∧ E.relates r (e.eval E row) (.ofSqlValue v) = true := by
  simp [Holds, compareTo, Engine.compare_eq_true, Datum.ofSqlValue_ne_null]

theorem holds_isNull {e : Expr} : (isNull e).Holds E row ↔ e.eval E row = .null := by
  simp [Holds, Datum.truth]

theorem holds_isNotNull {e : Expr} : (isNotNull e).Holds E row ↔ e.eval E row ≠ .null := by
  simp [Holds, Datum.truth]

theorem holds_both {left right : Expr} :
    (both left right).Holds E row ↔ left.Holds E row ∧ right.Holds E row := by
  simp [Holds]

theorem holds_either {left right : Expr} :
    (either left right).Holds E row ↔ left.Holds E row ∨ right.Holds E row := by
  simp [Holds]

theorem holds_all {conditions : List Expr} :
    (all conditions).Holds E row ↔ ∀ e ∈ conditions, e.Holds E row := by
  cases conditions with
  | nil => simp [Holds, all, Datum.truth]
  | cons e rest =>
    simp only [all, List.forall_mem_cons]
    induction rest generalizing e with
    | nil => simp
    | cons c rest ih => rw [List.foldl_cons, ih, holds_both, List.forall_mem_cons, and_assoc]

theorem holds_oneOf {e : Expr} {values : List SqlValue} :
    (oneOf e values).Holds E row ↔ ∃ v ∈ values, (e.compareTo .equal v).Holds E row := by
  simp only [Holds, eval, compareTo, Datum.truth_ofTruth]
  induction values with
  | nil => simp
  | cons v rest ih => simp [ih]

theorem holds_like {e : Expr} {pattern : String} :
    (like e pattern).Holds E row ↔
      ∃ s, (e.eval E row).text? = some s ∧ Pattern.accepts pattern.toList s.toList = true := by
  simp [Holds]

theorem holds_notLike {e : Expr} {pattern : String} :
    (notLike e pattern).Holds E row ↔
      ∃ s, (e.eval E row).text? = some s ∧ ¬ Pattern.accepts pattern.toList s.toList = true := by
  simp [Holds]

end Expr
end RequestQuery
