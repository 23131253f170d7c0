import Mathlib.Data.Char
import Mathlib.Data.List.Lex
import Mathlib.Data.Prod.Lex
import RequestQuery.Proofs.Number.Ladder
import RequestQuery.Proofs.Sql.Meaning

/-! # A system that compares numbers by value

Whole numbers and binary64 numbers stand in one order, that of the numbers they
stand for: a whole number compares with a binary64 number without being rounded.
Values of other kinds are ordered by their kind and then by themselves.
-/
namespace RequestQuery

namespace Datum

/-- The number that a value stands for, if it is one. -/
def number? : Datum → Option ℚ
  | int i => some i
  | real x => some x.toRat
  | _ => none

/-- Where a value stands among all values, all numbers in one order. -/
def numericPlace : Datum → ℕ ×ₗ ℚ ×ₗ List Char
  | null => toLex (0, toLex (0, []))
  | bool b => toLex (1, toLex (b.toNat, []))
  | int i => toLex (2, toLex (i, []))
  | real x => toLex (2, toLex (x.toRat, []))
  | text s => toLex (3, toLex (0, s.toList))
  | date d => toLex (4, toLex (d.dayNumber, []))

theorem numericPlace_of_number? {a : Datum} {q : ℚ} (h : a.number? = some q) :
    a.numericPlace = toLex (2, toLex (q, [])) := by
  cases a with
  | int | real =>
    cases h
    rfl
  | _ => cases h

end Datum

namespace Engine

/-- Numbers are in their usual order, however they are held. -/
def ComparesNumbers (E : Engine) : Prop :=
  ∀ {a b : Datum} {q r : ℚ}, a.number? = some q → b.number? = some r → (E.le a b = true ↔ q ≤ r)

/-- The system that orders values by their places, numbers by value.  Its casts keep every value. -/
def numeric (dialect : Dialect) (call : String → List SqlValue → Datum → List SqlValue → Datum) :
    Engine where
  dialect
  le a b := decide (a.numericPlace ≤ b.numericPlace)
  le_trans a b c hab hbc := by
    simp only [decide_eq_true_eq] at *
    exact hab.trans hbc
  le_total a b := by
    simp only [decide_eq_true_eq]
    exact total_of (· ≤ ·) a.numericPlace b.numericPlace
  call
  cast _ x := x

theorem numeric_comparesNumbers {dialect : Dialect}
    {call : String → List SqlValue → Datum → List SqlValue → Datum} :
    (numeric dialect call).ComparesNumbers := by
  intro a b q r ha hb
  have hle : (numeric dialect call).le a b = true ↔ a.numericPlace ≤ b.numericPlace :=
    decide_eq_true_iff
  rw [hle, Datum.numericPlace_of_number? ha, Datum.numericPlace_of_number? hb,
    Prod.Lex.toLex_le_toLex, Prod.Lex.toLex_le_toLex]
  simp [le_iff_lt_or_eq]

end Engine
end RequestQuery
