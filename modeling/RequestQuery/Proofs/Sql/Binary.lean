import Mathlib.Data.Char
import Mathlib.Data.List.Lex
import Mathlib.Data.Prod.Lex
import Mathlib.Order.Defs.LinearOrder
import RequestQuery.Proofs.Sql.Meaning

/-! # A system that compares by value

The plainest system: values are ordered by their kind and then by themselves,
texts by their code points.  No two texts count as equal.
-/
namespace RequestQuery

namespace Datum

/-- Where a value stands among all values. -/
def place : Datum → ℕ ×ₗ ℤ ×ₗ List Char
  | null => toLex (0, toLex (0, []))
  | bool b => toLex (1, toLex (b.toNat, []))
  | int i => toLex (2, toLex (i, []))
  | real x => toLex (3, toLex (if x.negative then -(x.rank : ℤ) else x.rank, []))
  | text s => toLex (4, toLex (0, s.toList))
  | date d => toLex (5, toLex (d.dayNumber, []))

end Datum

namespace Engine

/-- The system that orders values by their places.  Its casts keep every value. -/
def binary (dialect : Dialect) (call : String → List SqlValue → Datum → List SqlValue → Datum) :
    Engine where
  dialect
  le a b := decide (a.place ≤ b.place)
  le_trans a b c hab hbc := by
    simp only [decide_eq_true_eq] at *
    exact hab.trans hbc
  le_total a b := by
    simp only [decide_eq_true_eq]
    exact total_of (· ≤ ·) a.place b.place
  call
  cast _ x := x

variable {dialect : Dialect} {call : String → List SqlValue → Datum → List SqlValue → Datum}

theorem place_eq_of_binary_le {a b : Datum} (hab : (binary dialect call).le a b)
    (hba : (binary dialect call).le b a) : a.place = b.place := by
  simp only [binary, decide_eq_true_eq] at hab hba
  exact le_antisymm hab hba

theorem binary_separates_text : (binary dialect call).Separates Datum.IsText := by
  rintro _ _ ⟨s, rfl⟩ ⟨t, rfl⟩ hab hba
  have := place_eq_of_binary_le hab hba
  simp only [Datum.place, toLex_inj, Prod.mk.injEq, String.toList_inj] at this
  rw [this.2.2]

theorem binary_ordersIntegers : (binary dialect call).OrdersIntegers := by
  intro a b
  have hle : (binary dialect call).le (.int a) (.int b) = true ↔
      (Datum.int a).place ≤ (Datum.int b).place := decide_eq_true_iff
  rw [hle, Datum.place, Datum.place, Prod.Lex.toLex_le_toLex, Prod.Lex.toLex_le_toLex]
  simp [le_iff_lt_or_eq]

end Engine
end RequestQuery
