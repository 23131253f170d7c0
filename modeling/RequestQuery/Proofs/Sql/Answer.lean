import Mathlib.Data.List.Pairwise
import Mathlib.Data.List.Sort
import RequestQuery.Proofs.Sql.Meaning

/-! # What queries answer

The rows that a query is answered with, clause by clause: those that fulfil the
conditions are kept, of rows that are selected alike one only if they are to be
distinct, then they are put in order, and the limit is counted off.  The dialects
differ in where they put the nulls.

What a query for distinct values answers does not depend on how a system finds
it: it is the beginning of the one list that is strictly in order and has the
values of the admitted rows in it (`answer_distinct`).
-/
namespace RequestQuery

/-! ## Order -/

/-- Whether the nulls come before all values, upwards. -/
def Dialect.nullsFirst : Dialect → Bool
  | sqlite | mysql => true
  | postgres => false

namespace Engine

variable (E : Engine)

/-- Whether a value may stand before another, upwards.  The nulls stand together at one end. -/
def ascends (a b : Datum) : Bool :=
  if a = .null then E.dialect.nullsFirst || b == .null
  else if b = .null then !E.dialect.nullsFirst
  else E.le a b

/-- Whether a value may stand before another in a direction. -/
def inOrder : Direction → Datum → Datum → Bool
  | .ascending, a, b => E.ascends a b
  | .descending, a, b => E.ascends b a

/-- Whether a value comes before another, and not after it as well. -/
def Before (direction : Direction) (a b : Datum) : Prop :=
  E.inOrder direction b a = false

instance (direction : Direction) (a b : Datum) : Decidable (E.Before direction a b) :=
  inferInstanceAs (Decidable (_ = _))

/-- Whether two values count as equal where rows are to be distinct.  There the nulls do. -/
def same (a b : Datum) : Bool := E.ascends a b && E.ascends b a

/-- Whether a row may stand before another, by the first term that tells them apart. -/
def rowsInOrder : List OrderTerm → Row → Row → Bool
  | [], _, _ => true
  | t :: rest, a, b =>
    E.inOrder t.direction (t.key.eval E a) (t.key.eval E b) &&
      (!E.inOrder t.direction (t.key.eval E b) (t.key.eval E a) || rowsInOrder rest a b)

variable {E} {direction : Direction} {a b c : Datum}

theorem ascends_total (a b : Datum) : E.ascends a b = true ∨ E.ascends b a = true := by
  have := E.le_total a b
  unfold ascends
  split <;> split <;> simp_all

theorem ascends_trans (hab : E.ascends a b = true) (hbc : E.ascends b c = true) :
    E.ascends a c = true := by
  have := E.le_trans a b c
  unfold ascends at *
  by_cases ha : a = .null
  · by_cases hb : b = .null <;> simp_all
  · by_cases hb : b = .null <;> by_cases hc : c = .null <;> simp_all

theorem inOrder_total (a b : Datum) :
    E.inOrder direction a b = true ∨ E.inOrder direction b a = true := by
  cases direction with
  | ascending => exact ascends_total a b
  | descending => exact ascends_total b a

theorem inOrder_trans (hab : E.inOrder direction a b = true)
    (hbc : E.inOrder direction b c = true) :
    E.inOrder direction a c = true := by
  cases direction with
  | ascending => exact ascends_trans hab hbc
  | descending => exact ascends_trans hbc hab

theorem same_eq_inOrder (direction : Direction) (a b : Datum) :
    E.same a b = (E.inOrder direction a b && E.inOrder direction b a) := by
  cases direction with
  | ascending => rfl
  | descending => exact Bool.and_comm _ _

theorem same_refl (a : Datum) : E.same a a = true := by
  simpa [same] using ascends_total (E := E) a a

theorem same_trans (hab : E.same a b = true) (hbc : E.same b c = true) : E.same a c = true := by
  simp only [same, Bool.and_eq_true] at *
  exact ⟨ascends_trans hab.1 hbc.1, ascends_trans hbc.2 hab.2⟩

theorem same_symm (h : E.same a b = true) : E.same b a = true := by
  simp only [same, Bool.and_eq_true] at *
  exact h.symm

theorem Before.inOrder (h : E.Before direction a b) : E.inOrder direction a b = true :=
  (inOrder_total a b).resolve_right (by simp [show E.inOrder direction b a = false from h])

theorem Before.not_same (h : E.Before direction a b) : ¬ E.same a b = true := by
  rw [same_eq_inOrder direction, show E.inOrder direction b a = false from h]
  simp

theorem not_before_null (hfirst : E.dialect.nullsFirst = true) : ¬ E.Before .ascending a .null := by
  simp [Before, inOrder, ascends, hfirst]

theorem null_before_iff (hfirst : E.dialect.nullsFirst = true) :
    E.Before .ascending .null b ↔ b ≠ .null := by
  simp [Before, inOrder, ascends, hfirst]

theorem not_null_before (hlast : E.dialect.nullsFirst = false) : ¬ E.Before .ascending .null b := by
  by_cases hb : b = .null <;> simp [Before, inOrder, ascends, hlast, hb]

/-- Values in order that do not count as equal are strictly in order. -/
theorem before_of_inOrder (h : E.inOrder direction a b = true) (hsame : ¬ E.same a b = true) :
    E.Before direction a b := by
  rw [same_eq_inOrder direction, h, Bool.true_and, Bool.not_eq_true] at hsame
  exact hsame

instance : Std.Irrefl (E.Before direction) where
  irrefl a h := h.not_same (same_refl a)

instance : Std.Antisymm (E.Before direction) where
  antisymm a b hab hba := by
    have := hab.inOrder
    rw [show E.inOrder direction a b = false from hba] at this
    cases this

/-- Values of a list strictly in order that count as equal are equal. -/
theorem eq_of_same {values : List Datum} (h : values.Pairwise (E.Before direction))
    (ha : a ∈ values) (hb : b ∈ values) (hsame : E.same a b = true) : a = b := by
  have : Std.Symm fun a b : Datum => E.same a b = true → a = b :=
    ⟨fun _ _ h hsame => (h (same_symm hsame)).symm⟩
  have hpairs : values.Pairwise fun a b => E.same a b = true → a = b :=
    h.imp fun hbefore hsame => absurd hsame hbefore.not_same
  exact hpairs.forall_of_forall (fun _ _ _ => rfl) ha hb hsame

theorem rowsInOrder_total (terms : List OrderTerm) (a b : Row) :
    E.rowsInOrder terms a b = true ∨ E.rowsInOrder terms b a = true := by
  induction terms with
  | nil => exact .inl rfl
  | cons t rest ih =>
    have htotal : E.inOrder t.direction (t.key.eval E a) (t.key.eval E b) = true ∨
        E.inOrder t.direction (t.key.eval E b) (t.key.eval E a) = true := inOrder_total _ _
    rcases htotal with h | h
    · cases h' : E.inOrder t.direction (t.key.eval E b) (t.key.eval E a) <;>
        simp [rowsInOrder, h, h', ih]
    · cases h' : E.inOrder t.direction (t.key.eval E a) (t.key.eval E b) <;>
        simp [rowsInOrder, h, h', ih]

theorem rowsInOrder_trans {terms : List OrderTerm} {a b c : Row}
    (hab : E.rowsInOrder terms a b = true)
    (hbc : E.rowsInOrder terms b c = true) : E.rowsInOrder terms a c = true := by
  induction terms with
  | nil => rfl
  | cons t rest ih =>
    simp only [rowsInOrder, Bool.and_eq_true, Bool.or_eq_true, Bool.not_eq_true'] at *
    refine ⟨inOrder_trans hab.1 hbc.1, ?_⟩
    -- If the term does not tell the first row from the last, it tells neither from the one between.
    cases hca : E.inOrder t.direction (t.key.eval E c) (t.key.eval E a) with
    | false => exact .inl rfl
    | true =>
      have hba := inOrder_trans hbc.1 hca
      have hcb := inOrder_trans hca hab.1
      exact .inr (ih (hab.2.resolve_left (by simp [hba])) (hbc.2.resolve_left (by simp [hcb])))

end Engine

/-! ## Answers -/

namespace Select

variable (E : Engine) (s : Select)

/-- A row as an ordering sees it: the name of something selected hides a column of that name. -/
def visible (row : Row) : Row := fun table name =>
  match table, s.projections.find? (·.alias? == some name) with
  | none, some p => p.expr.eval E row
  | _, _ => row table name

/-- Whether two rows are selected alike. -/
def sameRows (a b : Row) : Bool :=
  s.projections.all fun p => E.same (p.expr.eval E a) (p.expr.eval E b)

/-- The rows that fulfil the conditions. -/
def admitted (rows : List Row) : List Row :=
  rows.filter fun row => (Expr.all s.conditions).Holds E row

/-- The admitted rows, one of those that are selected alike if they are to be distinct. -/
def kept (rows : List Row) : List Row :=
  if s.distinct then (s.admitted E rows).pwFilter fun a b => ¬ s.sameRows E a b = true
  else s.admitted E rows

/-- The kept rows in order. -/
def sorted (rows : List Row) : List Row :=
  (s.kept E rows).insertionSort fun a b =>
    E.rowsInOrder s.order (s.visible E a) (s.visible E b) = true

/-- The part of a list that the offset and the limit leave. -/
def window {α : Type} (items : List α) : List α :=
  let rest := items.drop (s.offset.getD 0)
  match s.limit with
  | some n => rest.take n
  | none => rest

/-- What a query answers: for each row the values that are selected. -/
def answer (rows : List Row) : List (List Datum) :=
  (s.window (s.sorted E rows)).map fun row => s.projections.map (·.expr.eval E row)

/-! ## Distinct values -/

variable {E : Engine} {s : Select} {rows : List Row}

theorem mem_admitted {row : Row} :
    row ∈ s.admitted E rows ↔ row ∈ rows ∧ ∀ e ∈ s.conditions, e.Holds E row := by
  rw [admitted, List.mem_filter, decide_eq_true_eq, Expr.holds_all]

/-- Rows of which one only is kept are all found again, up to what counts as equal. -/
theorem exists_same_of_mem_admitted {row : Row} (hdistinct : s.distinct = true)
    (h : row ∈ s.admitted E rows) :
    ∃ other ∈ s.kept E rows, s.sameRows E row other = true := by
  rw [kept, if_pos hdistinct]
  have htrans : ∀ {x y z : Row}, ¬ s.sameRows E x z = true →
      ¬ s.sameRows E x y = true ∨ ¬ s.sameRows E y z = true := by
    intro x y z hxz
    by_contra hboth
    simp only [not_or, not_not, sameRows, List.all_eq_true] at hboth hxz
    exact hxz fun p hp => Engine.same_trans (hboth.1 p hp) (hboth.2 p hp)
  by_contra hnone
  have hall : ∀ other ∈ s.admitted E rows, ¬ s.sameRows E row other = true :=
    (List.forall_mem_pwFilter (R := fun a b => ¬ s.sameRows E a b = true) htrans row _).mp
      fun other hother hsame => hnone ⟨other, hother, hsame⟩
  refine hall row h ?_
  simp only [sameRows, List.all_eq_true]
  exact fun p _ => Engine.same_refl _

section
variable {value : Expr} {name : String} {direction : Direction}

/-- The values of the sorted rows of a query for distinct values are strictly in order. -/
theorem pairwise_sorted (hdistinct : s.distinct = true)
    (hprojections : s.projections = [⟨value, some name⟩])
    (horder : s.order = [⟨.column none name, direction⟩]) :
    ((s.sorted E rows).map (value.eval E)).Pairwise (E.Before direction) := by
  have hvisible : ∀ row, s.visible E row none name = value.eval E row := by
    intro row
    simp [visible, hprojections]
  have hdiffer : (s.sorted E rows).Pairwise fun a b =>
      ¬ E.same (value.eval E a) (value.eval E b) = true := by
    have hkept : (s.kept E rows).Pairwise fun a b =>
        ¬ E.same (value.eval E a) (value.eval E b) = true := by
      have := List.pairwise_pwFilter (R := fun a b => ¬ s.sameRows E a b = true) (s.admitted E rows)
      simpa [kept, hdistinct, sameRows, hprojections] using this
    refine ((List.perm_insertionSort _ _).pairwise_iff ?_).mpr hkept
    exact fun hab hba => hab (Engine.same_symm hba)
  have hordered : (s.sorted E rows).Pairwise fun a b =>
      E.inOrder direction (value.eval E a) (value.eval E b) = true := by
    have : Std.Total fun a b : Row =>
        E.rowsInOrder s.order (s.visible E a) (s.visible E b) = true :=
      ⟨fun a b => Engine.rowsInOrder_total s.order _ _⟩
    have : IsTrans Row fun a b => E.rowsInOrder s.order (s.visible E a) (s.visible E b) = true :=
      ⟨fun a b c => Engine.rowsInOrder_trans⟩
    have := List.pairwise_insertionSort
      (fun a b => E.rowsInOrder s.order (s.visible E a) (s.visible E b) = true) (s.kept E rows)
    simpa [sorted, horder, Engine.rowsInOrder, Expr.eval, hvisible] using this
  exact List.pairwise_map.mpr (hordered.imp₂ (fun _ _ => Engine.before_of_inOrder) hdiffer)

/-- **What a query for distinct values answers.**  If some values are strictly in order and are
those of the admitted rows, the answer is as many of them as the limit allows, from the first on. -/
theorem answer_distinct {values : List Datum} {n : Nat} (hdistinct : s.distinct = true)
    (hprojections : s.projections = [⟨value, some name⟩])
    (horder : s.order = [⟨.column none name, direction⟩]) (hoffset : s.offset = none)
    (hlimit : s.limit = some n) (hvalues : values.Pairwise (E.Before direction))
    (hmem : ∀ a, a ∈ values ↔ ∃ row ∈ s.admitted E rows, value.eval E row = a) :
    s.answer E rows = (values.take n).map ([·]) := by
  have heq : (s.sorted E rows).map (value.eval E) = values := by
    refine List.Pairwise.eq_of_mem_iff (pairwise_sorted hdistinct hprojections horder)
      hvalues fun a => ?_
    have hsorted : ∀ row, row ∈ s.sorted E rows ↔ row ∈ s.kept E rows :=
      fun row => (List.perm_insertionSort _ _).mem_iff
    have hkept : ∀ row ∈ s.kept E rows, row ∈ s.admitted E rows := by
      intro row hrow
      rw [kept, if_pos hdistinct] at hrow
      exact List.pwFilter_subset _ hrow
    simp only [List.mem_map, hsorted, hmem]
    constructor
    · rintro ⟨row, hrow, rfl⟩
      exact ⟨row, hkept row hrow, rfl⟩
    · -- The row that was kept for it has the same value: no two of the values count as equal.
      rintro ⟨row, hrow, rfl⟩
      obtain ⟨other, hother, hsame⟩ := exists_same_of_mem_admitted hdistinct hrow
      have hsame : E.same (value.eval E row) (value.eval E other) = true := by
        simpa [sameRows, hprojections] using hsame
      have hrow := (hmem _).mpr ⟨row, hrow, rfl⟩
      have hother' := (hmem _).mpr ⟨other, hkept other hother, rfl⟩
      exact ⟨other, hother, (Engine.eq_of_same hvalues hrow hother' hsame).symm⟩
  have hwindow : s.window (s.sorted E rows) = (s.sorted E rows).take n := by
    simp [window, hoffset, hlimit]
  rw [answer, hwindow, ← heq, ← List.map_take, List.map_map]
  exact List.map_congr_left fun row _ => by simp [hprojections]

end

end Select
end RequestQuery
