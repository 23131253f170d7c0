import RequestQuery.Proofs.Filter.Items
import RequestQuery.Proofs.Sql.Meaning

/-! # Scales

Whatever is compared on a scale is one expression, with one reading of operands.
On it a range says of a value what two comparisons with its ends say, and a list
what one of its items says; a range is a condition exactly if both of its ends
are read, and a list if all of its items are.
-/
namespace RequestQuery

/-- The condition is there and is true in the row. -/
def Selects (E : Engine) (row : Row) (condition? : Option Expr) : Prop :=
  ∃ e, condition? = some e ∧ e.Holds E row

@[simp] theorem selects_some {E : Engine} {row : Row} {e : Expr} :
    Selects E row (some e) ↔ e.Holds E row := by
  simp [Selects]

instance (E : Engine) (row : Row) : (condition? : Option Expr) → Decidable (Selects E row condition?)
  | none => isFalse (by simp [Selects])
  | some e => decidable_of_iff (e.Holds E row) selects_some.symm

@[simp] theorem not_selects_none {E : Engine} {row : Row} : ¬ Selects E row none := by
  simp [Selects]

theorem Selects.isSome {E : Engine} {row : Row} {condition? : Option Expr}
    (h : Selects E row condition?) : condition?.isSome := by
  obtain ⟨e, he, -⟩ := h
  rw [he, Option.isSome_some]

/-! ## Conditions on one expression -/

namespace Expr

variable {E : Engine} {row : Row} {e : Expr}

theorem holds_between {low high : SqlValue} :
    (between e low high).Holds E row ↔
      (e.compareTo .atLeast low).Holds E row ∧ (e.compareTo .atMost high).Holds E row := by
  simp [Holds, eval, compareTo]

/-- What is at least and at most a value counts as equal to it. -/
theorem holds_atLeast_and_atMost {v : SqlValue} :
    (e.compareTo .atLeast v).Holds E row ∧ (e.compareTo .atMost v).Holds E row ↔
      (e.compareTo .equal v).Holds E row := by
  simp only [holds_compareTo, Engine.relates, Bool.and_eq_true]
  constructor
  · rintro ⟨⟨hnull, hlow⟩, -, hhigh⟩
    exact ⟨hnull, hhigh, hlow⟩
  · rintro ⟨hnull, hhigh, hlow⟩
    exact ⟨⟨hnull, hlow⟩, hnull, hhigh⟩

end Expr

/-! ## Scales -/

section
variable {α β : Type} {f : α → Option β} {items : List α}

theorem isSome_mapM : (items.mapM f).isSome ↔ ∀ item ∈ items, (f item).isSome := by
  induction items with
  | nil => simp
  | cons item rest ih =>
    rw [List.forall_mem_cons, ← ih, List.mapM_cons]
    cases f item <;> cases rest.mapM f <;> simp

theorem mem_of_mapM {values : List β} (h : items.mapM f = some values) {value : β} :
    value ∈ values ↔ ∃ item ∈ items, f item = some value := by
  induction items generalizing values with
  | nil =>
    cases h
    simp
  | cons item rest ih =>
    rw [List.mapM_cons] at h
    obtain ⟨first, hfirst, h⟩ := Option.bind_eq_some_iff.mp h
    obtain ⟨others, hothers, h⟩ := Option.bind_eq_some_iff.mp h
    cases h
    simp [ih hothers, hfirst, eq_comm]

theorem mapM_option_map {γ : Type} (g : β → γ) :
    items.mapM (fun item => (f item).map g) = (items.mapM f).map (List.map g) := by
  induction items with
  | nil => rfl
  | cons item rest ih =>
    rw [List.mapM_cons, List.mapM_cons, ih]
    cases f item <;> cases rest.mapM f <;> rfl

end

/-- What is compared, and how operands are read.  Blanks around an operand do not count, and the empty
text is none. -/
structure Scale where
  subject : Expr
  operand? : String → Option SqlValue
  operand?_trim : ∀ s, operand? (Text.trim s) = operand? s
  operand?_empty : operand? "" = none

namespace Scale

variable (f : Scale)

/-- The condition of a comparison with an operand. -/
def compare (relation : Comparison) (s : String) : Option Expr :=
  (f.operand? s).map (f.subject.compareTo relation)

/-- The condition of a range. -/
def between (low high : String) : Option Expr := do
  return .between f.subject (← f.operand? low) (← f.operand? high)

/-- The condition of a list. -/
def oneOf (items : List String) : Option Expr :=
  (items.mapM f.operand?).map (.oneOf f.subject)

theorem compare_trim (relation : Comparison) (s : String) :
    f.compare relation (Text.trim s) = f.compare relation s := by
  rw [compare, f.operand?_trim, compare]

theorem between_trim (low high : String) :
    f.between (Text.trim low) (Text.trim high) = f.between low high := by
  rw [between, f.operand?_trim, f.operand?_trim, between]

theorem oneOf_empty : f.oneOf [""] = none := by
  rw [oneOf, List.mapM_cons, f.operand?_empty]
  rfl

/-- It makes no difference that a single item is not trimmed. -/
theorem oneOf_trimmedItems (items : List String) :
    f.oneOf (RawValue.trimmedItems items) = f.oneOf items := by
  have htrim : f.oneOf (items.map Text.trim) = f.oneOf items := by
    have hread : f.operand? ∘ Text.trim = f.operand? := funext f.operand?_trim
    rw [oneOf, List.mapM_map, hread, oneOf]
  match items with
  | [] => rfl
  | [item] => rfl
  | item :: item' :: rest => exact htrim

variable {f} {E : Engine} {row : Row}

theorem isSome_compare {relation : Comparison} {s : String} :
    (f.compare relation s).isSome ↔ (f.operand? s).isSome := by
  rw [compare, Option.isSome_map]

/-! ### Ranges -/

theorem isSome_between {low high : String} :
    (f.between low high).isSome ↔
      (f.compare .atLeast low).isSome ∧ (f.compare .atMost high).isSome := by
  rw [isSome_compare, isSome_compare, between]
  cases f.operand? low <;> cases f.operand? high <;> simp

theorem selects_between {low high : String} :
    Selects E row (f.between low high) ↔
      Selects E row (f.compare .atLeast low) ∧ Selects E row (f.compare .atMost high) := by
  rw [between, compare, compare]
  cases f.operand? low <;> cases f.operand? high <;> simp [Expr.holds_between]

/-- A range whose ends are the same is a point. -/
theorem isSome_point {s : String} : (f.between s s).isSome ↔ (f.compare .equal s).isSome := by
  rw [isSome_between, isSome_compare, isSome_compare, isSome_compare, and_self]

theorem selects_point {s : String} :
    Selects E row (f.between s s) ↔ Selects E row (f.compare .equal s) := by
  rw [between, compare]
  cases f.operand? s <;> simp [Expr.holds_between, Expr.holds_atLeast_and_atMost]

/-! ### Lists -/

theorem isSome_oneOf {items : List String} :
    (f.oneOf items).isSome ↔ ∀ item ∈ items, (f.compare .equal item).isSome := by
  simp only [oneOf, Option.isSome_map, isSome_mapM, isSome_compare]

theorem selects_oneOf {items : List String} (h : (f.oneOf items).isSome) :
    Selects E row (f.oneOf items) ↔ ∃ item ∈ items, Selects E row (f.compare .equal item) := by
  rw [oneOf, Option.isSome_map] at h
  obtain ⟨values, hvalues⟩ := Option.isSome_iff_exists.mp h
  rw [oneOf, hvalues, Option.map_some, selects_some, Expr.holds_oneOf]
  constructor
  · rintro ⟨value, hvalue, hholds⟩
    obtain ⟨item, hitem, hread⟩ := (mem_of_mapM hvalues).mp hvalue
    refine ⟨item, hitem, ?_⟩
    rwa [compare, hread, Option.map_some, selects_some]
  · rintro ⟨item, hitem, e, he, hholds⟩
    obtain ⟨value, hread, rfl⟩ := Option.map_eq_some_iff.mp he
    exact ⟨value, (mem_of_mapM hvalues).mpr ⟨item, hitem, hread⟩, hholds⟩

/-! ### The null -/

/-- The null is on no scale. -/
theorem eval_subject_ne_null {relation : Comparison} {s : String}
    (h : Selects E row (f.compare relation s)) : f.subject.eval E row ≠ .null := by
  obtain ⟨e, he, hholds⟩ := h
  obtain ⟨value, -, rfl⟩ := Option.map_eq_some_iff.mp he
  exact (Expr.holds_compareTo.mp hholds).1

end Scale

end RequestQuery
