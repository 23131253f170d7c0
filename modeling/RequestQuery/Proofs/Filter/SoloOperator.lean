import RequestQuery.Proofs.Filter.Bounds
import RequestQuery.Proofs.Filter.NamedOperator

/-! # Operators without a value

A test for the null takes no value, so there is nothing that would have to stand
behind its operator.  But an operator is looked for in front of a delimiter only:
a text without one is a value, whatever it spells.  So a test for the null is read
from its operator alone exactly if it is the default operator of dates, which is
there without being named (`DateFilter.readsAlone_iff`); with the stock settings
`null` is a date that cannot be read, and makes no condition
(`DateFilter.not_readsAlone_null`).
-/
namespace RequestQuery

/-- The test that an operator without a value is. -/
def DateOperator.test? (e : Expr) : DateOperator → Option Expr
  | isNull => some (.isNull e)
  | isNotNull => some (.isNotNull e)
  | _ => none

/-- An operator takes no value exactly if it is a test. -/
theorem DateOperator.exists_test?_iff {op : DateOperator} (e : Expr) :
    (∃ test, op.test? e = some test) ↔ op.arity = .solo := by
  cases op <;> simp [test?, arity]

/-- Whether a condition looks for the null only. -/
def Expr.IsTest : Expr → Prop
  | .isNull _ | .isNotNull _ => True
  | _ => False

theorem DateOperator.isTest_of_test? {op : DateOperator} {e test : Expr} (h : op.test? e = some test) :
    test.IsTest := by
  cases op with
  | isNull | isNotNull =>
    cases h
    trivial
  | _ => cases h

theorem DateOperator.ofCode?_eq_some_iff {code : String} {op : DateOperator} :
    ofCode? code = some op ↔ code = op.code := by
  constructor
  · intro h
    have hcode := List.find?_some h
    exact (eq_of_beq hcode).symm
  · rintro rfl
    exact ofCode?_code op

namespace DateFilter

variable {ctx : FilterContext} {c : ColumnRef} {op op' : DateOperator} {value : RawValue}

/-- No operator that takes a value builds a test for the null. -/
theorem build_ne_test? {e : Expr} (hvalue : op'.arity ≠ .solo) (hsolo : op.arity = .solo) :
    build ctx c value op' ≠ op.test? e := by
  intro h
  obtain ⟨test, htest⟩ := (op.exists_test?_iff e).mpr hsolo
  rw [htest] at h
  cases op' with
  | isNull | isNotNull => exact hvalue rfl
  | compare relation | month =>
    obtain ⟨d, -, rfl⟩ := Option.map_eq_some_iff.mp h
    exact DateOperator.isTest_of_test? htest
  | between | betweenMonths =>
    obtain ⟨ends, -, h⟩ := Option.bind_eq_some_iff.mp h
    obtain ⟨low, -, h⟩ := Option.bind_eq_some_iff.mp h
    obtain ⟨high, -, h⟩ := Option.bind_eq_some_iff.mp h
    cases h
    exact DateOperator.isTest_of_test? htest
  | oneOf =>
    rw [build_oneOf_eq] at h
    split at h
    · cases h
    · obtain ⟨values, -, rfl⟩ := Option.map_eq_some_iff.mp h
      exact DateOperator.isTest_of_test? htest

/-- A test is built by its own operator and no other, whatever the value is. -/
theorem build_eq_test?_iff (hsolo : op.arity = .solo) :
    build ctx c value op' = op.test? (c.toExpr ctx.dialect) ↔ op' = op := by
  constructor
  · intro h
    by_cases hsolo' : op'.arity = .solo
    · cases op' with
      | isNull | isNotNull => cases op <;> simp_all [build, DateOperator.test?]
      | _ => cases hsolo'
    · exact absurd h (build_ne_test? hsolo' hsolo)
  · rintro rfl
    cases op' with
    | isNull | isNotNull => rfl
    | _ => cases hsolo

variable (ctx c) in
/-- A filter value makes a test exactly if its operator is that of the test. -/
theorem buildDomain_eq_test?_iff (hsolo : op.arity = .solo) {code : String} :
    Filterer.buildDomain .date ctx c ⟨code, value⟩ = op.test? (c.toExpr ctx.dialect) ↔ code = op.code := by
  obtain ⟨test, htest⟩ := (op.exists_test?_iff (c.toExpr ctx.dialect)).mpr hsolo
  constructor
  · intro h
    rw [htest] at h
    obtain ⟨op', hcode, hbuild⟩ := Option.bind_eq_some_iff.mp h
    rw [← htest, build_eq_test?_iff hsolo] at hbuild
    rw [← hbuild, ← DateOperator.ofCode?_eq_some_iff, hcode]
  · rintro rfl
    show (DateOperator.ofCode? op.code).bind (build ctx c value) = _
    rw [DateOperator.ofCode?_code, Option.bind_some, build_eq_test?_iff hsolo]

/-! ## Operators alone -/

/-- The text is read as its operator without a value: alone it makes the test that it makes with the
delimiter behind it. -/
def ReadsAlone (ctx : FilterContext) (c : ColumnRef) (op : DateOperator) (text : String) : Prop :=
  (Filterer.builtIn .date).build ctx c (.single (text ++ ctx.delimiter)) = op.test? (c.toExpr ctx.dialect) ∧
    (Filterer.builtIn .date).build ctx c (.single text) =
      (Filterer.builtIn .date).build ctx c (.single (text ++ ctx.delimiter))

variable {text : String}

/-- With a delimiter, a text makes a test exactly if the operator of the test stands in front of it. -/
theorem build_eq_test?_of_firstAt (hsolo : op.arity = .solo) {before rest : String}
    (h : Text.FirstAt ctx.delimiter text before rest) :
    (Filterer.builtIn .date).build ctx c (.single text) = op.test? (c.toExpr ctx.dialect) ↔
      ctx.settings.filters.resolveAlias before = op.code := by
  rw [← buildDomain_eq_test?_iff ctx c hsolo, ← FilterValue.ofText_of_firstAt h]
  rfl

/-- Without a delimiter, a text makes a test exactly if that is the default operator of dates. -/
theorem build_eq_test?_of_not_occurs (hsolo : op.arity = .solo) (h : ¬ Text.Occurs ctx.delimiter text) :
    (Filterer.builtIn .date).build ctx c (.single text) = op.test? (c.toExpr ctx.dialect) ↔
      ctx.settings.filters.resolveAlias (ctx.settings.filters.defaults.forDomain .date) = op.code := by
  rw [← buildDomain_eq_test?_iff ctx c hsolo, ← FilterValue.ofText_of_not_occurs h]
  rfl

/-- **A test for the null needs its delimiter.**  A text without the delimiter that names a test is read
as that test exactly if the test is the default operator of dates anyway, and if no delimiter is found
across the end of the text with another operator in front of it.  If the delimiter behind the text is
the first one, the text with it makes the test in any case. -/
theorem readsAlone_iff (ctx : FilterContext) (c : ColumnRef) {op : DateOperator} {text : String}
    (hsolo : op.arity = .solo) (hcode : ctx.settings.filters.resolveAlias text = op.code)
    (hnot : ¬ Text.Occurs ctx.delimiter text) :
    let f := ctx.settings.filters
    (ReadsAlone ctx c op text ↔
        f.resolveAlias (f.defaults.forDomain .date) = op.code ∧
          ∀ before rest, Text.FirstAt ctx.delimiter (text ++ ctx.delimiter) before rest →
            f.resolveAlias before = op.code) ∧
      (Text.FirstAt ctx.delimiter (text ++ ctx.delimiter) text "" →
        (Filterer.builtIn .date).build ctx c (.single (text ++ ctx.delimiter)) =
            op.test? (c.toExpr ctx.dialect) ∧
          (ReadsAlone ctx c op text ↔ f.resolveAlias (f.defaults.forDomain .date) = op.code)) := by
  intro f
  have hbare := build_eq_test?_of_not_occurs (c := c) hsolo hnot
  refine ⟨?_, fun hfirst => ?_⟩
  · obtain ⟨before, rest, hfirst⟩ := Text.exists_firstAt ctx.settings.filters.delimiterInUse_ne_empty
      ⟨text, "", (String.append_empty (s := text ++ ctx.delimiter)).symm⟩
    have hnamed := build_eq_test?_of_firstAt (c := c) hsolo hfirst
    constructor
    · rintro ⟨htest, hsame⟩
      refine ⟨hbare.mp (hsame.trans htest), fun before' rest' hfirst' => ?_⟩
      obtain ⟨rfl, -⟩ := hfirst.unique hfirst'
      exact hnamed.mp htest
    · rintro ⟨hdefault, hfront⟩
      have htest := hnamed.mpr (hfront before rest hfirst)
      exact ⟨htest, (hbare.mpr hdefault).trans htest.symm⟩
  · have htest := (build_eq_test?_of_firstAt (c := c) hsolo hfirst).mpr hcode
    refine ⟨htest, ?_⟩
    rw [ReadsAlone, htest, hbare]
    exact and_iff_right rfl

/-- An alias of a test that is the default operator by another name. -/
theorem readsAlone_by_default :
    let ctx : FilterContext := ⟨.postgres,
      { filters := { delimiter := "::", aliases := [("filled", "NNULL")], defaults := { date := "Nnull" } } }⟩
    let c : ColumnRef := { column := "at" }
    DateOperator.isNotNull.arity = .solo ∧
      ctx.settings.filters.resolveAlias " FILLED" = DateOperator.isNotNull.code ∧
      ¬ Text.Occurs ctx.delimiter " FILLED" ∧
      Text.FirstAt ctx.delimiter (" FILLED" ++ ctx.delimiter) " FILLED" "" ∧
      (Filterer.builtIn .date).build ctx c (.single " FILLED::") = some (.isNotNull (.column none "at")) ∧
      ReadsAlone ctx c .isNotNull " FILLED" := by
  intro ctx c
  have hcode : ctx.settings.filters.resolveAlias " FILLED" = DateOperator.isNotNull.code := by decide
  have hnot : ¬ Text.Occurs ctx.delimiter " FILLED" :=
    (Text.cutAt?_eq_none_iff ctx.settings.filters.delimiterInUse_ne_empty).mp (by decide)
  have hfirst : Text.FirstAt ctx.delimiter (" FILLED" ++ ctx.delimiter) " FILLED" "" :=
    Text.firstAt_of_cutAt? (by decide)
  obtain ⟨hbuild, hiff⟩ := (readsAlone_iff ctx c rfl hcode hnot).2 hfirst
  exact ⟨rfl, hcode, hnot, hfirst, hbuild, hiff.mpr (by decide)⟩

/-- With the stock settings the operator alone is a date that cannot be read. -/
theorem not_readsAlone_null :
    let ctx : FilterContext := ⟨.sqlite, {}⟩
    let c : ColumnRef := { column := "event_date" }
    DateOperator.isNull.arity = .solo ∧
      ctx.settings.filters.resolveAlias "null" = DateOperator.isNull.code ∧
      ¬ Text.Occurs ctx.delimiter "null" ∧
      (Filterer.builtIn .date).build ctx c (.single "null") = none ∧
      (Filterer.builtIn .date).build ctx c (.single ("null" ++ ctx.delimiter)) =
        some (.isNull (.column none "event_date")) ∧
      ¬ ReadsAlone ctx c .isNull "null" := by
  intro ctx c
  have hnot : ¬ Text.Occurs ctx.delimiter "null" :=
    (Text.cutAt?_eq_none_iff ctx.settings.filters.delimiterInUse_ne_empty).mp (by decide)
  have hbare : (Filterer.builtIn .date).build ctx c (.single "null") = none := by decide +kernel
  have htest : (Filterer.builtIn .date).build ctx c (.single ("null" ++ ctx.delimiter)) =
      some (.isNull (.column none "event_date")) := by decide +kernel
  refine ⟨rfl, by decide, hnot, hbare, htest, ?_⟩
  rintro ⟨-, hsame⟩
  rw [hbare, htest] at hsame
  cases hsame

end DateFilter
end RequestQuery
