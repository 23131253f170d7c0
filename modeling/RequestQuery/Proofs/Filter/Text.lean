import RequestQuery.Filter.Filterer
import RequestQuery.Proofs.Sql.Binary

/-! # What filters on texts select

Each operator asks something of a text that may be missing.  The condition that a
filter builds is true in a row exactly if the text in its column is what the
operator asks for (`textFilter_selects`), whatever characters the operand is made
of.  A missing text is never true of a negated operator either, so that `neq` and
`ncon` are not the complements of `eq` and `con`.
-/
namespace RequestQuery

/-- What an operator asks of a text that may be missing.  The operand of a list is its items. -/
def TextOperator.Asks (op : TextOperator) (operand : String) (items : List String)
    (x : Option String) : Prop :=
  match op with
  | .equal => ∃ s, x = some s ∧ s = operand
  | .differs => ∃ s, x = some s ∧ s ≠ operand
  | .contains => ∃ s, x = some s ∧ operand.toList <:+: s.toList
  | .lacks => ∃ s, x = some s ∧ ¬ operand.toList <:+: s.toList
  | .begins => ∃ s, x = some s ∧ operand.toList <+: s.toList
  | .ends => ∃ s, x = some s ∧ operand.toList <:+ s.toList
  | .beginsNot => ∃ s, x = some s ∧ ¬ operand.toList <+: s.toList
  | .endsNot => ∃ s, x = some s ∧ ¬ operand.toList <:+ s.toList
  | .empty => x = none ∨ x = some ""
  | .filled => x ≠ none ∧ x ≠ some ""
  | .oneOf => ∃ s, x = some s ∧ s ∈ items

theorem TextOperator.ofCode?_code (op : TextOperator) : ofCode? op.code = some op := by
  cases op <;> decide

/-! ## Conditions on a value that is a text or missing -/

section
variable {E : Engine} {row : Row} {e : Expr} {x : Option String}

theorem holds_compareTo_text (he : e.eval E row = .ofText? x) {r : Comparison} {v : String} :
    (e.compareTo r (.text v)).Holds E row ↔
      ∃ s, x = some s ∧ E.relates r (.text s) (.text v) = true := by
  rw [Expr.holds_compareTo, he]
  cases x <;> simp [Datum.ofText?, Datum.ofSqlValue]

theorem holds_equal_text (he : e.eval E row = .ofText? x)
    (hE : E.Separates Datum.IsText) {v : String} :
    (e.compareTo .equal (.text v)).Holds E row ↔ ∃ s, x = some s ∧ s = v := by
  simp [holds_compareTo_text he, hE.relates_equal ⟨_, rfl⟩ ⟨_, rfl⟩]

theorem holds_differs_text (he : e.eval E row = .ofText? x)
    (hE : E.Separates Datum.IsText) {v : String} :
    (e.compareTo .differs (.text v)).Holds E row ↔ ∃ s, x = some s ∧ s ≠ v := by
  simp [holds_compareTo_text he, hE.relates_differs ⟨_, rfl⟩ ⟨_, rfl⟩]

theorem holds_like_text (he : e.eval E row = .ofText? x) {pattern : String} :
    (Expr.like e pattern).Holds E row ↔
      ∃ s, x = some s ∧ Pattern.accepts pattern.toList s.toList = true := by
  rw [Expr.holds_like, he, Datum.text?_ofText?]

theorem holds_notLike_text (he : e.eval E row = .ofText? x) {pattern : String} :
    (Expr.notLike e pattern).Holds E row ↔
      ∃ s, x = some s ∧ ¬ Pattern.accepts pattern.toList s.toList = true := by
  rw [Expr.holds_notLike, he, Datum.text?_ofText?]

end

/-! ## The conditions of the operators -/

namespace TextFilter

variable {ctx : FilterContext} {c : ColumnRef} {E : Engine} {row : Row} {x : Option String}

/-- What is compared is the text in the column, or at the path if the cast keeps it. -/
theorem eval_subject (hx : (c.toExpr ctx.dialect).eval E row = .ofText? x)
    (hcast : c.isPath = true → ∀ type, E.cast type (.ofText? x) = .ofText? x) :
    (subject ctx c).eval E row = .ofText? x := by
  unfold subject ColumnRef.toCastExpr
  split
  · next hpath => rw [Expr.eval, hx, hcast hpath]
  · exact hx

/-- The one operand that builds nothing is a list without items. -/
theorem build_eq_none {value : RawValue} {op : TextOperator} :
    build ctx c value op = none ↔ op = .oneOf ∧ value.splitList ctx.separator = [] := by
  cases op <;> simp [build]
  split <;> simp_all

theorem build_oneOf {value : RawValue} {e : Expr} (h : build ctx c value .oneOf = some e) :
    e = .oneOf (subject ctx c) ((value.splitList ctx.separator).map .text) := by
  simp only [build] at h
  split at h
  · cases h
  · exact (Option.some.inj h).symm

theorem holds_build {value : RawValue} {op : TextOperator} {e : Expr}
    (hs : (subject ctx c).eval E row = .ofText? x) (hE : E.Separates Datum.IsText)
    (h : build ctx c value op = some e) :
    e.Holds E row ↔ op.Asks value.operand (value.splitList ctx.separator) x := by
  cases op with
  | equal =>
    cases h
    exact holds_equal_text hs hE
  | differs =>
    cases h
    exact holds_differs_text hs hE
  | contains =>
    cases h
    simp only [holds_like_text hs, Pattern.accepts_pattern_contains, TextOperator.Asks]
  | lacks =>
    cases h
    simp only [holds_notLike_text hs, Pattern.accepts_pattern_contains, TextOperator.Asks]
  | begins =>
    cases h
    simp only [holds_like_text hs, Pattern.accepts_pattern_begins, TextOperator.Asks]
  | ends =>
    cases h
    simp only [holds_like_text hs, Pattern.accepts_pattern_ends, TextOperator.Asks]
  | beginsNot =>
    cases h
    simp only [holds_notLike_text hs, Pattern.accepts_pattern_begins, TextOperator.Asks]
  | endsNot =>
    cases h
    simp only [holds_notLike_text hs, Pattern.accepts_pattern_ends, TextOperator.Asks]
  | empty =>
    cases h
    rw [Expr.holds_either, Expr.holds_isNull, holds_equal_text hs hE, hs, Datum.ofText?_eq_null]
    simp [TextOperator.Asks]
  | filled =>
    cases h
    rw [Expr.holds_both, Expr.holds_isNotNull, holds_differs_text hs hE, hs, Ne,
      Datum.ofText?_eq_null]
    cases x <;> simp [TextOperator.Asks]
  | oneOf =>
    rw [build_oneOf h, Expr.holds_oneOf]
    simp only [List.mem_map, exists_exists_and_eq_and, holds_equal_text hs hE, TextOperator.Asks]
    constructor
    · rintro ⟨v, hv, s, hs, rfl⟩
      exact ⟨s, hs, hv⟩
    · rintro ⟨s, hs, hv⟩
      exact ⟨s, hv, s, hs, rfl⟩

end TextFilter

/-- **What filters on texts select.**  A condition is built unless a list has no items, and it is
true exactly in the rows whose text is what the operator asks for. -/
theorem textFilter_selects (ctx : FilterContext) (c : ColumnRef) (op : TextOperator)
    (value : RawValue) (E : Engine) (row : Row) (x : Option String)
    (hx : (c.toExpr ctx.dialect).eval E row = .ofText? x)
    (hcast : c.isPath = true → ∀ type, E.cast type (.ofText? x) = .ofText? x)
    (hbinary : E.Separates Datum.IsText) :
    (Filterer.buildDomain .text ctx c ⟨op.code, value⟩ = none ↔
        op = .oneOf ∧ value.splitList ctx.separator = []) ∧
      ∀ e, Filterer.buildDomain .text ctx c ⟨op.code, value⟩ = some e →
        (e.Holds E row ↔ op.Asks value.operand (value.splitList ctx.separator) x) := by
  have hbuild : Filterer.buildDomain .text ctx c ⟨op.code, value⟩ =
      TextFilter.build ctx c value op := by
    simp only [Filterer.buildDomain, TextOperator.ofCode?_code, Option.bind_some]
  rw [hbuild]
  exact ⟨TextFilter.build_eq_none, fun e h =>
    TextFilter.holds_build (TextFilter.eval_subject hx hcast) hbinary h⟩

/-- The label of a document is found by a part of it that is made of wildcards and a backslash. -/
theorem textFilter_selects_wildcards :
    let label : Option String := some "5%_\\"
    let c : ColumnRef := { column := "meta", path := ["label"] }
    let E := Engine.binary .sqlite fun _ _ document path =>
      if document = .text "\x7b\"label\":\"5%_\\\\\"\x7d" ∧ path = [.text "$.label"]
      then .ofText? label else .null
    let row : Row := fun _ name =>
      if name = "meta" then .text "\x7b\"label\":\"5%_\\\\\"\x7d" else .null
    (c.toExpr .sqlite).eval E row = .ofText? label ∧
      (∀ type, E.cast type (.ofText? label) = .ofText? label) ∧ E.Separates Datum.IsText ∧
      ∃ e, Filterer.buildDomain .text ⟨.sqlite, {}⟩ c ⟨"con", .single "%_\\"⟩ = some e ∧
        e.Holds E row := by
  intro label c E row
  have hx : (c.toExpr .sqlite).eval E row = .ofText? label := by decide
  have hcast : ∀ type, E.cast type (.ofText? label) = .ofText? label := fun _ => rfl
  have hbinary : E.Separates Datum.IsText := Engine.binary_separates_text
  obtain ⟨hnone, hsome⟩ :=
    textFilter_selects ⟨.sqlite, {}⟩ c .contains (.single "%_\\") E row label hx
      (fun _ => hcast) hbinary
  obtain ⟨e, he⟩ := Option.ne_none_iff_exists'.mp fun h => nomatch (hnone.mp h).1
  exact ⟨hx, hcast, hbinary, e, he, (hsome e he).mpr ⟨"5%_\\", rfl, ['5'], [], rfl⟩⟩

end RequestQuery
