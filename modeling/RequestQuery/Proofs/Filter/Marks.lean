import RequestQuery.Filter.Filterer
import RequestQuery.Proofs.Filter.Items

/-! # Delimiter and separator are only marks

The delimiter tells an operator from its value, and the separator one item from
the next.  An operator that takes a list or the ends of a range sees only the
items, and one that takes nothing sees nothing at all; so it does not matter which
marks a request is written with, if neither the code nor the items have a
character of them (`Filterer.build_independent_of_marks`).  An operator that takes
one operand sees the joined text, marks included.  By an alias even the code of a
list may stand for such an operator, and then the marks do matter
(`Filterer.not_independent_of_separator`).
-/
namespace RequestQuery

/-! ## Marks -/

/-- A delimiter and a separator. -/
structure Marks where
  delimiter : String
  separator : String
  delimiter_ne : delimiter ≠ "" := by decide
  separator_ne : separator ≠ "" := by decide

namespace Marks

/-- The text of an operator and its items. -/
def join (m : Marks) (code : String) (items : List String) : String :=
  code ++ m.delimiter ++ m.separator.intercalate items

/-- Neither the operator nor the items have a character of the marks that they must be told from. -/
structure Fit (m : Marks) (code : String) (items : List String) : Prop where
  code_delimiter : Text.Apart code m.delimiter
  item_delimiter : ∀ item ∈ items, Text.Apart item m.delimiter
  item_separator : ∀ item ∈ items, Text.Apart item m.separator

end Marks

/-- The settings with other marks. -/
def Settings.withMarks (s : Settings) (m : Marks) : Settings :=
  { s with filters := { s.filters with delimiter := m.delimiter, separator := m.separator } }

namespace Marks

variable (m : Marks) (settings : Settings)

theorem delimiterInUse_withMarks : (settings.withMarks m).filters.delimiterInUse = m.delimiter :=
  orFallback_of_ne_empty m.delimiter_ne "|"

theorem separatorInUse_withMarks : (settings.withMarks m).filters.separatorInUse = m.separator :=
  orFallback_of_ne_empty m.separator_ne ","

variable {m} {code : String} {items : List String}

/-- The operator is what stands in front of the delimiter, and the joined items are its value. -/
theorem Fit.ofRaw_join (h : m.Fit code items) (domain : Domain) :
    FilterValue.ofRaw (settings.withMarks m).filters domain (.single (m.join code items)) =
      ⟨settings.filters.resolveAlias code, .single (m.separator.intercalate items)⟩ := by
  rw [FilterValue.ofRaw, FilterValue.ofText, delimiterInUse_withMarks, join,
    Text.cutAt?_append m.delimiter_ne h.code_delimiter]
  rfl

end Marks

/-! ## Values that operators cannot tell apart -/

/-- Two values, each with the separator of its settings, have the same items and the same ends. -/
structure RawValue.SameItems (separator separator' : String) (v v' : RawValue) : Prop where
  list : v.splitList separator = v'.splitList separator'
  ends : v.splitRange? separator = v'.splitRange? separator'

/-- Two values, each with the delimiter of its settings, have the same operand. -/
structure RawValue.SameOperand (delimiter delimiter' : String) (v v' : RawValue) : Prop where
  operand : v.operand = v'.operand
  segment : v.firstSegment delimiter = v'.firstSegment delimiter'

/-- Joined texts have the same items. -/
theorem Marks.Fit.sameItems {m m' : Marks} {code : String} {items : List String} (h : m.Fit code items)
    (h' : m'.Fit code items) (hitems : items ≠ []) :
    RawValue.SameItems m.separator m'.separator (.single (m.separator.intercalate items))
      (.single (m'.separator.intercalate items)) where
  list := by
    rw [RawValue.splitList_intercalate m.separator_ne hitems h.item_separator,
      RawValue.splitList_intercalate m'.separator_ne hitems h'.item_separator]
  ends := by
    rw [RawValue.splitRange?_intercalate m.separator_ne hitems h.item_separator,
      RawValue.splitRange?_intercalate m'.separator_ne hitems h'.item_separator]
    rfl

/-- A single item is the operand itself, and one segment of it. -/
theorem Marks.Fit.sameOperand {m m' : Marks} {code item : String} (h : m.Fit code [item])
    (h' : m'.Fit code [item]) :
    RawValue.SameOperand m.delimiter m'.delimiter (.single (m.separator.intercalate [item]))
      (.single (m'.separator.intercalate [item])) where
  operand := rfl
  segment := by
    rw [String.intercalate_singleton, String.intercalate_singleton,
      RawValue.firstSegment_of_apart m.delimiter_ne (h.item_delimiter item List.mem_cons_self),
      RawValue.firstSegment_of_apart m'.delimiter_ne (h'.item_delimiter item List.mem_cons_self)]

/-! ## Conditions of a domain -/

namespace Domain

/-- What the operator of a code takes. -/
def arity? (domain : Domain) (code : String) : Option Arity :=
  domain.operators.get? code

theorem get?_map_code {Operator : Type} (operators : List Operator) (codeOf : Operator → String)
    (arityOf : Operator → Arity) (code : String) :
    Keyed.get? (operators.map fun op => (codeOf op, arityOf op)) code =
      (operators.find? (codeOf · == code)).map arityOf := by
  rw [Keyed.get?, List.find?_map, Option.map_map]
  rfl

theorem arity?_text (code : String) : text.arity? code = (TextOperator.ofCode? code).map (·.arity) :=
  get?_map_code _ _ _ code

theorem arity?_number (code : String) : number.arity? code = (NumberOperator.ofCode? code).map (·.arity) :=
  get?_map_code _ _ _ code

theorem arity?_date (code : String) : date.arity? code = (DateOperator.ofCode? code).map (·.arity) :=
  get?_map_code _ _ _ code

end Domain

section
variable {dialect : Dialect} {settings : Settings} {m m' : Marks} {c : ColumnRef} {v v' : RawValue}
  (hitems : RawValue.SameItems m.separator m'.separator v v')
include hitems

/-- Operators on texts. -/
theorem TextFilter.build_withMarks {op : TextOperator}
    (hoperand : op.arity = .unary → RawValue.SameOperand m.delimiter m'.delimiter v v') :
    build ⟨dialect, settings.withMarks m⟩ c v op = build ⟨dialect, settings.withMarks m'⟩ c v' op := by
  -- what is left after rewriting does not depend on the marks at all
  cases op with
  | oneOf =>
    simp only [build, FilterContext.separator, Marks.separatorInUse_withMarks, hitems.list]
    rfl
  | empty | filled => rfl
  | _ =>
    simp only [build, (hoperand rfl).operand]
    rfl

/-- Operators on numbers. -/
theorem NumberFilter.build_withMarks {op : NumberOperator}
    (hoperand : op.arity = .unary → RawValue.SameOperand m.delimiter m'.delimiter v v') :
    build ⟨dialect, settings.withMarks m⟩ c v op = build ⟨dialect, settings.withMarks m'⟩ c v' op := by
  cases op with
  | compare relation =>
    simp only [build, (hoperand rfl).operand]
    rfl
  | between =>
    simp only [build, FilterContext.separator, Marks.separatorInUse_withMarks, hitems.ends]
    rfl
  | oneOf =>
    simp only [build, FilterContext.separator, Marks.separatorInUse_withMarks, hitems.list]
    rfl

/-- Operators on dates. -/
theorem DateFilter.build_withMarks {op : DateOperator}
    (hoperand : op.arity = .unary → RawValue.SameOperand m.delimiter m'.delimiter v v') :
    build ⟨dialect, settings.withMarks m⟩ c v op = build ⟨dialect, settings.withMarks m'⟩ c v' op := by
  cases op with
  | compare relation | month =>
    simp only [build, FilterContext.delimiter, Marks.delimiterInUse_withMarks, (hoperand rfl).segment]
    rfl
  | between | betweenMonths =>
    simp only [build, FilterContext.separator, Marks.separatorInUse_withMarks, hitems.ends]
    rfl
  | oneOf =>
    simp only [build, FilterContext.separator, Marks.separatorInUse_withMarks, hitems.list]
    rfl
  | isNull | isNotNull => rfl

/-- Operators of any domain. -/
theorem Filterer.buildDomain_withMarks {domain : Domain} {code : String}
    (hoperand : domain.arity? code = some .unary → RawValue.SameOperand m.delimiter m'.delimiter v v') :
    buildDomain domain ⟨dialect, settings.withMarks m⟩ c ⟨code, v⟩ =
      buildDomain domain ⟨dialect, settings.withMarks m'⟩ c ⟨code, v'⟩ := by
  -- the code has the arity of the operator that is found under it, if there is one
  cases domain with
  | text =>
    rw [Domain.arity?_text] at hoperand
    refine Option.bind_congr fun op hop => ?_
    exact TextFilter.build_withMarks hitems fun h => hoperand (by rw [hop, Option.map_some, h])
  | number =>
    rw [Domain.arity?_number] at hoperand
    refine Option.bind_congr fun op hop => ?_
    exact NumberFilter.build_withMarks hitems fun h => hoperand (by rw [hop, Option.map_some, h])
  | date =>
    rw [Domain.arity?_date] at hoperand
    refine Option.bind_congr fun op hop => ?_
    exact DateFilter.build_withMarks hitems fun h => hoperand (by rw [hop, Option.map_some, h])

end

namespace Filterer

/-- The condition of an operator and its items. -/
theorem build_join {domain : Domain} {dialect : Dialect} {settings : Settings} {c : ColumnRef} {m : Marks}
    {code : String} {items : List String} (h : m.Fit code items) :
    (builtIn domain).build ⟨dialect, settings.withMarks m⟩ c (.single (m.join code items)) =
      buildDomain domain ⟨dialect, settings.withMarks m⟩ c
        ⟨settings.filters.resolveAlias code, .single (m.separator.intercalate items)⟩ :=
  congrArg (buildDomain domain ⟨dialect, settings.withMarks m⟩ c) (h.ofRaw_join settings domain)

/-- **Delimiter and separator are only marks.**  Two settings that differ in nothing but these two make
the same condition of an operator and its items, each written with the marks of its settings, unless the
code stands for an operator that takes one operand and there are several items. -/
theorem build_independent_of_marks (domain : Domain) (dialect : Dialect) (settings : Settings)
    (c : ColumnRef) {m m' : Marks} {code : String} {items : List String} (hitems : items ≠ [])
    (h : m.Fit code items) (h' : m'.Fit code items)
    (hunary : domain.arity? (settings.filters.resolveAlias code) = some .unary → items.length = 1) :
    (builtIn domain).build ⟨dialect, settings.withMarks m⟩ c (.single (m.join code items)) =
      (builtIn domain).build ⟨dialect, settings.withMarks m'⟩ c (.single (m'.join code items)) := by
  rw [build_join h, build_join h']
  refine buildDomain_withMarks (h.sameItems h' hitems) fun harity => ?_
  obtain ⟨item, rfl⟩ := List.length_eq_one_iff.mp (hunary harity)
  exact h.sameOperand h'

/-- Marks of two equal characters and a blank as separator, with an empty item in the middle. -/
theorem build_independent_of_doubled_marks :
    let doubled : Marks := { delimiter := "::", separator := ";;" }
    let blank : Marks := { delimiter := "|", separator := " " }
    let items := ["12", "", "7"]
    let c : ColumnRef := { column := "name" }
    let listed := Expr.oneOf (.column none "name") [.text "12", .text "", .text "7"]
    items ≠ [] ∧ doubled.Fit "in" items ∧ blank.Fit "in" items ∧
      doubled.join "in" items = "in::12;;;;7" ∧ blank.join "in" items = "in|12  7" ∧
      (builtIn .text).build ⟨.sqlite, ({} : Settings).withMarks doubled⟩ c
          (.single (doubled.join "in" items)) = some listed ∧
      (builtIn .text).build ⟨.sqlite, ({} : Settings).withMarks blank⟩ c
          (.single (blank.join "in" items)) = some listed := by
  intro doubled blank items c listed
  have hitems : items ≠ [] := by decide
  have hdoubled : doubled.Fit "in" items := ⟨by decide, by decide, by decide⟩
  have hblank : blank.Fit "in" items := ⟨by decide, by decide, by decide⟩
  have hlist : Domain.arity? .text (({} : Settings).filters.resolveAlias "in") = some .unary →
      items.length = 1 := by decide
  have hsplit : (RawValue.single (doubled.separator.intercalate items)).splitList doubled.separator = items :=
    RawValue.splitList_intercalate doubled.separator_ne hitems hdoubled.item_separator
  have hbuilt : (builtIn .text).build ⟨.sqlite, ({} : Settings).withMarks doubled⟩ c
      (.single (doubled.join "in" items)) = some listed := by
    rw [build_join hdoubled]
    show TextFilter.build _ c (.single (doubled.separator.intercalate items)) .oneOf = _
    simp only [TextFilter.build, FilterContext.separator, Marks.separatorInUse_withMarks, hsplit]
    rfl
  refine ⟨hitems, hdoubled, hblank, by decide, by decide, hbuilt, ?_⟩
  rw [← hbuilt]
  exact (build_independent_of_marks .text .sqlite {} c hitems hdoubled hblank hlist).symm

/-- By an alias the code of a list stands for an operator on one operand, whose text has the separators. -/
theorem not_independent_of_separator :
    let comma : Marks := { delimiter := "|", separator := "," }
    let semicolon : Marks := { delimiter := "::", separator := ";" }
    let settings : Settings := { filters := { aliases := [("in", "eq")] } }
    let c : ColumnRef := { column := "name" }
    Domain.arity? .text "in" = some .list ∧
      comma.Fit "in" ["Ali", "Bob"] ∧ semicolon.Fit "in" ["Ali", "Bob"] ∧
      (builtIn .text).build ⟨.sqlite, settings.withMarks comma⟩ c
          (.single (comma.join "in" ["Ali", "Bob"])) ≠
        (builtIn .text).build ⟨.sqlite, settings.withMarks semicolon⟩ c
          (.single (semicolon.join "in" ["Ali", "Bob"])) := by
  refine ⟨by decide, ⟨by decide, by decide, by decide⟩, ⟨by decide, by decide, by decide⟩, ?_⟩
  decide

end Filterer
end RequestQuery
