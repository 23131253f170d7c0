import RequestQuery.Filter.Filterer
import RequestQuery.Proofs.Calendar.YearFirst
import RequestQuery.Proofs.Filter.Scale
import RequestQuery.Proofs.Sql.Binary

/-! # Ranges and lists against comparisons

Numbers and dates are scales, so their ranges and lists say what their comparisons
say, the null included, about which none of them is true (`Filterer.ranges_agree`).
That all operators read the same operands does not come for free: each cuts and
trims its text in its own way, a lone operand by yet another.
-/
namespace RequestQuery

/-! ## The scales of domains -/

/-- The scale of numbers. -/
def NumberFilter.scale (ctx : FilterContext) (c : ColumnRef) : Scale where
  subject := subject ctx c
  operand? := operand?
  operand?_trim s := by
    rw [operand?, Number.read?, Text.toList_trim, Text.trimChars_trimChars]
    rfl
  operand?_empty := by decide

/-- The scale of dates. -/
def DateFilter.scale (ctx : FilterContext) (c : ColumnRef) : Scale where
  subject := subject ctx c
  operand? s := (date? ctx s).map .date
  operand?_trim s := by rw [date?, Text.trim_trim, date?]
  operand?_empty := by
    have htrim : Text.trim "" = "" := by decide
    rw [date?, htrim, Date.readStrict?_empty]
    rfl

/-- The scale of a domain.  Texts are on none. -/
def Domain.scale? (ctx : FilterContext) (c : ColumnRef) : Domain → Option Scale
  | .text => none
  | .number => some (NumberFilter.scale ctx c)
  | .date => some (DateFilter.scale ctx c)

section
variable {ctx : FilterContext} {c : ColumnRef} {v : RawValue}

/-! ### What the operators of a domain build -/

theorem NumberFilter.build_compare_eq {relation : Comparison} :
    build ctx c v (.compare relation) = (scale ctx c).compare relation v.operand := rfl

theorem NumberFilter.build_between_eq :
    build ctx c v .between =
      (v.splitRange? ctx.separator).bind fun ends => (scale ctx c).between ends.1 ends.2 := rfl

theorem NumberFilter.build_oneOf_eq :
    build ctx c v .oneOf =
      if v.splitList ctx.separator = [] then none else (scale ctx c).oneOf (v.splitList ctx.separator) := by
  rw [build]
  split
  · next hitems => rw [if_pos hitems]
  · next hitems =>
    rw [if_neg hitems]
    rfl

/-- A date is taken up to the delimiter. -/
theorem DateFilter.build_compare_eq {relation : Comparison} :
    build ctx c v (.compare relation) =
      (scale ctx c).compare relation (v.firstSegment ctx.delimiter) := by
  rw [build, Scale.compare, scale, Option.map_map]
  rfl

theorem DateFilter.build_between_eq :
    build ctx c v .between =
      (v.splitRange? ctx.separator).bind fun ends => (scale ctx c).between ends.1 ends.2 := by
  rw [build]
  refine Option.bind_congr fun ends _ => ?_
  obtain ⟨low, high⟩ := ends
  simp only [Scale.between, scale]
  cases date? ctx low <;> cases date? ctx high <;> rfl

theorem DateFilter.build_oneOf_eq :
    build ctx c v .oneOf =
      if v.splitList ctx.separator = [] then none else (scale ctx c).oneOf (v.splitList ctx.separator) := by
  rw [build]
  split
  · next hitems => rw [if_pos hitems]
  · next hitems =>
    rw [if_neg hitems, Scale.oneOf, scale, mapM_option_map, Option.map_map]
    rfl

end

theorem NumberOperator.ofCode?_code (op : NumberOperator) : ofCode? op.code = some op := by
  rcases op with relation | _ | _
  · cases relation <;> decide
  · decide
  · decide

theorem DateOperator.ofCode?_code (op : DateOperator) : ofCode? op.code = some op := by
  rcases op with relation | _ | _ | _ | _ | _ | _
  · cases relation <;> decide
  all_goals decide

/-! ## Operands between marks -/

/-- The operand has no character of a mark. -/
def FilterContext.Plain (ctx : FilterContext) (s : String) : Prop :=
  Text.Apart s ctx.delimiter ∧ Text.Apart s ctx.separator

instance (ctx : FilterContext) (s : String) : Decidable (ctx.Plain s) :=
  inferInstanceAs (Decidable (_ ∧ _))

namespace Filterer

/-- The condition of an operator and its text. -/
def condition (domain : Domain) (ctx : FilterContext) (c : ColumnRef) (code text : String) : Option Expr :=
  buildDomain domain ctx c ⟨code, .single text⟩

variable {domain : Domain} {ctx : FilterContext} {c : ColumnRef} {f : Scale}
  (hf : domain.scale? ctx c = some f)
include hf

theorem buildDomain_between (v : RawValue) :
    buildDomain domain ctx c ⟨"bw", v⟩ =
      (v.splitRange? ctx.separator).bind fun ends => f.between ends.1 ends.2 := by
  cases domain with
  | text => cases hf
  | number =>
    cases hf
    exact NumberFilter.build_between_eq
  | date =>
    cases hf
    exact DateFilter.build_between_eq

theorem buildDomain_oneOf (v : RawValue) :
    buildDomain domain ctx c ⟨"in", v⟩ =
      if v.splitList ctx.separator = [] then none else f.oneOf (v.splitList ctx.separator) := by
  cases domain with
  | text => cases hf
  | number =>
    cases hf
    exact NumberFilter.build_oneOf_eq
  | date =>
    cases hf
    exact DateFilter.build_oneOf_eq

/-- A comparison with an operand. -/
theorem condition_compare (relation : Comparison) {a : String} (ha : ctx.Plain a) :
    condition domain ctx c relation.code a = f.compare relation a := by
  rw [condition, buildDomain.eq_def]
  cases domain with
  | text => cases hf
  | number =>
    cases hf
    have hcode : NumberOperator.ofCode? relation.code = some (.compare relation) :=
      NumberOperator.ofCode?_code (.compare relation)
    simp only [hcode, Option.bind_some, NumberFilter.build_compare_eq, RawValue.operand]
  | date =>
    cases hf
    have hcode : DateOperator.ofCode? relation.code = some (.compare relation) :=
      DateOperator.ofCode?_code (.compare relation)
    have hdelimiter : ctx.delimiter ≠ "" := ctx.settings.filters.delimiterInUse_ne_empty
    simp only [hcode, Option.bind_some, DateFilter.build_compare_eq,
      RawValue.firstSegment_of_apart hdelimiter ha.1, Scale.compare_trim]

/-- A range of one operand. -/
theorem condition_point {a : String} (ha : ctx.Plain a) :
    condition domain ctx c "bw" a = f.between a a := by
  have hseparator : ctx.separator ≠ "" := ctx.settings.filters.separatorInUse_ne_empty
  rw [condition, buildDomain_between hf, RawValue.splitRange?_of_apart hseparator ha.2]
  rfl

/-- A range of two operands. -/
theorem condition_between {a b : String} (ha : ctx.Plain a) (hb : ctx.Plain b) :
    condition domain ctx c "bw" (a ++ ctx.separator ++ b) = f.between a b := by
  have hseparator : ctx.separator ≠ "" := ctx.settings.filters.separatorInUse_ne_empty
  rw [condition, buildDomain_between hf, RawValue.splitRange?_append hseparator ha.2 hb.2]
  exact f.between_trim a b

/-- A list of operands. -/
theorem condition_oneOf {items : List String} (hitems : items ≠ []) (h : ∀ a ∈ items, ctx.Plain a) :
    condition domain ctx c "in" (ctx.separator.intercalate items) = f.oneOf items := by
  have hseparator : ctx.separator ≠ "" := ctx.settings.filters.separatorInUse_ne_empty
  rw [condition, buildDomain_oneOf hf,
    RawValue.splitList_intercalate hseparator hitems fun a ha => (h a ha).2]
  by_cases hempty : items = [""]
  · -- the empty text is no list, and no operand either
    rw [if_pos hempty, if_pos rfl, hempty, f.oneOf_empty]
  · rw [if_neg hempty, if_neg (RawValue.trimmedItems_ne_nil hitems), f.oneOf_trimmedItems]

end Filterer

/-! ## The null -/

/-- Neither a cast nor the date of a value makes something of the null. -/
structure Engine.KeepsNull (E : Engine) : Prop where
  cast type : E.cast type .null = .null
  date : E.call "DATE" [] .null [] = .null

/-- Where the column is null, there is nothing to compare. -/
theorem Domain.eval_subject_of_null {domain : Domain} {ctx : FilterContext} {c : ColumnRef} {f : Scale}
    {E : Engine} {row : Row} (hf : domain.scale? ctx c = some f) (hE : E.KeepsNull)
    (hnull : (c.toExpr ctx.dialect).eval E row = .null) : f.subject.eval E row = .null := by
  cases domain with
  | text => cases hf
  | number =>
    cases hf
    -- a value in a document is cast, one in a column is not
    show (c.toCastExpr ctx.dialect _).eval E row = .null
    rw [ColumnRef.toCastExpr]
    split
    · rw [Expr.eval, hnull, hE.cast]
    · exact hnull
  | date =>
    cases hf
    show (Expr.call "DATE" [] (c.toExpr ctx.dialect) []).eval E row = .null
    rw [Expr.eval, hnull, hE.date]

/-! ## Agreement -/

namespace Filterer

/-- Ranges and lists say what comparisons say. -/
structure RangesAgree (domain : Domain) (ctx : FilterContext) (c : ColumnRef) (E : Engine) : Prop where
  between_built {a b : String} (ha : ctx.Plain a) (hb : ctx.Plain b) :
    (condition domain ctx c "bw" (a ++ ctx.separator ++ b)).isSome ↔
      (condition domain ctx c "gte" a).isSome ∧ (condition domain ctx c "lte" b).isSome
  between_selects {a b : String} (ha : ctx.Plain a) (hb : ctx.Plain b) (row : Row) :
    Selects E row (condition domain ctx c "bw" (a ++ ctx.separator ++ b)) ↔
      Selects E row (condition domain ctx c "gte" a) ∧ Selects E row (condition domain ctx c "lte" b)
  /-- One operand is both ends. -/
  point_eq {a : String} (ha : ctx.Plain a) :
    condition domain ctx c "bw" a = condition domain ctx c "bw" (a ++ ctx.separator ++ a)
  point_built {a : String} (ha : ctx.Plain a) :
    (condition domain ctx c "bw" a).isSome ↔ (condition domain ctx c "eq" a).isSome
  point_selects {a : String} (ha : ctx.Plain a) (row : Row) :
    Selects E row (condition domain ctx c "bw" a) ↔ Selects E row (condition domain ctx c "eq" a)
  /-- A list with one item that is not read is not built at all. -/
  list_built {items : List String} (hitems : items ≠ []) (h : ∀ a ∈ items, ctx.Plain a) :
    (condition domain ctx c "in" (ctx.separator.intercalate items)).isSome ↔
      ∀ a ∈ items, (condition domain ctx c "eq" a).isSome
  list_selects {items : List String} (hitems : items ≠ []) (h : ∀ a ∈ items, ctx.Plain a)
    (hbuilt : (condition domain ctx c "in" (ctx.separator.intercalate items)).isSome) (row : Row) :
    Selects E row (condition domain ctx c "in" (ctx.separator.intercalate items)) ↔
      ∃ a ∈ items, Selects E row (condition domain ctx c "eq" a)
  /-- Where the column is null, no comparison is true. -/
  null_compare (hE : E.KeepsNull) {row : Row} (hnull : (c.toExpr ctx.dialect).eval E row = .null)
    (relation : Comparison) {a : String} (ha : ctx.Plain a) :
    ¬ Selects E row (condition domain ctx c relation.code a)
  /-- Nor any range. -/
  null_between (hE : E.KeepsNull) {row : Row} (hnull : (c.toExpr ctx.dialect).eval E row = .null)
    {a b : String} (ha : ctx.Plain a) (hb : ctx.Plain b) :
    ¬ Selects E row (condition domain ctx c "bw" (a ++ ctx.separator ++ b))
  /-- Nor any list. -/
  null_list (hE : E.KeepsNull) {row : Row} (hnull : (c.toExpr ctx.dialect).eval E row = .null)
    {items : List String} (hitems : items ≠ []) (h : ∀ a ∈ items, ctx.Plain a) :
    ¬ Selects E row (condition domain ctx c "in" (ctx.separator.intercalate items))

/-- **Ranges and lists agree with comparisons**, for numbers and for dates, in whatever order a system
puts the values. -/
theorem ranges_agree {domain : Domain} (hdomain : domain ≠ .text) (ctx : FilterContext) (c : ColumnRef)
    (E : Engine) : RangesAgree domain ctx c E := by
  obtain ⟨f, hf⟩ : ∃ f, domain.scale? ctx c = some f := by
    cases domain with
    | text => exact absurd rfl hdomain
    | number => exact ⟨_, rfl⟩
    | date => exact ⟨_, rfl⟩
  -- the three comparisons that ranges and lists are made of
  have hequal {a : String} (ha : ctx.Plain a) : condition domain ctx c "eq" a = f.compare .equal a :=
    condition_compare hf .equal ha
  have hlow {a : String} (ha : ctx.Plain a) : condition domain ctx c "gte" a = f.compare .atLeast a :=
    condition_compare hf .atLeast ha
  have hhigh {a : String} (ha : ctx.Plain a) : condition domain ctx c "lte" a = f.compare .atMost a :=
    condition_compare hf .atMost ha
  have hnone (hE : E.KeepsNull) {row : Row} (hnull : (c.toExpr ctx.dialect).eval E row = .null)
      (relation : Comparison) (a : String) : ¬ Selects E row (f.compare relation a) :=
    fun h => Scale.eval_subject_ne_null h (Domain.eval_subject_of_null hf hE hnull)
  constructor
  case between_built =>
    intro a b ha hb
    rw [condition_between hf ha hb, hlow ha, hhigh hb, Scale.isSome_between]
  case between_selects =>
    intro a b ha hb row
    rw [condition_between hf ha hb, hlow ha, hhigh hb, Scale.selects_between]
  case point_eq =>
    intro a ha
    rw [condition_point hf ha, condition_between hf ha ha]
  case point_built =>
    intro a ha
    rw [condition_point hf ha, hequal ha, Scale.isSome_point]
  case point_selects =>
    intro a ha row
    rw [condition_point hf ha, hequal ha, Scale.selects_point]
  case list_built =>
    intro items hitems h
    rw [condition_oneOf hf hitems h, Scale.isSome_oneOf]
    exact forall₂_congr fun a ha => by rw [hequal (h a ha)]
  case list_selects =>
    intro items hitems h hbuilt row
    rw [condition_oneOf hf hitems h] at hbuilt ⊢
    rw [Scale.selects_oneOf hbuilt]
    exact exists_congr fun a => and_congr_right fun ha => by rw [hequal (h a ha)]
  case null_compare =>
    intro hE row hnull relation a ha
    rw [condition_compare hf relation ha]
    exact hnone hE hnull relation a
  case null_between =>
    intro hE row hnull a b ha hb
    rw [condition_between hf ha hb, Scale.selects_between]
    exact fun h => hnone hE hnull .atLeast a h.1
  case null_list =>
    intro hE row hnull items hitems h hselects
    rw [condition_oneOf hf hitems h] at hselects
    obtain ⟨a, -, ha⟩ := (Scale.selects_oneOf hselects.isSome).mp hselects
    exact hnone hE hnull .equal a ha

/-- A number within a range, in a list whose items have blanks around them, and in a list that is not
built; the null; and a day within a range, in a list, and in a range that ends on no day. -/
theorem ranges_agree_prices_and_days :
    let ctx : FilterContext := ⟨.sqlite, {}⟩
    let c : ColumnRef := { column := "price" }
    let E := Engine.binary .sqlite fun _ _ x _ => x
    let row : Row := fun _ _ => .int 5
    let day : Row := fun _ _ => .date ⟨2026, 2, 12, by decide⟩
    (Domain.number ≠ .text ∧
      Selects E row (condition .number ctx c "bw" ("-1" ++ ctx.separator ++ " 7")) ∧
      Selects E row (condition .number ctx c "bw" "5") ∧
      Selects E row (condition .number ctx c "in" (ctx.separator.intercalate ["4", " 5 "])) ∧
      ¬ (condition .number ctx c "in" (ctx.separator.intercalate ["5", "x"])).isSome ∧
      ¬ Selects E (fun _ _ => .null)
        (condition .number ctx c "in" (ctx.separator.intercalate ["4", " 5 "]))) ∧
    Domain.date ≠ .text ∧
      Selects E day (condition .date ctx c "bw" ("01/02/2026" ++ ctx.separator ++ " 28/02/2026")) ∧
      Selects E day (condition .date ctx c "in" (ctx.separator.intercalate ["12/02/2025", " 12/02/2026"])) ∧
      ¬ (condition .date ctx c "bw" ("01/02/2026" ++ ctx.separator ++ "31/02/2026")).isSome := by
  intro ctx c E row day
  have hnumber : Domain.number ≠ .text := by decide
  have hdate : Domain.date ≠ .text := by decide
  refine ⟨⟨hnumber, ?_⟩, hdate, ?_⟩
  · have hagree := ranges_agree hnumber ctx c E
    have hnull : E.KeepsNull := ⟨fun _ => rfl, rfl⟩
    have hlow : Selects E row (condition .number ctx c "gte" "-1") := by decide
    have hhigh : Selects E row (condition .number ctx c "lte" " 7") := by decide
    have hequal : Selects E row (condition .number ctx c "eq" "5") := by decide
    have hplain : ∀ a ∈ ["4", " 5 "], ctx.Plain a := by decide
    have hread : ∀ a ∈ ["4", " 5 "], (condition .number ctx c "eq" a).isSome := by decide
    have hlist := (hagree.list_built (by decide) hplain).mpr hread
    refine ⟨?_, ?_, ?_, ?_, ?_⟩
    · exact (hagree.between_selects (by decide) (by decide) row).mpr ⟨hlow, hhigh⟩
    · exact (hagree.point_selects (by decide) row).mpr hequal
    · exact (hagree.list_selects (by decide) hplain hlist row).mpr ⟨" 5 ", by decide, by decide⟩
    · rw [hagree.list_built (by decide) (by decide)]
      decide
    · exact hagree.null_list hnull rfl (by decide) hplain
  · have hagree := ranges_agree hdate ctx c E
    have hlow : Selects E day (condition .date ctx c "gte" "01/02/2026") := by decide +kernel
    have hhigh : Selects E day (condition .date ctx c "lte" " 28/02/2026") := by decide +kernel
    have hequal : Selects E day (condition .date ctx c "eq" " 12/02/2026") := by decide +kernel
    have hplain : ∀ a ∈ ["12/02/2025", " 12/02/2026"], ctx.Plain a := by decide
    have hread : ∀ a ∈ ["12/02/2025", " 12/02/2026"], (condition .date ctx c "eq" a).isSome := by
      decide +kernel
    have hlist := (hagree.list_built (by decide) hplain).mpr hread
    refine ⟨?_, ?_, ?_⟩
    · exact (hagree.between_selects (by decide) (by decide) day).mpr ⟨hlow, hhigh⟩
    · exact (hagree.list_selects (by decide) hplain hlist day).mpr ⟨" 12/02/2026", by decide, hequal⟩
    · rw [hagree.between_built (by decide) (by decide)]
      decide +kernel

end Filterer
end RequestQuery
