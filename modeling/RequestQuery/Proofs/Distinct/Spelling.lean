import RequestQuery.Proofs.Distinct.Requirements
import RequestQuery.Proofs.Filter.NamedOperator
import RequestQuery.Proofs.Request.Run

/-! # Spellings of a filter

A request parameter names the operator of its filter in front of the delimiter.  A
listing of distinct values reads the same text, and a text with the separator of
listings in place of the delimiter as well.  The three are cut by different hands:
the parameter before its operator is looked for, the text of a listing at its
separators, which leaves a list of two, or not at all.  They come to the same pair
of an operator and a value, known or not, where the marks cannot be confused with
each other or with what is written (`DistinctListing.spellings_agree`).
-/
namespace RequestQuery

theorem DistinctSettings.filterSeparatorInUse_ne_empty (d : DistinctSettings) (f : FilterSettings) :
    d.filterSeparatorInUse f ≠ "" :=
  orFallback_ne_empty f.separatorInUse_ne_empty _

/-! ## The values of listings -/

section
variable {sep : String}

/-- A text without the separator is left alone. -/
theorem distinctFilterValue_of_apart {text : String} (hsep : sep ≠ "") (h : Text.Apart text sep) :
    distinctFilterValue text sep = .single text := by
  have hsplit := Text.splitAt_intercalate hsep (List.cons_ne_nil text [])
    (List.forall_mem_singleton.mpr h)
  rw [String.intercalate_singleton] at hsplit
  rw [distinctFilterValue, hsplit]

/-- Two texts with the separator between them are a list of the two. -/
theorem distinctFilterValue_append {a b : String} (hsep : sep ≠ "") (ha : Text.Apart a sep)
    (hb : Text.Apart b sep) :
    distinctFilterValue (a ++ sep ++ b) sep = .list [Text.trim a, Text.trim b] := by
  have hsplit := Text.splitAt_intercalate hsep (List.cons_ne_nil a [b])
    (List.forall_mem_cons.mpr ⟨ha, List.forall_mem_singleton.mpr hb⟩)
  have hjoin : sep.intercalate [a, b] = a ++ sep ++ b := by simp
  rw [hjoin] at hsplit
  rw [distinctFilterValue, hsplit]
  rfl

end

/-! ## Operators and values that can be told apart -/

/-- An operator and a value without blanks around them, for settings in which no character occurs in two
of these: the operator or the value, the delimiter, and the separator of listings. -/
structure Settings.Spells (s : Settings) (operator value : String) : Prop where
  operator_trim : Text.trim operator = operator
  value_trim : Text.trim value = value
  written_delimiter : Text.Apart (operator ++ value) s.filters.delimiterInUse
  written_separator : Text.Apart (operator ++ value) (s.distinct.filterSeparatorInUse s.filters)
  delimiter_separator :
    Text.Apart s.filters.delimiterInUse (s.distinct.filterSeparatorInUse s.filters)

namespace Settings.Spells

variable {s : Settings} {operator value : String} (h : s.Spells operator value)
include h

theorem operator_delimiter : Text.Apart operator s.filters.delimiterInUse :=
  (Text.apart_append.mp h.written_delimiter).1

/-- With the delimiter a text has no separator. -/
theorem text_separator : Text.Apart (operator ++ s.filters.delimiterInUse ++ value)
    (s.distinct.filterSeparatorInUse s.filters) := by
  obtain ⟨hoperator, hvalue⟩ := Text.apart_append.mp h.written_separator
  exact Text.apart_append.mpr ⟨Text.apart_append.mpr ⟨hoperator, h.delimiter_separator⟩, hvalue⟩

/-- With the delimiter a text is an operator and its value. -/
theorem ofText_delimiter (domain : Domain) :
    FilterValue.ofText s.filters domain (operator ++ s.filters.delimiterInUse ++ value) =
      ⟨s.filters.resolveAlias operator, .single value⟩ := by
  rw [FilterValue.ofText,
    Text.cutAt?_append s.filters.delimiterInUse_ne_empty h.operator_delimiter value]

/-- A listing reads the separator as what stands between an operator and its value. -/
theorem ofRaw_separator (domain : Domain) :
    FilterValue.ofRaw s.filters domain
        (distinctFilterValue (operator ++ s.distinct.filterSeparatorInUse s.filters ++ value)
          (s.distinct.filterSeparatorInUse s.filters)) =
      ⟨s.filters.resolveAlias operator, .single value⟩ := by
  obtain ⟨hoperator, hvalue⟩ := Text.apart_append.mp h.written_separator
  rw [distinctFilterValue_append (DistinctSettings.filterSeparatorInUse_ne_empty _ _) hoperator hvalue,
    h.operator_trim, h.value_trim, FilterValue.ofRaw]

/-- A listing reads the delimiter as requests do. -/
theorem ofRaw_delimiter (domain : Domain) :
    FilterValue.ofRaw s.filters domain
        (distinctFilterValue (operator ++ s.filters.delimiterInUse ++ value)
          (s.distinct.filterSeparatorInUse s.filters)) =
      ⟨s.filters.resolveAlias operator, .single value⟩ := by
  rw [distinctFilterValue_of_apart (DistinctSettings.filterSeparatorInUse_ne_empty _ _) h.text_separator]
  exact h.ofText_delimiter domain

end Settings.Spells

namespace DistinctListing

variable {d : DistinctListing} {dialect : Dialect}

/-! ## What a listing makes of its filter -/

/-- What a listing with a filter reads. -/
theorem source_withFilter {filterer : Filterer} (hchosen : d.chosenFilterer = .ok filterer) (text : String) :
    (d.withFilter (some text)).source dialect = do
      let fields ← d.definition.resolve d.table .all d.settings
      let some allowed := fields.filter? d.request.field | .error .invalidDistinctField
      return {
        value := allowed.column.toExpr dialect
        conditions := (d.preQuery d.base).conditions ++
          ((d.withFilter (some text)).predicate? dialect allowed (some filterer)).toList } := by
  have hasked : ((some text).mapM fun _ => (d.withFilter (some text)).chosenFilterer) =
      .ok (some filterer) := mapM_some_eq_ok.mpr ⟨filterer, hchosen, rfl⟩
  have hfilter : (d.withFilter (some text)).request.filter = some text := rfl
  unfold source
  simp only [hfilter, hasked]
  rfl

/-- Two filters that make the same condition of every column make the same query. -/
theorem build_withFilter_congr {filterer : Filterer} {text text' : String}
    (hchosen : d.chosenFilterer = .ok filterer)
    (h : ∀ allowed, (d.withFilter (some text)).predicate? dialect allowed (some filterer) =
      (d.withFilter (some text')).predicate? dialect allowed (some filterer)) :
    (d.withFilter (some text)).build dialect = (d.withFilter (some text')).build dialect := by
  rw [build_eq, build_eq, source_withFilter hchosen, source_withFilter hchosen]
  simp only [h]
  rfl

/-- **Three spellings of one filter.**  An operator and a value that cannot be confused with the marks
make one condition of a column, or none at all, in a listing of distinct values with the separator of
listings or with the delimiter between them, and in a request with the delimiter: that of the operator
the text stands for, and of the value.  So a listing makes one query of the two texts. -/
theorem spellings_agree (d : DistinctListing) (r : ResolvedFields) (dialect : Dialect) (domain : Domain)
    {field operator value : String} {allowed : AllowedFilter} (hfield : r.filter? field = some allowed)
    (hallowed : allowed.filterer = .builtIn domain)
    (hunset : d.settings.definitions.valueDelimiter.getD "" = "") (h : d.settings.Spells operator value) :
    let f := d.settings.filters
    let separated := operator ++ d.settings.distinct.filterSeparatorInUse f ++ value
    let delimited := operator ++ f.delimiterInUse ++ value
    let condition := Filterer.buildDomain domain ⟨dialect, d.settings⟩ allowed.column
      ⟨f.resolveAlias operator, .single value⟩
    (d.withFilter (some separated)).predicate? dialect allowed (some (.builtIn domain)) = condition ∧
      (d.withFilter (some delimited)).predicate? dialect allowed (some (.builtIn domain)) = condition ∧
      r.conditionOf? ⟨dialect, d.settings⟩ (field, delimited) = condition ∧
      (d.chosenFilterer = .ok (.builtIn domain) →
        (d.withFilter (some separated)).build dialect = (d.withFilter (some delimited)).build dialect) := by
  intro f separated delimited condition
  -- in each case the condition is that of the same operator and value
  have hseparated (a : AllowedFilter) :
      (d.withFilter (some separated)).predicate? dialect a (some (.builtIn domain)) =
        Filterer.buildDomain domain ⟨dialect, d.settings⟩ a.column ⟨f.resolveAlias operator, .single value⟩ :=
    congrArg (Filterer.buildDomain domain ⟨dialect, d.settings⟩ a.column) (h.ofRaw_separator domain)
  have hdelimited (a : AllowedFilter) :
      (d.withFilter (some delimited)).predicate? dialect a (some (.builtIn domain)) =
        Filterer.buildDomain domain ⟨dialect, d.settings⟩ a.column ⟨f.resolveAlias operator, .single value⟩ :=
    congrArg (Filterer.buildDomain domain ⟨dialect, d.settings⟩ a.column) (h.ofRaw_delimiter domain)
  refine ⟨hseparated allowed, hdelimited allowed, ?_, fun hchosen => ?_⟩
  · have hne : ¬ delimited.isEmpty = true := by
      simp [delimited, f.delimiterInUse_ne_empty]
    rw [ResolvedFields.conditionOf?, if_neg hne, hfield, Option.bind_some, hallowed]
    refine congrArg (Filterer.buildDomain domain ⟨dialect, d.settings⟩ allowed.column) ?_
    rw [DefinitionSettings.valueDelimiterInUse_of_unset hunset, FilterValue.ofRaw_ofRequest_delimiterInUse]
    exact h.ofText_delimiter domain
  · exact build_withFilter_congr hchosen fun a => (hseparated a).trans (hdelimited a).symm

/-- An alias in front of a number, with marks of which each repeats a character. -/
theorem spellings_agree_doubled :
    let allowed : AllowedFilter := ⟨{ column := "score" }, .builtIn .number⟩
    let r : ResolvedFields := { filters := [("score", allowed)] }
    let d : DistinctListing :=
      { definition := {}, table := ⟨"t"⟩, base := .ofTable "t" ["score"], request := ⟨"score", none, none⟩
        settings := {
          filters := { delimiter := "::", aliases := [("from", "GTE")] }
          distinct := { filterSeparator := some "~~", defaultFilterer := "number" } } }
    let condition := some ((Expr.column none "score").compareTo .atLeast (.bigInt (-7)))
    r.filter? "score" = some allowed ∧ d.settings.definitions.valueDelimiter.getD "" = "" ∧
      d.settings.Spells "From" "-7" ∧ d.chosenFilterer = .ok (.builtIn .number) ∧
      (d.withFilter (some "From~~-7")).predicate? .mysql allowed (some (.builtIn .number)) = condition ∧
      (d.withFilter (some "From::-7")).predicate? .mysql allowed (some (.builtIn .number)) = condition ∧
      r.conditionOf? ⟨.mysql, d.settings⟩ ("score", "From::-7") = condition ∧
      (d.withFilter (some "From~~-7")).build .mysql = (d.withFilter (some "From::-7")).build .mysql := by
  intro allowed r d condition
  have hfield : r.filter? "score" = some allowed := rfl
  have hspells : d.settings.Spells "From" "-7" :=
    ⟨by decide, by decide, by decide, by decide, by decide⟩
  have hchosen : d.chosenFilterer = .ok (.builtIn .number) := by
    have hname : Domain.read "number" = .ok .number := by decide
    simp [chosenFilterer, d, Filterer.named, hname]
  have hcondition : Filterer.buildDomain .number ⟨.mysql, d.settings⟩ allowed.column
      ⟨d.settings.filters.resolveAlias "From", .single "-7"⟩ = condition := by decide
  obtain ⟨hseparated, hdelimited, hrequest, hbuild⟩ :=
    spellings_agree d r .mysql .number hfield rfl rfl hspells
  rw [hcondition] at hseparated hdelimited hrequest
  exact ⟨hfield, rfl, hspells, hchosen, hseparated, hdelimited, hrequest, hbuild hchosen⟩

end DistinctListing
end RequestQuery
