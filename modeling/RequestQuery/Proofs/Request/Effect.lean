import RequestQuery.Proofs.Keyed
import RequestQuery.Proofs.Request.Parameters
import RequestQuery.Proofs.Request.Run

/-! # What a request does

A request is a run over its filters, in the order of the bytes of their fields, and
then one over its directives.  Whether it succeeds depends on its fields alone; what
it appends are the conditions of the filters that have a value and make one, and
what its directives append, each exactly once (`request_effect`).
-/
namespace RequestQuery
namespace ResolvedFields

variable (r : ResolvedFields) (ctx : FilterContext)

/-! ## Filters on every kind of target -/

/-- What applying filters does to the targets. -/
structure FiltersApplied (filters : Keyed String) : Prop where
  /-- A field that is not allowed is a mistake of the client, with or without a value. -/
  fails_iff {τ : Type} [QueryTarget τ] (target : τ) :
    (∃ e, (r.applyFilters ctx target filters).2 = .error e ∧ e.kind = .badRequest) ↔
      ∃ f ∈ filters, r.filter? f.1 = none
  /-- There are no other mistakes. -/
  succeeds_iff {τ : Type} [QueryTarget τ] (target : τ) :
    (r.applyFilters ctx target filters).2 = .ok () ↔ ∀ f ∈ filters, r.filter? f.1 ≠ none
  list (es : List Expr) :
    (r.applyFilters ctx es filters).1 = es ++ r.conditions ctx filters
  select (s : Select) :
    (r.applyFilters ctx s filters).1 = { s with conditions := s.conditions ++ r.conditions ctx filters }
  junction (j : Junction) :
    (r.applyFilters ctx j filters).1 = { j with members := j.members ++ r.conditions ctx filters }

theorem find?_allowed_eq_none {filters : Keyed String} :
    filters.find? (!r.allows ·) = none ↔ ∀ f ∈ filters, r.filter? f.1 ≠ none := by
  simp [List.find?_eq_none, allows]

theorem filtersApplied (filters : Keyed String) : r.FiltersApplied ctx filters := by
  constructor
  case fails_iff =>
    intro τ _ target
    rw [r.applyFilters_snd ctx target filters]
    cases hfound : filters.find? (!r.allows ·) with
    | some f =>
      have hf : r.filter? f.1 = none := by simpa [allows] using List.find?_some hfound
      exact iff_of_true ⟨_, rfl, rfl⟩ ⟨f, List.mem_of_find?_eq_some hfound, hf⟩
    | none =>
      refine iff_of_false (by rintro ⟨e, he, -⟩; cases he) ?_
      rintro ⟨f, hmem, hf⟩
      exact r.find?_allowed_eq_none.mp hfound f hmem hf
  case succeeds_iff =>
    intro τ _ target
    rw [r.applyFilters_snd ctx target filters, ← r.find?_allowed_eq_none]
    cases filters.find? (!r.allows ·) <;> simp
  case list =>
    intro es
    rw [r.applyFilters_fst ctx es filters, foldl_add_list]
  case select =>
    intro s
    rw [r.applyFilters_fst ctx s filters, foldl_add_select]
  case junction =>
    intro j
    rw [r.applyFilters_fst ctx j filters, foldl_add_junction]

/-! ## Requests as runs -/

/-- The directives of a request. -/
def directives (params : Keyed String) : List SortDirective :=
  match params.get? "sort" with
  | some sort => sortParam sort
  | none => []

theorem applyParams_eq (s : Select) (params : Keyed String) :
    r.applyParams ctx s params =
      match (filterParams params).find? (!r.allows ·) with
      | some f => .error (.filterNotAllowed f.1)
      | none =>
        r.applySorts ctx { s with conditions := s.conditions ++ r.conditions ctx (filterParams params) }
          (directives params) := by
  have hrun : r.applyFilters ctx s (filterParams params) =
      ({ s with conditions := s.conditions ++ r.conditions ctx (filterParams params) },
        match (filterParams params).find? (!r.allows ·) with
        | some f => .error (.filterNotAllowed f.1)
        | none => .ok ()) :=
    Prod.ext ((r.applyFilters_fst ctx s _).trans (foldl_add_select _ s)) (r.applyFilters_snd ctx s _)
  rw [applyParams, hrun, directives]
  cases (filterParams params).find? (!r.allows ·) with
  | some f => rfl
  | none => cases params.get? "sort" <;> rfl

theorem find?_sortable_eq_none {ds : List SortDirective} :
    ds.find? (!r.sortable ·) = none ↔ ∀ d ∈ ds, r.sort? d.field ≠ none := by
  simp [List.find?_eq_none, sortable]

/-! ## Whole requests -/

/-- The request asks for a filter by a field that is not allowed. -/
structure Refuses (params : Keyed String) (field : String) : Prop where
  field_ne : field ≠ ""
  requested : ∃ value, (filterKey field, value) ∈ params
  unknown : r.filter? field = none

/-- What applying a request does to a query. -/
structure ParamsApplied (s : Select) (params : Keyed String) : Prop where
  /-- The filters of a request, whatever order its parameters have. -/
  filter_iff {field value : String} :
    (field, value) ∈ filterParams params ↔ field ≠ "" ∧ (filterKey field, value) ∈ params
  filter_order : (filterParams params).Pairwise fun f f' => Text.bytes f.1 < Text.bytes f'.1
  succeeds_iff :
    (∃ q, r.applyParams ctx s params = .ok q) ↔
      (∀ field, ¬ r.Refuses params field) ∧
        ∀ sort, ("sort", sort) ∈ params → ∀ d ∈ sortParam sort, r.sort? d.field ≠ none
  /-- Of the fields that are not allowed the first one is the error, whatever the directives are. -/
  filter_fails {field : String} (h : r.Refuses params field) :
    ∃ first, r.Refuses params first ∧
      (∀ other, r.Refuses params other → ¬ Text.bytes other < Text.bytes first) ∧
      r.applyParams ctx s params = .error (.filterNotAllowed first)
  /-- If there is none, the first directive that cannot be followed is. -/
  sort_fails (hfilters : ∀ field, ¬ r.Refuses params field) {d : SortDirective}
    (hd : d ∈ directives params) (h : r.sort? d.field = none) :
    ∃ before first after, directives params = before ++ first :: after ∧
      (∀ d ∈ before, r.sort? d.field ≠ none) ∧ r.sort? first.field = none ∧
      r.applyParams ctx s params = .error (.sortNotAllowed first.field)
  /-- First the conditions are appended, and then the directives are followed, each exactly once. -/
  result {q : Select} (h : r.applyParams ctx s params = .ok q) :
    q = (directives params).foldl (r.follow ctx)
      { s with conditions := s.conditions ++ (filterParams params).filterMap (r.conditionOf? ctx) }
  ordered {terms : CustomSort → Direction → List OrderTerm} (hterms : r.Appends terms) {q : Select}
    (h : r.applyParams ctx s params = .ok q) :
    q = { s with
      conditions := s.conditions ++ (filterParams params).filterMap (r.conditionOf? ctx)
      order := s.order ++ (directives params).flatMap (r.termsOf ctx terms) }

section
variable {r} {params : Keyed String} (hunique : params.names.Nodup)
include hunique

theorem mem_directives {d : SortDirective} :
    d ∈ directives params ↔ ∃ sort, ("sort", sort) ∈ params ∧ d ∈ sortParam sort := by
  simp only [← Keyed.get?_eq_some_iff hunique, directives]
  cases params.get? "sort" <;> simp

/-- All filters of a request are allowed. -/
theorem find?_filterParams_eq_none :
    (filterParams params).find? (!r.allows ·) = none ↔ ∀ field, ¬ r.Refuses params field := by
  rw [find?_allowed_eq_none]
  constructor
  · intro h field hrefuses
    obtain ⟨value, hmem⟩ := hrefuses.requested
    exact h (field, value) ((mem_filterParams hunique).mpr ⟨hrefuses.field_ne, hmem⟩) hrefuses.unknown
  · rintro h ⟨field, value⟩ hmem hunknown
    obtain ⟨hne, hmem⟩ := (mem_filterParams hunique).mp hmem
    exact h field ⟨hne, ⟨value, hmem⟩, hunknown⟩

theorem applyParams_of_allowed (hallowed : ∀ field, ¬ r.Refuses params field) (s : Select) :
    r.applyParams ctx s params =
      r.applySorts ctx
        { s with conditions := s.conditions ++ (filterParams params).filterMap (r.conditionOf? ctx) }
        (directives params) := by
  have hnone := (find?_filterParams_eq_none hunique).mpr hallowed
  have hall : ∀ f ∈ filterParams params, r.allows f = true := fun f hf =>
    Option.isSome_iff_ne_none.mpr (r.find?_allowed_eq_none.mp hnone f hf)
  rw [applyParams_eq, hnone, conditions_eq_of_all_allowed ctx hall]

theorem not_refuses_of_ok {s q : Select} (h : r.applyParams ctx s params = .ok q) (field : String) :
    ¬ r.Refuses params field := by
  have hnone : (filterParams params).find? (!r.allows ·) = none := by
    rw [applyParams_eq] at h
    split at h
    · cases h
    · assumption
  exact (find?_filterParams_eq_none hunique).mp hnone field

/-- Of the fields that are not allowed the one whose bytes come first is the error. -/
theorem applyParams_of_refuses {field : String} (hrefuses : r.Refuses params field) (s : Select) :
    ∃ first, r.Refuses params first ∧
      (∀ other, r.Refuses params other → ¬ Text.bytes other < Text.bytes first) ∧
      r.applyParams ctx s params = .error (.filterNotAllowed first) := by
  cases hfound : (filterParams params).find? (!r.allows ·) with
  | none => exact absurd hrefuses ((find?_filterParams_eq_none hunique).mp hfound field)
  | some first =>
    obtain ⟨hfirst, before, after, hsplit, hbefore⟩ := List.find?_eq_some_iff_append.mp hfound
    have hunknown : r.filter? first.1 = none := by simpa [allows] using hfirst
    obtain ⟨hne, hmem⟩ := (mem_filterParams hunique).mp (List.mem_of_find?_eq_some hfound)
    refine ⟨first.1, ⟨hne, ⟨first.2, hmem⟩, hunknown⟩, fun other hother hlt => ?_, ?_⟩
    · obtain ⟨value, hvalue⟩ := hother.requested
      have hmem : (other, value) ∈ before ++ first :: after :=
        hsplit ▸ (mem_filterParams hunique).mpr ⟨hother.field_ne, hvalue⟩
      have horder := pairwise_filterParams params
      rw [hsplit] at horder
      rcases List.mem_append.mp hmem with hmem | hmem
      · -- what stands before the first that is not allowed is allowed
        have := hbefore _ hmem
        simp [allows, hother.unknown] at this
      · rcases List.mem_cons.mp hmem with rfl | hmem
        · exact List.lt_irrefl _ hlt
        · have hafter := (List.pairwise_append.mp horder).2.1
          exact List.lt_asymm ((List.pairwise_cons.mp hafter).1 _ hmem) hlt
    · rw [applyParams_eq, hfound]

theorem applyParams_of_unsortable (hallowed : ∀ field, ¬ r.Refuses params field) (s : Select)
    {d : SortDirective} (hd : d ∈ directives params) (hunknown : r.sort? d.field = none) :
    ∃ before first after, directives params = before ++ first :: after ∧
      (∀ d ∈ before, r.sort? d.field ≠ none) ∧ r.sort? first.field = none ∧
      r.applyParams ctx s params = .error (.sortNotAllowed first.field) := by
  rw [applyParams_of_allowed ctx hunique hallowed, applySorts_eq]
  cases hfound : (directives params).find? (!r.sortable ·) with
  | none => exact absurd hunknown (r.find?_sortable_eq_none.mp hfound d hd)
  | some first =>
    obtain ⟨hfirst, before, after, hsplit, hbefore⟩ := List.find?_eq_some_iff_append.mp hfound
    refine ⟨before, first, after, hsplit, fun d hd => ?_, by simpa [sortable] using hfirst, rfl⟩
    simpa [sortable, Option.isSome_iff_ne_none] using hbefore d hd

/-- Whatever comes out is the query with the conditions, after all directives. -/
theorem eq_of_applyParams {s q : Select} (h : r.applyParams ctx s params = .ok q) :
    q = (directives params).foldl (r.follow ctx)
      { s with conditions := s.conditions ++ (filterParams params).filterMap (r.conditionOf? ctx) } := by
  rw [applyParams_of_allowed ctx hunique (not_refuses_of_ok ctx hunique h), applySorts_eq] at h
  split at h
  · cases h
  · exact (Except.ok.inj h).symm

theorem applyParams_eq_ok_iff (s : Select) :
    (∃ q, r.applyParams ctx s params = .ok q) ↔
      (∀ field, ¬ r.Refuses params field) ∧
        ∀ sort, ("sort", sort) ∈ params → ∀ d ∈ sortParam sort, r.sort? d.field ≠ none := by
  constructor
  · rintro ⟨q, h⟩
    have hallowed := not_refuses_of_ok ctx hunique h
    rw [applyParams_of_allowed ctx hunique hallowed, applySorts_eq] at h
    refine ⟨hallowed, fun sort hsort d hd => ?_⟩
    split at h
    · cases h
    · next hnone =>
      exact r.find?_sortable_eq_none.mp hnone d ((mem_directives hunique).mpr ⟨sort, hsort, hd⟩)
  · rintro ⟨hallowed, hsorts⟩
    have hnone : (directives params).find? (!r.sortable ·) = none := by
      refine r.find?_sortable_eq_none.mpr fun d hd => ?_
      obtain ⟨sort, hsort, hmem⟩ := (mem_directives hunique).mp hd
      exact hsorts sort hsort d hmem
    rw [applyParams_of_allowed ctx hunique hallowed, applySorts_eq, hnone]
    exact ⟨_, rfl⟩

theorem paramsApplied (s : Select) : r.ParamsApplied ctx s params := by
  constructor
  case filter_iff => exact mem_filterParams hunique
  case filter_order => exact pairwise_filterParams params
  case succeeds_iff => exact applyParams_eq_ok_iff ctx hunique s
  case filter_fails => exact fun hrefuses => applyParams_of_refuses ctx hunique hrefuses s
  case sort_fails => exact fun hallowed => applyParams_of_unsortable ctx hunique hallowed s
  case result => exact fun h => eq_of_applyParams ctx hunique h
  case ordered =>
    intro terms hterms q h
    rw [eq_of_applyParams ctx hunique h, foldl_follow ctx hterms]

end

/-- **What a request does**, filter by filter and as a whole. -/
theorem request_effect :
    (∀ filters, r.FiltersApplied ctx filters) ∧
      ∀ s params, params.names.Nodup → r.ParamsApplied ctx s params :=
  ⟨r.filtersApplied ctx, fun s _ hunique => paramsApplied ctx hunique s⟩

/-- A request whose filters come in another order than their parameters, one of them without a value, with
an ordering of its own; and filters of which one is not allowed. -/
theorem request_effect_items :
    let column (name : String) : ColumnRef := { table := some "items", column := name }
    let ranked : CustomSort := fun s direction =>
      (s.orderBy (column "rank").columnExpr direction).orderBy (column "id").columnExpr .ascending
    let terms : CustomSort → Direction → List OrderTerm := fun _ direction =>
      [⟨(column "rank").columnExpr, direction⟩, ⟨(column "id").columnExpr, .ascending⟩]
    let r : ResolvedFields :=
      { filters := [("name", ⟨column "name", .builtIn .text⟩), ("score", ⟨column "score", .builtIn .number⟩),
          ("code", ⟨column "code", .builtIn .text⟩)]
        sorts := [("name", .column (column "name")), ("best", .custom ranked)] }
    let ctx : FilterContext := ⟨.sqlite, {}⟩
    let s := Select.ofTable "items" ["name"]
    let params : Keyed String := [("filter[score]", "gt|3"), ("sort", "-best, name"), ("filter[name]", ""),
      ("page", "2"), ("filter[code]", "eq|x")]
    let coded := (column "code").columnExpr.compareTo .equal (.text "x")
    params.names.Nodup ∧ r.Appends terms ∧
      r.applyParams ctx s params = .ok
        { s with
          conditions := [coded, (column "score").columnExpr.compareTo .greater (.bigInt 3)]
          order := [⟨(column "rank").columnExpr, .descending⟩, ⟨(column "id").columnExpr, .ascending⟩,
            ⟨(column "name").columnExpr, .ascending⟩] } ∧
      (r.applyFilters ctx [coded]
          [("code", "eq|x"), ("name", ""), ("score", "gt|x"), ("page", ""), ("code", "eq|y")]).1 =
        [coded, coded] := by
  intro column ranked terms r ctx s params coded
  have hunique : params.names.Nodup := by decide
  have hterms : r.Appends terms := by
    intro field sort hsort s direction
    obtain ⟨entry, hfound, hentry⟩ := Option.map_eq_some_iff.mp hsort
    rcases List.mem_cons.mp (List.mem_of_find?_eq_some hfound) with rfl | hmem
    · cases hentry
    · cases List.mem_singleton.mp hmem
      cases hentry
      simp [ranked, terms, Select.orderBy]
  have hdirectives : directives params = [⟨"best", .descending⟩, ⟨"name", .ascending⟩] := by
    have hjoin : ",".intercalate ["-best", " name"] = "-best, name" := by decide
    show sortParam "-best, name" = _
    rw [← hjoin, sortParam_intercalate (by decide) (by decide)]
    decide
  obtain ⟨hfilters, hparams⟩ := request_effect r ctx
  have happlied := hparams s params hunique
  refine ⟨hunique, hterms, ?_, ?_⟩
  · have hallowed := (find?_filterParams_eq_none (r := r) hunique).mp (by decide)
    have hsorts : ∀ d ∈ directives params, r.sort? d.field ≠ none := by
      rw [hdirectives]
      decide
    obtain ⟨q, hq⟩ := happlied.succeeds_iff.mpr
      ⟨hallowed, fun sort hsort d hd => hsorts d ((mem_directives hunique).mpr ⟨sort, hsort, hd⟩)⟩
    rw [hq, happlied.ordered hterms hq, hdirectives]
    decide
  · rw [(hfilters _).list]
    decide

end ResolvedFields
end RequestQuery
