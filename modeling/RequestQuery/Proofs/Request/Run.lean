import Mathlib.Data.List.TakeWhile
import RequestQuery.Request

/-! # Runs over filters and directives

Applying filters is a run over them that ends at the first field that is not
allowed.  What it leaves behind is the target with the conditions of the filters
before that field, in their order and at the end of what was there
(`applyFilters_fst`, `applyFilters_snd`).  Applying directives is a run that has
no result at all if there is a field that cannot be sorted by (`applySorts_eq`).
-/
namespace RequestQuery

/-! ## Conditions one after the other -/

section
variable (conditions : List Expr)

theorem foldl_add_list (es : List Expr) : conditions.foldl QueryTarget.add es = es ++ conditions := by
  induction conditions generalizing es with
  | nil => rw [List.foldl_nil, List.append_nil]
  | cons e rest ih =>
    rw [List.foldl_cons, ih]
    exact List.append_assoc es [e] rest

theorem foldl_add_select (s : Select) :
    conditions.foldl QueryTarget.add s = { s with conditions := s.conditions ++ conditions } := by
  induction conditions generalizing s with
  | nil => rw [List.foldl_nil, List.append_nil]
  | cons e rest ih =>
    rw [List.foldl_cons, ih]
    show { s with conditions := s.conditions ++ [e] ++ rest } = _
    rw [List.append_assoc, List.singleton_append]

theorem foldl_add_junction (j : Junction) :
    conditions.foldl QueryTarget.add j = { j with members := j.members ++ conditions } := by
  induction conditions generalizing j with
  | nil => rw [List.foldl_nil, List.append_nil]
  | cons e rest ih =>
    rw [List.foldl_cons, ih]
    show { j with members := j.members ++ [e] ++ rest } = _
    rw [List.append_assoc, List.singleton_append]

end

namespace ResolvedFields

variable (r : ResolvedFields) (ctx : FilterContext)

/-! ## Filters -/

/-- Whether the field of a filter is allowed. -/
def allows (f : String × String) : Bool := (r.filter? f.1).isSome

/-- The condition of a filter, if it has a value and makes one. -/
def conditionOf? (f : String × String) : Option Expr :=
  if f.2.isEmpty then none
  else (r.filter? f.1).bind fun allowed =>
    allowed.filterer.build ctx allowed.column
      (.ofRequest f.2 (ctx.settings.definitions.valueDelimiterInUse ctx.settings.filters))

/-- The conditions of the filters before the first that is not allowed. -/
def conditions (filters : Keyed String) : List Expr :=
  (filters.takeWhile r.allows).filterMap (r.conditionOf? ctx)

section
variable {r} {τ : Type} [QueryTarget τ]

theorem applyFilter_eq {field value : String} {allowed : AllowedFilter} (h : r.filter? field = some allowed)
    (target : τ) :
    applyFilter ctx target allowed value =
      (r.conditionOf? ctx (field, value)).toList.foldl QueryTarget.add target := by
  rw [applyFilter, conditionOf?]
  split
  · rfl
  · rw [h, Option.bind_some, Filterer.apply]
    cases allowed.filterer.build ctx allowed.column _ <;> rfl

theorem conditions_cons_of_allows {f : String × String} (h : r.allows f) (rest : Keyed String) :
    r.conditions ctx (f :: rest) = (r.conditionOf? ctx f).toList ++ r.conditions ctx rest := by
  rw [conditions, List.takeWhile_cons_of_pos h, List.filterMap_cons]
  cases r.conditionOf? ctx f <;> rfl

theorem conditions_eq_of_all_allowed {filters : Keyed String} (h : ∀ f ∈ filters, r.allows f) :
    r.conditions ctx filters = filters.filterMap (r.conditionOf? ctx) := by
  rw [conditions, List.takeWhile_eq_self_iff.mpr h]

variable (r)

/-- What a run over filters leaves behind. -/
theorem applyFilters_fst (target : τ) (filters : Keyed String) :
    (r.applyFilters ctx target filters).1 = (r.conditions ctx filters).foldl QueryTarget.add target := by
  induction filters generalizing target with
  | nil => rfl
  | cons f rest ih =>
    obtain ⟨field, value⟩ := f
    cases h : r.filter? field with
    | none =>
      -- here the run stops, and nothing behind is among the conditions
      simp [applyFilters, conditions, allows, h]
    | some allowed =>
      have hallows : r.allows (field, value) := by rw [allows, h, Option.isSome_some]
      rw [applyFilters, h, conditions_cons_of_allows ctx hallows, List.foldl_append,
        ← applyFilter_eq ctx h]
      exact ih _

/-- How a run over filters ends. -/
theorem applyFilters_snd (target : τ) (filters : Keyed String) :
    (r.applyFilters ctx target filters).2 =
      match filters.find? (!r.allows ·) with
      | some f => .error (.filterNotAllowed f.1)
      | none => .ok () := by
  induction filters generalizing target with
  | nil => rfl
  | cons f rest ih =>
    obtain ⟨field, value⟩ := f
    cases h : r.filter? field with
    | none => simp [applyFilters, allows, h]
    | some allowed => simpa [applyFilters, allows, h] using ih _

end

/-! ## Directives -/

/-- Whether the field of a directive can be sorted by. -/
def sortable (d : SortDirective) : Bool := (r.sort? d.field).isSome

/-- The query after a directive. -/
def follow (s : Select) (d : SortDirective) : Select :=
  match r.sort? d.field with
  | some target => applySort ctx s target d.direction
  | none => s

/-- What a run over directives makes of a query. -/
theorem applySorts_eq (s : Select) (directives : List SortDirective) :
    r.applySorts ctx s directives =
      match directives.find? (!r.sortable ·) with
      | some d => .error (.sortNotAllowed d.field)
      | none => .ok (directives.foldl (r.follow ctx) s) := by
  induction directives generalizing s with
  | nil => rfl
  | cons d rest ih =>
    cases h : r.sort? d.field with
    | none => simp [applySorts, sortable, h]
    | some target =>
      have hfollow : r.follow ctx s d = applySort ctx s target d.direction := by rw [follow, h]
      have hskip : (d :: rest).find? (!r.sortable ·) = rest.find? (!r.sortable ·) :=
        List.find?_cons_of_neg (by simp [sortable, h])
      rw [applySorts, h, hskip, List.foldl_cons, hfollow]
      exact ih _

/-- The terms that a directive appends, if an ordering of its own appends some. -/
def termsOf (terms : CustomSort → Direction → List OrderTerm) (d : SortDirective) : List OrderTerm :=
  match r.sort? d.field with
  | some (.column c) => [⟨c.toExpr ctx.dialect, d.direction⟩]
  | some (.custom sort) => terms sort d.direction
  | none => []

/-- The orderings that are not columns append terms, and do nothing else to a query. -/
def Appends (terms : CustomSort → Direction → List OrderTerm) : Prop :=
  ∀ field sort, r.sort? field = some (.custom sort) →
    ∀ s direction, sort s direction = { s with order := s.order ++ terms sort direction }

section
variable {r} {terms : CustomSort → Direction → List OrderTerm} (hterms : r.Appends terms)
include hterms

theorem follow_eq (s : Select) (d : SortDirective) :
    r.follow ctx s d = { s with order := s.order ++ r.termsOf ctx terms d } := by
  rw [follow, termsOf]
  split
  · next target h =>
    cases target with
    | column c => rw [h]; rfl
    | custom sort => rw [h]; exact hterms d.field sort h s d.direction
  · next h => rw [h, List.append_nil]

theorem foldl_follow (s : Select) (directives : List SortDirective) :
    directives.foldl (r.follow ctx) s =
      { s with order := s.order ++ directives.flatMap (r.termsOf ctx terms) } := by
  induction directives generalizing s with
  | nil => rw [List.foldl_nil, List.flatMap_nil, List.append_nil]
  | cons d rest ih =>
    rw [List.foldl_cons, ih, follow_eq ctx hterms, List.flatMap_cons, ← List.append_assoc]

end

end ResolvedFields
end RequestQuery
