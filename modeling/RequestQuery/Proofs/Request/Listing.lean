import RequestQuery.Proofs.Keyed
import RequestQuery.Proofs.Request.Parameters

/-! # Listings of the parameters

The parameters of a request have different names, but no order of their own: they are
listed in some order or other.  What a request does is the same for every listing
(`applyParams_eq_of_perm`).  That rests on two things: filters are put into an order of
their own before they are applied, and no two parameters are filters of one field
(`filterField?_inj`), so that it never matters which of two came last.
-/
namespace RequestQuery

/-! ## Filters -/

/-- No two parameters are filters of one field. -/
theorem filterField?_inj {key key' field : String} (h : filterField? key = some field)
    (h' : filterField? key' = some field) : key = key' :=
  (eq_filterKey h).1.trans (eq_filterKey h').1.symm

variable {params params' : Keyed String} (hunique : params.names.Nodup)
include hunique

/-- Every filter is there with its own value. -/
theorem get?_filterParams {key value field : String} (hmem : (key, value) ∈ params)
    (hfield : filterField? key = some field) : (filterParams params).get? field = some value := by
  obtain ⟨rfl, hne⟩ := eq_filterKey hfield
  have hnames : (filterParams params).names.Nodup :=
    (Keyed.pairwise_names_sorted (requestedFilters params)).imp ne_of_lt
  exact Keyed.get?_of_mem hnames ((mem_filterParams hunique).mpr ⟨hne, hmem⟩)

theorem filterParams_eq_of_perm (h : params.Perm params') : filterParams params = filterParams params' :=
  Keyed.sorted_eq_of_perm (nodup_requestedFilters hunique) (h.filterMap _)

omit hunique

namespace ResolvedFields

variable (r : ResolvedFields) (ctx : FilterContext)

/-- **The order of the parameters does not matter.**  Whatever the fields, the context and the query are,
a request has the same result in every listing of its parameters, or the same error.  Parameters of
different names are filters of different fields, and none takes the place of another. -/
theorem applyParams_eq_of_perm :
    (∀ params params' : Keyed String, params.names.Nodup → params.Perm params' →
      (∀ s, r.applyParams ctx s params = r.applyParams ctx s params') ∧
      ∀ key value field, (key, value) ∈ params → filterField? key = some field →
        (filterParams params').get? field = some value) ∧
      ∀ key key' field, filterField? key = some field → filterField? key' = some field → key = key' := by
  refine ⟨fun params params' hunique h => ⟨fun s => ?_, fun key value field hmem hfield => ?_⟩,
    fun key key' field => filterField?_inj⟩
  · rw [applyParams, applyParams, filterParams_eq_of_perm hunique h,
      Keyed.get?_eq_of_perm hunique h "sort"]
  · rw [← filterParams_eq_of_perm hunique h]
    exact get?_filterParams hunique hmem hfield

/-- Of two fields that are not allowed one is the error, whichever of them is listed first. -/
theorem applyParams_eq_of_perm_reversed :
    let r : ResolvedFields := { filters := [("name", ⟨{ column := "name" }, .builtIn .text⟩)] }
    let ctx : FilterContext := ⟨.sqlite, {}⟩
    let s := Select.ofTable "items" ["name"]
    let params : Keyed String :=
      [("filter[zip]", "1"), ("sort", "name"), ("filter[name]", "x"), ("filter[age]", "")]
    params.names.Nodup ∧ params.Perm params.reverse ∧
      r.applyParams ctx s params = r.applyParams ctx s params.reverse ∧
      r.applyParams ctx s params.reverse = .error (.filterNotAllowed "age") ∧
      (filterParams params.reverse).get? "zip" = some "1" := by
  intro r ctx s params
  have hunique : params.names.Nodup := by decide
  have hperm : params.Perm params.reverse := by decide
  obtain ⟨hsame, hkept⟩ := (applyParams_eq_of_perm r ctx).1 params params.reverse hunique hperm
  exact ⟨hunique, hperm, hsame s, rfl, hkept "filter[zip]" "1" "zip" (by decide) rfl⟩

end ResolvedFields
end RequestQuery
