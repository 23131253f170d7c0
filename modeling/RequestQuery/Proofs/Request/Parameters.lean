import RequestQuery.Proofs.Sorted
import RequestQuery.Proofs.Text.ByteOrder
import RequestQuery.Proofs.Text.Split
import RequestQuery.Request

/-! # What a request asks for

The parameters of a request have different names and no order.  Its filters are
the parameters whose name is a field in brackets behind `filter`, and they are put
into the order of the bytes of their fields (`mem_filterParams`,
`pairwise_filterParams`).  Its directives stand in one text, in the order in which
they are to be followed (`sortParam_intercalate`).
-/
namespace RequestQuery

/-! ## Filters -/

/-- The parameter of a filter. -/
def filterKey (field : String) : String := "filter[" ++ field ++ "]"

theorem filterField?_filterKey {field : String} (h : field ≠ "") :
    filterField? (filterKey field) = some field := by
  have hkey : (filterKey field).toList = "filter[".toList ++ (field.toList ++ [']']) := by
    simp [filterKey]
  have hfield : field.toList.reverse.isEmpty = false := by simpa using h
  rw [filterField?, hkey, Text.after?_append]
  simp [hfield]

theorem eq_filterKey {key field : String} (h : filterField? key = some field) :
    key = filterKey field ∧ field ≠ "" := by
  rw [filterField?] at h
  split at h
  · cases h
  · next rest hrest =>
    have hkey := Text.after?_eq_some hrest
    split at h
    · next field' hend =>
      split at h
      · cases h
      · next hne =>
        cases h
        -- the rest was read from its end, where the bracket is
        have hrest : rest = field'.reverse ++ [']'] := by
          rw [← List.reverse_cons, ← hend, List.reverse_reverse]
        refine ⟨?_, by simpa using hne⟩
        rw [← String.toList_inj, hkey, hrest]
        simp [filterKey]
    · cases h

theorem filterField?_eq_some_iff {key field : String} :
    filterField? key = some field ↔ field ≠ "" ∧ key = filterKey field := by
  constructor
  · intro h
    exact (eq_filterKey h).symm
  · rintro ⟨hfield, rfl⟩
    exact filterField?_filterKey hfield

variable {params : Keyed String} (hunique : params.names.Nodup)

/-- The fields of the filters, with their values. -/
def requestedFilters (params : Keyed String) : Keyed String :=
  params.filterMap fun (key, value) => (filterField? key).map (·, value)

theorem mem_requestedFilters {field value : String} :
    (field, value) ∈ requestedFilters params ↔ field ≠ "" ∧ (filterKey field, value) ∈ params := by
  rw [requestedFilters, List.mem_filterMap]
  constructor
  · rintro ⟨⟨key, value'⟩, hmem, hfound⟩
    obtain ⟨field', hfield, heq⟩ := Option.map_eq_some_iff.mp hfound
    cases heq
    obtain ⟨hne, rfl⟩ := filterField?_eq_some_iff.mp hfield
    exact ⟨hne, hmem⟩
  · rintro ⟨hne, hmem⟩
    refine ⟨(filterKey field, value), hmem, ?_⟩
    exact Option.map_eq_some_iff.mpr ⟨field, filterField?_filterKey hne, rfl⟩

theorem names_requestedFilters : (requestedFilters params).names = params.names.filterMap filterField? := by
  rw [requestedFilters, Keyed.names, List.map_filterMap, Keyed.names, List.filterMap_map]
  refine List.filterMap_congr fun entry _ => ?_
  simp [Function.comp_def]

include hunique

theorem nodup_requestedFilters : (requestedFilters params).names.Nodup := by
  rw [names_requestedFilters]
  refine hunique.filterMap fun key key' field hkey hkey' => ?_
  rw [(eq_filterKey hkey).1, (eq_filterKey hkey').1]

/-- The filters of a request are the parameters with a field in brackets. -/
theorem mem_filterParams {field value : String} :
    (field, value) ∈ filterParams params ↔ field ≠ "" ∧ (filterKey field, value) ∈ params := by
  rw [← mem_requestedFilters]
  exact (Keyed.sorted_perm (nodup_requestedFilters hunique)).mem_iff

omit hunique in
/-- They are put into the order of the bytes of their fields. -/
theorem pairwise_filterParams (params : Keyed String) :
    (filterParams params).Pairwise fun f f' => Text.bytes f.1 < Text.bytes f'.1 := by
  have h := Keyed.pairwise_names_sorted (requestedFilters params)
  exact (List.pairwise_map.mp h).imp Text.lt_iff_bytes_lt.mp

omit hunique

/-! ## Directives -/

/-- The directives of words with commas between them.  Blanks around a word do not count, and a word
without characters is none. -/
theorem sortParam_intercalate {words : List String} (hwords : words ≠ [])
    (h : ∀ word ∈ words, Text.Apart word ",") :
    sortParam (",".intercalate words) =
      ((words.map Text.trim).filter (!·.isEmpty)).map fun word => .ofToken word.toList := by
  have hchars : ∀ s ∈ words.map String.toList, ∀ c ∈ s, c ∉ [','] := by
    intro _ hmem
    obtain ⟨word, hword, rfl⟩ := List.mem_map.mp hmem
    exact h word hword
  have hpieces : Text.pieces [','] (",".intercalate words).toList = words.map String.toList := by
    rw [String.toList_intercalate]
    exact Text.pieces_intercalate (List.cons_ne_nil _ _) (mt List.map_eq_nil_iff.mp hwords) hchars
  have hempty (word : String) : (Text.trimChars word.toList).isEmpty = (Text.trim word).isEmpty := by
    rw [← Text.toList_trim, Bool.eq_iff_iff, List.isEmpty_iff, String.isEmpty_iff, String.toList_eq_nil_iff]
  rw [sortParam, hpieces]
  simp only [List.map_map, List.filter_map, Function.comp_def, hempty, Text.toList_trim]

end RequestQuery
