import RequestQuery.Proofs.Definition.Addons
import RequestQuery.Proofs.Definition.LastDeclaration

/-! # Resolved fields as a map

However often names are declared again, in the fields of an entity and in its addons,
resolving leaves each name once: at the place of its first declaration, filtered by what
the last one says (`ofSpecs_isMapOf`).  That holds of whatever is resolved
(`resolve_isMapOf`), and declaring everything a second time changes nothing
(`ofSpecs_append_self`).
-/
namespace RequestQuery

namespace ResolvedFields

variable (table : TableRef)

/-- The fields are a map, and it is the declarations that say what is in it. -/
structure IsMapOf (r : ResolvedFields) (specs : List FieldSpec) : Prop where
  filters_nodup : r.filters.names.Nodup
  sorts_nodup : r.sorts.names.Nodup
  /-- What can be sorted by can be filtered by. -/
  sorts_subset : ∀ name ∈ r.sorts.names, name ∈ r.filters.names
  /-- The names stand in the order in which they are declared first. -/
  filters_names : r.filters.names = (specs.map FieldSpec.name).eraseDups
  /-- The last declaration of a name says what it is filtered by. -/
  filter?_eq : ∀ name, r.filter? name = (FieldSpec.last? specs name).map (·.filter table)
  /-- Only names that are not declared are not there. -/
  filter?_eq_none_iff : ∀ name, r.filter? name = none ↔ ∀ spec ∈ specs, spec.name ≠ name

variable (specs : List FieldSpec)

/-- What the declarations put under their names, to filter by. -/
def filterEntries : Keyed AllowedFilter :=
  specs.map fun spec => (spec.name, spec.filter table)

/-- What the declarations that are sortable put under their names, to sort by. -/
def sortEntries : Keyed SortTarget :=
  specs.filterMap fun spec => (spec.sort? table).map (spec.name, ·)

theorem filters_ofSpecs : (ofSpecs table specs).filters = Keyed.overlay [] (filterEntries table specs) :=
  filters_merge table specs {}

theorem sorts_ofSpecs : (ofSpecs table specs).sorts = Keyed.overlay [] (sortEntries table specs) :=
  sorts_merge table specs {}

theorem names_filterEntries : (filterEntries table specs).names = specs.map FieldSpec.name := by
  simp [filterEntries, Keyed.names]

theorem names_sortEntries_subset : (sortEntries table specs).names ⊆ specs.map FieldSpec.name := by
  intro name hname
  obtain ⟨entry, hentry, rfl⟩ := List.mem_map.mp hname
  obtain ⟨spec, hspec, htarget⟩ := List.mem_filterMap.mp hentry
  obtain ⟨target, -, rfl⟩ := Option.map_eq_some_iff.mp htarget
  exact List.mem_map_of_mem hspec

theorem filter?_ofSpecs_eq_none_iff (name : String) :
    (ofSpecs table specs).filter? name = none ↔ ∀ spec ∈ specs, spec.name ≠ name := by
  rw [filter?_ofSpecs, Option.map_eq_none_iff, FieldSpec.last?, List.find?_eq_none]
  simp

/-- Resolving makes a map of declarations. -/
theorem ofSpecs_isMapOf : IsMapOf table (ofSpecs table specs) specs := by
  have hnames : (ofSpecs table specs).filters.names = (specs.map FieldSpec.name).eraseDups := by
    rw [filters_ofSpecs, Keyed.names_overlay Keyed.nodup_names_nil, names_filterEntries]
    rfl
  have hsorts : (ofSpecs table specs).sorts.names = (sortEntries table specs).names.eraseDups := by
    rw [sorts_ofSpecs, Keyed.names_overlay Keyed.nodup_names_nil]
    rfl
  constructor
  case filters_nodup => exact filters_ofSpecs table specs ▸ Keyed.nodup_names_overlay Keyed.nodup_names_nil _
  case sorts_nodup => exact sorts_ofSpecs table specs ▸ Keyed.nodup_names_overlay Keyed.nodup_names_nil _
  case sorts_subset =>
    intro name hname
    rw [hsorts, List.mem_eraseDups] at hname
    rw [hnames, List.mem_eraseDups]
    exact names_sortEntries_subset table specs hname
  case filters_names => exact hnames
  case filter?_eq => exact filter?_ofSpecs table specs
  case filter?_eq_none_iff => exact filter?_ofSpecs_eq_none_iff table specs

/-- Declaring everything once more changes nothing. -/
theorem ofSpecs_append_self : ofSpecs table (specs ++ specs) = ofSpecs table specs := by
  have hfilters : (ofSpecs table (specs ++ specs)).filters = (ofSpecs table specs).filters := by
    rw [filters_ofSpecs, filters_ofSpecs, filterEntries, List.map_append, ← filterEntries,
      Keyed.overlay_append_self Keyed.nodup_names_nil]
  have hsorts : (ofSpecs table (specs ++ specs)).sorts = (ofSpecs table specs).sorts := by
    rw [sorts_ofSpecs, sorts_ofSpecs, sortEntries, List.filterMap_append, ← sortEntries,
      Keyed.overlay_append_self Keyed.nodup_names_nil]
  exact congrArg₂ mk hfilters hsorts

end ResolvedFields

namespace QueryDefinition

variable {d : QueryDefinition} {table : TableRef} {selection : AddonSelection} {s : Settings}

/-- Whatever is resolved is resolved from the fields of the entity and of the selected addons. -/
theorem exists_groups_of_resolve (hunique : s.definitions.addons.names.Nodup) {r : ResolvedFields}
    (h : d.resolve table selection s = .ok r) :
    ∃ groups, List.Forall₂ (d.HasAddon s) (d.selectedNames s selection) groups ∧
      r = .ofSpecs table (d.fields ++ groups.flatten) := by
  have hsound : ¬ s.HasBrokenAddon := by
    intro hbroken
    have herror : ∃ filterer, d.resolve table selection s = .error (.unknownFilterer filterer) :=
      resolve_of_hasBrokenAddon hbroken
    obtain ⟨filterer, herror⟩ := herror
    cases h.symm.trans herror
  rcases isAvailable_or_missing (d := d) (s := s) (d.selectedNames s selection) with
    hall | ⟨before, name, after, hsplit, hbefore, hname⟩
  · obtain ⟨groups, hgroups⟩ := exists_groups hsound hall
    exact ⟨groups, hgroups, Except.ok.inj (h.symm.trans (resolve_of_forall₂ hunique hsound hgroups))⟩
  · cases h.symm.trans (resolve_of_missing hunique hsound hsplit hbefore hname)

/-- **Resolved fields are a map.**  Whatever a definition resolves with is a map of the declarations of
the entity and of the selected addons in their order; and a list of declarations resolves like the
same list twice. -/
theorem resolve_isMapOf (table : TableRef) :
    (∀ (d : QueryDefinition) (selection : AddonSelection) (s : Settings) (r : ResolvedFields),
      s.definitions.addons.names.Nodup → d.resolve table selection s = .ok r →
      ∃ groups, List.Forall₂ (d.HasAddon s) (d.selectedNames s selection) groups ∧
        ResolvedFields.IsMapOf table r (d.fields ++ groups.flatten)) ∧
      ∀ specs, ResolvedFields.ofSpecs table (specs ++ specs) = .ofSpecs table specs := by
  refine ⟨fun d selection s r hunique h => ?_, ResolvedFields.ofSpecs_append_self table⟩
  obtain ⟨groups, hgroups, rfl⟩ := exists_groups_of_resolve hunique h
  exact ⟨groups, hgroups, ResolvedFields.ofSpecs_isMapOf table _⟩

/-- A number that an addon declares again as a text, and a field that only the addon has; the addon is
selected twice. -/
theorem resolve_isMapOf_redeclared :
    let score : FieldSpec := .full { name := "score", filterer := some (.builtIn .number) }
    let d : QueryDefinition :=
      { fields := [score, .bare "name"]
        addons := [("billing", [.bare "plan", .aliased "score" "plans.score"])] }
    let selection : AddonSelection := .named ["billing", "billing"]
    ∃ r, d.resolve ⟨"clients"⟩ selection {} = .ok r ∧
      ({} : Settings).definitions.addons.names.Nodup ∧
      r.filters.names = ["score", "name", "plan"] ∧
      r.filter? "score" = some ⟨.parse "plans.score", .builtIn .text⟩ ∧
      r.filter? "rank" = none ∧
      ResolvedFields.ofSpecs ⟨"clients"⟩ ([score] ++ [score]) = .ofSpecs ⟨"clients"⟩ [score] := by
  intro score d selection
  have hunique : ({} : Settings).definitions.addons.names.Nodup := Keyed.nodup_names_nil
  obtain ⟨hmap, htwice⟩ := resolve_isMapOf ⟨"clients"⟩
  obtain ⟨groups, hgroups, hr⟩ := hmap d selection {} _ hunique rfl
  have hbilling : d.HasAddon {} "billing" [.bare "plan", .aliased "score" "plans.score"] := .inl rfl
  obtain ⟨first, rest, hfirst, hrest, rfl⟩ := List.forall₂_cons_left_iff.mp hgroups
  obtain ⟨second, rest, hsecond, hnil, rfl⟩ := List.forall₂_cons_left_iff.mp hrest
  cases hnil
  rw [hfirst.eq hunique hbilling, hsecond.eq hunique hbilling] at hr
  refine ⟨_, rfl, hunique, ?_, ?_, ?_, htwice [score]⟩
  · rw [hr.filters_names]
    decide
  · rw [hr.filter?_eq]
    rfl
  · rw [hr.filter?_eq_none_iff]
    decide

end QueryDefinition
end RequestQuery
