import RequestQuery.Definition.Resolve
import RequestQuery.Proofs.Keyed

/-! # What the last declaration of a field decides

Of several declarations of one name the last decides what the name is filtered by
(`filter?_ofSpecs`).  What it is sorted by is decided by the last of them that is
sortable (`sort?_ofSpecs`), so that a field can be sorted by a column that its last
declaration knows nothing of.  The last declaration decides both exactly if it is
sortable or none is (`sortsAsDeclared_iff`).
-/
namespace RequestQuery

namespace FieldSpec

/-- The last declaration of a name. -/
def last? (specs : List FieldSpec) (name : String) : Option FieldSpec :=
  specs.reverse.find? (·.name == name)

/-- Whether a field is declared as one that can be sorted by. -/
def IsSortable : FieldSpec → Prop
  | bare _ | aliased _ _ => True
  | full d => d.customSort.isSome = true ∨ d.sortable = some true

theorem sort?_eq_none_iff (table : TableRef) (spec : FieldSpec) :
    spec.sort? table = none ↔ ¬ spec.IsSortable := by
  cases spec with
  | bare name => simp [sort?, IsSortable]
  | aliased name internal => simp [sort?, IsSortable]
  | full d =>
    rw [sort?, FieldDefinition.sortTarget?, IsSortable]
    cases d.customSort with
    | some sort => simp
    | none => by_cases h : d.sortable = some true <;> simp [h]

theorem last?_eq_some_iff {specs : List FieldSpec} {name : String} {last : FieldSpec} :
    last? specs name = some last ↔ ∃ before after, specs = before ++ last :: after ∧
      last.name = name ∧ ∀ later ∈ after, later.name ≠ name := by
  rw [last?, List.find?_eq_some_iff_append]
  simp only [List.reverse_eq_append_iff, List.reverse_cons, List.append_assoc,
    List.singleton_append, beq_iff_eq, Bool.not_eq_true', beq_eq_false_iff_ne]
  constructor
  · rintro ⟨hname, after, before, hspecs, hlater⟩
    exact ⟨_, _, hspecs, hname, fun later h => hlater later (List.mem_reverse.mp h)⟩
  · rintro ⟨before, after, rfl, hname, hlater⟩
    refine ⟨hname, after.reverse, before.reverse, by simp, ?_⟩
    exact fun later h => hlater later (List.mem_reverse.mp h)

/-- The column that a field is sorted by is the one that it is filtered by. -/
theorem column_filter_of_sort? {table : TableRef} {spec : FieldSpec} {c : ColumnRef}
    (h : spec.sort? table = some (.column c)) : (spec.filter table).column = c := by
  cases spec with
  | bare name => cases h; rfl
  | aliased name internal => cases h; rfl
  | full d =>
    rw [sort?, FieldDefinition.sortTarget?] at h
    split at h
    · cases h
    · split at h
      · cases h
        rfl
      · cases h

end FieldSpec

namespace ResolvedFields

variable (table : TableRef) (specs : List FieldSpec) (name : String)

/-! ## Two lists of names

The declarations are laid over both lists, over the second only those that are sortable. -/

theorem filters_merge (r : ResolvedFields) :
    (r.merge table specs).filters =
      r.filters.overlay (specs.map fun spec => (spec.name, spec.filter table)) := by
  induction specs generalizing r with
  | nil => rfl
  | cons spec rest ih =>
    show ((r.add table spec).merge table rest).filters = _
    rw [ih]
    rfl

theorem sorts_merge (r : ResolvedFields) :
    (r.merge table specs).sorts =
      r.sorts.overlay (specs.filterMap fun spec => (spec.sort? table).map (spec.name, ·)) := by
  induction specs generalizing r with
  | nil => rfl
  | cons spec rest ih =>
    show ((r.add table spec).merge table rest).sorts = _
    rw [ih, add, List.filterMap_cons]
    cases spec.sort? table with
    | none => rfl
    | some target => rfl

/-- The last declaration of a name says what it is filtered by. -/
theorem filter?_ofSpecs :
    (ofSpecs table specs).filter? name = (FieldSpec.last? specs name).map (·.filter table) := by
  rw [ofSpecs, filter?, filters_merge, Keyed.get?_overlay, Keyed.last?, FieldSpec.last?]
  simp [Keyed.get?, ← List.map_reverse, List.find?_map, Function.comp_def]

/-- The last sortable declaration of a name says what it is sorted by. -/
theorem sort?_ofSpecs :
    (ofSpecs table specs).sort? name =
      specs.reverse.findSome? fun spec => if spec.name = name then spec.sort? table else none := by
  rw [ofSpecs, sort?, sorts_merge, Keyed.get?_overlay, Keyed.last?, ← List.filterMap_reverse]
  -- Nothing was there before; the declarations are gone through from the last one on.
  show Option.or _ none = _
  rw [Option.or_none]
  induction specs.reverse with
  | nil => rfl
  | cons spec rest ih =>
    rw [List.filterMap_cons, List.findSome?_cons]
    cases htarget : spec.sort? table with
    | none =>
      rw [ite_self]
      exact ih
    | some target =>
      by_cases hname : spec.name = name
      · rw [if_pos hname]
        simp [Keyed.get?, hname]
      · rw [if_neg hname]
        simpa [Keyed.get?, hname] using ih

variable {table specs name}

theorem sort?_ofSpecs_eq_none_iff :
    (ofSpecs table specs).sort? name = none ↔
      ∀ spec ∈ specs, spec.name = name → ¬ spec.IsSortable := by
  rw [sort?_ofSpecs, List.findSome?_eq_none_iff]
  simp only [List.mem_reverse, ite_eq_right_iff, FieldSpec.sort?_eq_none_iff]

theorem sort?_ofSpecs_eq_some_iff {target : SortTarget} :
    (ofSpecs table specs).sort? name = some target ↔
      ∃ before spec after, specs = before ++ spec :: after ∧ spec.name = name ∧
        spec.sort? table = some target ∧
        ∀ later ∈ after, later.name = name → ¬ later.IsSortable := by
  have hskipped (later : FieldSpec) :
      (if later.name = name then later.sort? table else none) = none ↔
        (later.name = name → ¬ later.IsSortable) := by
    rw [ite_eq_right_iff, FieldSpec.sort?_eq_none_iff]
  rw [sort?_ofSpecs, List.findSome?_eq_some_iff]
  simp only [hskipped, List.reverse_eq_append_iff, List.reverse_cons, List.append_assoc,
    List.singleton_append]
  constructor
  · rintro ⟨after, spec, before, hspecs, htarget, hlater⟩
    obtain ⟨hname, htarget⟩ := (Option.ite_none_right_eq_some ..).mp htarget
    exact ⟨_, spec, _, hspecs, hname, htarget, fun later h => hlater later (List.mem_reverse.mp h)⟩
  · rintro ⟨before, spec, after, rfl, hname, htarget, hlater⟩
    refine ⟨after.reverse, spec, before.reverse, by simp, by rw [if_pos hname, htarget], ?_⟩
    exact fun later h => hlater later (List.mem_reverse.mp h)

/-- If the last declaration of a name is sortable, it says what the name is sorted by. -/
theorem sort?_ofSpecs_of_last {last : FieldSpec} (hlast : FieldSpec.last? specs name = some last)
    (h : last.IsSortable) : (ofSpecs table specs).sort? name = last.sort? table := by
  obtain ⟨target, htarget⟩ := Option.ne_none_iff_exists'.mp
    (mt (FieldSpec.sort?_eq_none_iff table last).mp (not_not_intro h))
  obtain ⟨before, after, hspecs, hname, hlater⟩ := FieldSpec.last?_eq_some_iff.mp hlast
  rw [htarget, sort?_ofSpecs_eq_some_iff]
  exact ⟨before, last, after, hspecs, hname, htarget, fun later h heq => absurd heq (hlater later h)⟩

/-! ## Where one declaration decides both -/

variable (table specs name)

/-- The last declaration of a name says what it is sorted by, if by anything. -/
def SortsAsDeclared : Prop :=
  (ofSpecs table specs).sort? name = (FieldSpec.last? specs name).bind (·.sort? table)

/-- A column that a name is sorted by is the one that it is filtered by. -/
def SortsByFilteredColumn : Prop :=
  ∀ c, (ofSpecs table specs).sort? name = some (.column c) →
    ((ofSpecs table specs).filter? name).map (·.column) = some c

variable {table specs name} in
theorem SortsAsDeclared.sortsByFilteredColumn (h : SortsAsDeclared table specs name) :
    SortsByFilteredColumn table specs name := by
  intro c hc
  rw [h, Option.bind_eq_some_iff] at hc
  obtain ⟨last, hlast, hsort⟩ := hc
  rw [filter?_ofSpecs, hlast, Option.map_some, Option.map_some, FieldSpec.column_filter_of_sort? hsort]

/-- **What the last declaration decides.**  It always decides what its name is filtered by.  It
decides what the name is sorted by exactly if it is sortable or no declaration of the name is; then
the name is sorted by no other column than it is filtered by.  Otherwise an earlier declaration,
the last sortable one, decides what the name is sorted by. -/
theorem sortsAsDeclared_iff :
    (ofSpecs table specs).filter? name = (FieldSpec.last? specs name).map (·.filter table) ∧
      (SortsAsDeclared table specs name ↔
        (∃ last, FieldSpec.last? specs name = some last ∧ last.IsSortable) ∨
          ∀ spec ∈ specs, spec.name = name → ¬ spec.IsSortable) ∧
      (SortsAsDeclared table specs name → SortsByFilteredColumn table specs name) ∧
      (¬ SortsAsDeclared table specs name →
        ∃ before spec after, specs = before ++ spec :: after ∧ spec.name = name ∧
          spec.IsSortable ∧ (∀ later ∈ after, later.name = name → ¬ later.IsSortable) ∧
          (ofSpecs table specs).sort? name = spec.sort? table) := by
  have hiff : SortsAsDeclared table specs name ↔
      (∃ last, FieldSpec.last? specs name = some last ∧ last.IsSortable) ∨
        ∀ spec ∈ specs, spec.name = name → ¬ spec.IsSortable := by
    constructor
    · intro h
      cases hsort : (ofSpecs table specs).sort? name with
      | none => exact .inr (sort?_ofSpecs_eq_none_iff.mp hsort)
      | some target =>
        rw [h, Option.bind_eq_some_iff] at hsort
        obtain ⟨last, hlast, htarget⟩ := hsort
        refine .inl ⟨last, hlast, ?_⟩
        by_contra hno
        rw [(last.sort?_eq_none_iff table).mpr hno] at htarget
        cases htarget
    · rintro (⟨last, hlast, hsortable⟩ | hnone)
      · rw [SortsAsDeclared, sort?_ofSpecs_of_last hlast hsortable, hlast, Option.bind_some]
      · rw [SortsAsDeclared, sort?_ofSpecs_eq_none_iff.mpr hnone, eq_comm, Option.bind_eq_none_iff]
        intro last hlast
        obtain ⟨before, after, rfl, hname, -⟩ := FieldSpec.last?_eq_some_iff.mp hlast
        exact (last.sort?_eq_none_iff table).mpr (hnone last (by simp) hname)
  refine ⟨filter?_ofSpecs table specs name, hiff, fun h => h.sortsByFilteredColumn, fun h => ?_⟩
  have hsome : (ofSpecs table specs).sort? name ≠ none := fun hnone =>
    h (hiff.mpr (.inr (sort?_ofSpecs_eq_none_iff.mp hnone)))
  obtain ⟨target, hsort⟩ := Option.ne_none_iff_exists'.mp hsome
  obtain ⟨before, spec, after, hspecs, hname, htarget, hlater⟩ := sort?_ofSpecs_eq_some_iff.mp hsort
  have hsortable : spec.IsSortable := by
    by_contra hno
    rw [(spec.sort?_eq_none_iff table).mpr hno] at htarget
    cases htarget
  exact ⟨before, spec, after, hspecs, hname, hsortable, hlater, hsort.trans htarget.symm⟩

/-- A name that is declared again, as a number that cannot be sorted by, is still sorted by the
column of its first declaration, although it is filtered by another one. -/
theorem not_sortsAsDeclared_again :
    let specs : List FieldSpec := [.aliased "name" "clients.full_name",
      .full { name := "name", filterer := some (.builtIn .number) }]
    ¬ SortsAsDeclared ⟨"clients"⟩ specs "name" ∧ ¬ SortsByFilteredColumn ⟨"clients"⟩ specs "name" := by
  intro specs
  have hsort : (ofSpecs ⟨"clients"⟩ specs).sort? "name" =
      some (.column (.parse "clients.full_name")) := rfl
  have hfilter : ((ofSpecs ⟨"clients"⟩ specs).filter? "name").map (·.column) =
      some (.parse "clients.name") := rfl
  constructor
  · intro h
    rw [SortsAsDeclared, hsort] at h
    cases h
  · intro h
    have hcolumn := h _ hsort
    rw [hfilter] at hcolumn
    exact absurd hcolumn (by decide +kernel)

end ResolvedFields
end RequestQuery
