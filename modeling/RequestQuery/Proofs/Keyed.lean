import Mathlib.Data.List.Nodup
import RequestQuery.Keyed

/-! # Entries laid over a list of named things

Entries that are put into a list one after the other take the places of what the
list has under their names.  What is found under a name afterwards is the last
entry of the name, or else what was there before (`get?_overlay`); the names keep
the order in which they came up first (`names_overlay`), and putting the same entries in
once more changes nothing (`overlay_append_self`).
-/
namespace RequestQuery
namespace Keyed

variable {α : Type}

/-! ## Looking up -/

/-- The last thing under a name. -/
def last? (entries : Keyed α) (name : String) : Option α :=
  get? entries.reverse name

theorem get?_append (items others : Keyed α) (name : String) :
    get? (items ++ others) name = (get? items name).or (get? others name) := by
  simp only [get?, List.find?_append]
  cases items.find? (·.1 == name) <;> rfl

theorem get?_singleton (key : String) (value : α) (name : String) :
    get? [(key, value)] name = if key = name then some value else none := by
  by_cases h : key = name <;> simp [get?, h]

theorem last?_cons (key : String) (value : α) (rest : Keyed α) (name : String) :
    last? ((key, value) :: rest) name =
      (last? rest name).or (if key = name then some value else none) := by
  rw [last?, List.reverse_cons, get?_append, get?_singleton, last?]

theorem get?_eq_none_iff {items : Keyed α} {name : String} :
    items.get? name = none ↔ name ∉ items.names := by
  rw [get?, Option.map_eq_none_iff, List.find?_eq_none, names, List.mem_map]
  constructor
  · rintro h ⟨entry, hentry, rfl⟩
    exact h entry hentry (beq_self_eq_true _)
  · intro h entry hentry heq
    exact h ⟨entry, hentry, eq_of_beq heq⟩

/-- What has a name can be looked up. -/
theorem exists_get?_iff {items : Keyed α} {name : String} :
    (∃ value, items.get? name = some value) ↔ name ∈ items.names := by
  rw [← Option.ne_none_iff_exists', Ne, get?_eq_none_iff, not_not]

theorem last?_eq_none_iff {entries : Keyed α} {name : String} :
    entries.last? name = none ↔ name ∉ entries.names := by
  rw [last?, get?_eq_none_iff, names, names, List.map_reverse, List.mem_reverse]

theorem exists_last?_iff {entries : Keyed α} {name : String} :
    (∃ value, entries.last? name = some value) ↔ name ∈ entries.names := by
  rw [← Option.ne_none_iff_exists', Ne, last?_eq_none_iff, not_not]

/-- Where names are unique, what stands under a name is found there. -/
theorem get?_of_mem {items : Keyed α} (hunique : items.names.Nodup) {name : String} {value : α}
    (h : (name, value) ∈ items) : items.get? name = some value := by
  induction items with
  | nil => cases h
  | cons item rest ih =>
    obtain ⟨other, kept⟩ := item
    obtain ⟨hnew, hrest⟩ := List.nodup_cons.mp hunique
    rcases List.mem_cons.mp h with heq | h
    · cases heq
      simp [get?]
    · have hother : other ≠ name := by
        rintro rfl
        exact hnew (List.mem_map.mpr ⟨_, h, rfl⟩)
      have := ih hrest h
      simpa [get?, hother] using this

theorem get?_eq_some_iff {items : Keyed α} (hunique : items.names.Nodup) {name : String} {value : α} :
    items.get? name = some value ↔ (name, value) ∈ items := by
  refine ⟨fun h => ?_, get?_of_mem hunique⟩
  obtain ⟨⟨key, kept⟩, hfound, rfl⟩ := Option.map_eq_some_iff.mp h
  have hkey : key = name := by simpa using List.find?_some hfound
  exact hkey ▸ List.mem_of_find?_eq_some hfound

/-- Where names are unique, the order of the list does not matter for what is found. -/
theorem get?_eq_of_perm {items others : Keyed α} (hunique : items.names.Nodup) (h : items.Perm others)
    (name : String) : items.get? name = others.get? name := by
  have hunique' : others.names.Nodup := (h.map Prod.fst).nodup_iff.mp hunique
  refine Option.ext fun value => ?_
  rw [get?_eq_some_iff hunique, get?_eq_some_iff hunique', h.mem_iff]

/-- Lists of unique names are the same if the names are and the same is found under each. -/
theorem ext_of_get? {items others : Keyed α} (hunique : items.names.Nodup)
    (hnames : items.names = others.names) (hget : ∀ name, items.get? name = others.get? name) :
    items = others := by
  have hfound (known : Keyed α) (hknown : known.names.Nodup) :
      known.names.filterMap (fun name => (known.get? name).map (name, ·)) = known := by
    rw [names, List.filterMap_map]
    calc known.filterMap ((fun name => (known.get? name).map (name, ·)) ∘ Prod.fst)
        = known.filterMap some := List.filterMap_congr fun entry hentry => by
          rw [Function.comp_apply, get?_of_mem hknown hentry, Option.map_some]
      _ = known := List.filterMap_some
  rw [← hfound items hunique, ← hfound others (hnames ▸ hunique), hnames]
  simp only [hget]

/-! ## Laying over -/

/-- Puts entries in one after the other. -/
def overlay (items entries : Keyed α) : Keyed α :=
  entries.foldl (fun known (name, value) => known.upsert name value) items

theorem overlay_cons (items : Keyed α) (key : String) (value : α) (rest : Keyed α) :
    items.overlay ((key, value) :: rest) = (items.upsert key value).overlay rest := rfl

theorem get?_upsert (items : Keyed α) (key : String) (value : α) (name : String) :
    (items.upsert key value).get? name = if key = name then some value else items.get? name := by
  by_cases h : key = name
  · rw [if_pos h, ← h, get?_upsert_self]
  · rw [if_neg h, get?_upsert_of_ne _ _ (Ne.symm h)]

/-- The last entry of a name is what stands under it. -/
theorem get?_overlay (items entries : Keyed α) (name : String) :
    (items.overlay entries).get? name = (entries.last? name).or (items.get? name) := by
  induction entries generalizing items with
  | nil => rfl
  | cons entry rest ih =>
    obtain ⟨key, value⟩ := entry
    rw [overlay_cons, ih, get?_upsert, last?_cons, Option.or_assoc]
    by_cases h : key = name
    · rw [if_pos h, if_pos h, Option.some_or]
    · rw [if_neg h, if_neg h, Option.none_or]

/-! ## The names and their order -/

theorem nodup_names_nil : (names ([] : Keyed α)).Nodup := List.nodup_nil

theorem names_upsert (items : Keyed α) (key : String) (value : α) :
    (items.upsert key value).names =
      if key ∈ items.names then items.names else items.names ++ [key] := by
  induction items with
  | nil => rfl
  | cons item rest ih =>
    obtain ⟨other, kept⟩ := item
    by_cases h : other = key
    · simp [upsert, names, h]
    · have hne : key ≠ other := Ne.symm h
      rw [upsert, if_neg h, names, List.map_cons, ← names, ih, names, names, List.map_cons]
      simp only [List.mem_cons, hne, false_or]
      split <;> rfl

theorem nodup_names_overlay {items : Keyed α} (hunique : items.names.Nodup) (entries : Keyed α) :
    (items.overlay entries).names.Nodup := by
  induction entries generalizing items with
  | nil => exact hunique
  | cons entry rest ih =>
    obtain ⟨key, value⟩ := entry
    refine ih ?_
    rw [names_upsert]
    split
    · exact hunique
    · next hnew =>
      refine List.nodup_append.mpr ⟨hunique, List.nodup_singleton key, ?_⟩
      rintro a ha b hb rfl
      rw [List.mem_singleton] at hb
      exact hnew (hb ▸ ha)

theorem eraseDups_of_nodup {names : List String} (h : names.Nodup) : names.eraseDups = names := by
  induction names with
  | nil => rfl
  | cons name rest ih =>
    obtain ⟨hnew, hrest⟩ := List.nodup_cons.mp h
    have hkept : rest.filter (fun other => !other == name) = rest := by
      refine List.filter_eq_self.mpr fun other hother => ?_
      have hne : other ≠ name := fun heq => hnew (heq ▸ hother)
      simpa using hne
    rw [List.eraseDups_cons, hkept, ih hrest]

/-- The names of the entries follow those that there are, in the order in which they come up. -/
theorem names_overlay {items : Keyed α} (hunique : items.names.Nodup) (entries : Keyed α) :
    (items.overlay entries).names = (items.names ++ entries.names).eraseDups := by
  induction entries generalizing items with
  | nil =>
    show items.names = (items.names ++ []).eraseDups
    rw [List.append_nil, eraseDups_of_nodup hunique]
  | cons entry rest ih =>
    obtain ⟨key, value⟩ := entry
    have hupsert : (items.upsert key value).names.Nodup := nodup_names_overlay hunique [(key, value)]
    rw [overlay_cons, ih hupsert, names_upsert]
    split
    · next hknown =>
      have hdropped : List.removeAll (key :: names rest) items.names =
          List.removeAll (names rest) items.names := by
        simp [List.removeAll, hknown]
      rw [List.eraseDups_append, List.eraseDups_append, ← hdropped]
      rfl
    · rw [List.append_assoc]
      rfl

/-! ## Entries that are there already -/

theorem names_overlay_of_subset {items entries : Keyed α} (h : ∀ name ∈ entries.names, name ∈ items.names) :
    (items.overlay entries).names = items.names := by
  induction entries generalizing items with
  | nil => rfl
  | cons entry rest ih =>
    obtain ⟨key, value⟩ := entry
    obtain ⟨hkey, hrest⟩ := List.forall_mem_cons.mp h
    have hupsert : (items.upsert key value).names = items.names := by rw [names_upsert, if_pos hkey]
    rw [overlay_cons, ih (hupsert ▸ hrest), hupsert]

theorem overlay_append (items entries more : Keyed α) :
    items.overlay (entries ++ more) = (items.overlay entries).overlay more :=
  List.foldl_append

/-- Entries that are put in once more change nothing. -/
theorem overlay_append_self {items : Keyed α} (hunique : items.names.Nodup) (entries : Keyed α) :
    items.overlay (entries ++ entries) = items.overlay entries := by
  have hknown : ∀ name ∈ entries.names, name ∈ (items.overlay entries).names := by
    intro name hname
    rw [names_overlay hunique, List.mem_eraseDups]
    exact List.mem_append_right _ hname
  rw [overlay_append]
  refine ext_of_get? (nodup_names_overlay (nodup_names_overlay hunique _) _)
    (names_overlay_of_subset hknown) fun name => ?_
  rw [get?_overlay, get?_overlay, ← Option.or_assoc, Option.or_self]

end Keyed
end RequestQuery
