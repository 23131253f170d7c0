import RequestQuery.Proofs.Definition.Addons
import RequestQuery.Proofs.Text.Trim

/-! # Selecting all addons

Selecting an addon by its name, and selecting it together with all others, are resolved
in different ways: by looking the name up, or by going through whatever there is.  Both
depend only on which names are selected in which order (`resolve_of_selectedNames_eq`).
A star selects the names of all addons, and so does the text in which they are spelled
out, if they can be read from such a text at all (`selectedNames_spelledOut`).  So both
resolve alike (`resolve_star`).
-/
namespace RequestQuery

namespace AddonSelection

/-! ## Reading names -/

/-- The selection of some names. -/
def ofNames : List String → AddonSelection
  | [] => none
  | names => named names

theorem read_eq (text : String) :
    read text = if Text.trim text = "*" then all
      else ofNames (((Text.splitAt "," text).map Text.trim).filter (!·.isEmpty)) := by
  rw [← Text.map_trim_splitAt_trim (by decide) rfl]
  rfl

theorem read_star : read "*" = all := by decide

/-- A name that can be read from a text with commas between names. -/
structure IsLegible (name : String) : Prop where
  ne_empty : name ≠ ""
  not_mem : ',' ∉ name.toList
  trimmed : Text.trim name = name

variable {words names : List String} (hnames : ∀ name ∈ names, IsLegible name)
  (hwords : List.Forall₂ Text.IsPadded words names)
include hnames hwords

/-- The names are found again in the text in which they are spelled out, but for blanks around it. -/
theorem map_trim_splitAt_intercalate (hne : words ≠ []) :
    (Text.splitAt "," (",".intercalate words)).map Text.trim = names := by
  have hapart : ∀ word ∈ words, Text.Apart word "," :=
    Text.apart_of_padded hwords rfl (by decide) fun name hname => (hnames name hname).not_mem
  have htrimmed : names.map Text.trim = names :=
    (List.map_congr_left fun name hname => (hnames name hname).trimmed).trans (List.map_id' names)
  rw [Text.splitAt_intercalate (by decide) hne hapart, Text.map_trim_of_padded hwords, htrimmed]

/-- The text in which names are spelled out selects these names.  A single star is everything. -/
theorem read_intercalate :
    read (",".intercalate words) = all ∨ read (",".intercalate words) = ofNames names := by
  by_cases hne : words = []
  · subst hne
    cases hwords
    exact .inr (by decide +kernel)
  · have hfilter : names.filter (!·.isEmpty) = names := by
      refine List.filter_eq_self.mpr fun name hname => ?_
      simpa [String.isEmpty_iff] using (hnames name hname).ne_empty
    rw [read_eq, map_trim_splitAt_intercalate hnames hwords hne, hfilter]
    split
    · exact .inl rfl
    · exact .inr rfl

end AddonSelection

/-- The addons of every entity that are offered. -/
theorem Settings.mem_offeredNames {s : Settings} {name : String} :
    name ∈ s.offeredNames ↔
      (∃ a, (name, a) ∈ s.definitions.addons ∧ a.IsOffered) ∨ s.definitions.addons = [] ∧ name = "dates" := by
  rw [offeredNames]
  cases haddons : s.definitions.addons with
  | nil => simp
  | cons first rest =>
    simp [Keyed.names]

namespace QueryDefinition

variable {d : QueryDefinition} {table : TableRef} {s : Settings}

theorem selectedNames_ofNames (names : List String) : d.selectedNames s (.ofNames names) = names := by
  cases names <;> rfl

/-- The addons that a star selects are those that there are. -/
theorem mem_selectedNames_all {name : String} : name ∈ d.selectedNames s .all ↔ d.IsAvailable s name := by
  rw [selectedNames, List.mem_eraseDups, List.mem_append, or_comm, Settings.mem_offeredNames]
  rfl

/-- What is resolved depends only on the names that are selected, and on their order. -/
theorem resolve_of_selectedNames_eq (hunique : s.definitions.addons.names.Nodup)
    {selection selection' : AddonSelection}
    (h : d.selectedNames s selection = d.selectedNames s selection') :
    d.resolve table selection s = d.resolve table selection' s := by
  by_cases hbroken : s.HasBrokenAddon
  · obtain ⟨filterer, herror⟩ := Settings.addons_of_hasBrokenAddon hbroken
    rw [resolve, resolve, available, herror]
    rfl
  · rcases isAvailable_or_missing (d := d) (s := s) (d.selectedNames s selection) with
      hall | ⟨before, name, after, hsplit, hbefore, hname⟩
    · obtain ⟨groups, hgroups⟩ := exists_groups hbroken hall
      rw [resolve_of_forall₂ hunique hbroken hgroups, resolve_of_forall₂ hunique hbroken (h ▸ hgroups)]
    · rw [resolve_of_missing hunique hbroken hsplit hbefore hname,
        resolve_of_missing hunique hbroken (h ▸ hsplit) hbefore hname]

/-- What is spelled out selects the same names as a star. -/
theorem selectedNames_spelledOut (hnames : ∀ name, d.IsAvailable s name → AddonSelection.IsLegible name)
    {words : List String} (hwords : List.Forall₂ Text.IsPadded words (d.selectedNames s .all)) :
    d.selectedNames s (.read (",".intercalate words)) = d.selectedNames s (.read "*") := by
  have hlegible : ∀ name ∈ d.selectedNames s .all, AddonSelection.IsLegible name :=
    fun name hname => hnames name (mem_selectedNames_all.mp hname)
  rw [AddonSelection.read_star]
  rcases AddonSelection.read_intercalate hlegible hwords with hall | hread
  · rw [hall]
  · rw [hread, selectedNames_ofNames]

/-- **A star is all names spelled out.**  Where the name of every addon that there is can be read from a
text with commas between names, a star and the text in which these names are spelled out, in the order
in which a star selects them and with any blanks around them, resolve alike. -/
theorem resolve_star (d : QueryDefinition) (table : TableRef) (s : Settings)
    (hunique : s.definitions.addons.names.Nodup)
    (hnames : ∀ name, d.IsAvailable s name → AddonSelection.IsLegible name) {words : List String}
    (hwords : List.Forall₂ Text.IsPadded words (d.selectedNames s .all)) :
    d.resolve table (.read "*") s = d.resolve table (.read (",".intercalate words)) s :=
  resolve_of_selectedNames_eq hunique (selectedNames_spelledOut hnames hwords).symm

/-- A configured addon that the entity declares again, one that is not offered, and a new one with a star
in its name; blanks of several kinds stand around the names. -/
theorem resolve_star_overridden :
    let d : QueryDefinition :=
      { fields := [.bare "name"]
        addons := [("*two", [.bare "rank"]), ("audit", [.aliased "name" "audits.name"])] }
    let s : Settings := { definitions := { addons :=
      [("audit", { fields := ["checked_at"] }), ("off", { enabled := false, fields := ["x"] })] } }
    s.definitions.addons.names.Nodup ∧
      (∀ name, d.IsAvailable s name → AddonSelection.IsLegible name) ∧
      List.Forall₂ Text.IsPadded ["\taudit", " *two \n"] (d.selectedNames s .all) ∧
      d.resolve ⟨"t"⟩ (.read "*") s = d.resolve ⟨"t"⟩ (.read "\taudit, *two \n") s ∧
      (d.resolve ⟨"t"⟩ (.read "*") s).toOption.map
          (fun r => r.filters.map fun (name, filter) => (name, filter.column.display)) =
        some [("name", "audits.name"), ("rank", "t.rank")] := by
  intro d s
  have hunique : s.definitions.addons.names.Nodup := by decide
  have hselected : d.selectedNames s .all = ["audit", "*two"] := by decide +kernel
  have hnames : ∀ name, d.IsAvailable s name → AddonSelection.IsLegible name := by
    intro name hname
    rw [← mem_selectedNames_all, hselected] at hname
    rcases List.mem_cons.mp hname with rfl | hname
    · exact ⟨by decide, by decide, by decide⟩
    · rw [List.mem_singleton.mp hname]
      exact ⟨by decide, by decide, by decide⟩
  have hwords : List.Forall₂ Text.IsPadded ["\taudit", " *two \n"] (d.selectedNames s .all) := by
    rw [hselected]
    exact .cons ⟨"\t", "", by decide, by decide, by decide⟩
      (.cons ⟨" ", " \n", by decide, by decide, by decide⟩ .nil)
  have htext : ",".intercalate ["\taudit", " *two \n"] = "\taudit, *two \n" := by decide
  have hstar := resolve_star d ⟨"t"⟩ s hunique hnames hwords
  rw [htext] at hstar
  exact ⟨hunique, hnames, hwords, hstar, by decide +kernel⟩

end QueryDefinition
end RequestQuery
