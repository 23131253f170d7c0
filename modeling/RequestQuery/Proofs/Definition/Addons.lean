import Mathlib.Data.List.Forall2
import RequestQuery.Definition.Resolve
import RequestQuery.Proofs.Keyed

/-! # Which addons a definition resolves with

The fields of an addon come from the entity, from the settings, or are built in;
which of them counts is a relation of its own here (`QueryDefinition.HasAddon`).
Resolving adds the fields of the selected addons in their order, and those of no
other, or it says what is wrong: a configured addon with a filterer that does not
exist comes first, even if nobody selects it, and then the first selected name
that there is no addon of (`resolve_selected`).
-/
namespace RequestQuery

theorem Filterer.eq_of_named_eq_error {name : String} {e : QueryError}
    (h : Filterer.named name = .error e) : e = .unknownFilterer name := by
  unfold Filterer.named at h
  split at h
  · cases h
  · cases h
    rfl

/-! ## One configured addon -/

namespace AddonSettings

/-- The names of the fields of a configured addon. -/
def fieldNames (a : AddonSettings) : List String :=
  a.fields.filter (!·.isEmpty)

/-- The fields of a configured addon, once its filterer is known. -/
def specsWith (a : AddonSettings) (filterer : Filterer) : List FieldSpec :=
  a.fieldNames.map fun name =>
    .full { name, filterer := some filterer, sortable := some a.sortable }

/-- Whether a configured addon is enabled and has a filterer that does not exist. -/
def IsBroken (a : AddonSettings) : Prop :=
  a.enabled = true ∧ ∀ filterer, Filterer.named a.filterer ≠ .ok filterer

/-- Whether a configured addon is enabled and names a field. -/
def IsOffered (a : AddonSettings) : Prop :=
  a.enabled = true ∧ ∃ field ∈ a.fields, field ≠ ""

instance (a : AddonSettings) : Decidable a.IsOffered :=
  inferInstanceAs (Decidable (_ ∧ _))

/-- The fields that a configured addon offers. -/
def Offers (a : AddonSettings) (specs : List FieldSpec) : Prop :=
  a.IsOffered ∧ ∃ filterer, Filterer.named a.filterer = .ok filterer ∧ specs = a.specsWith filterer

variable {a : AddonSettings}

theorem fieldNames_ne_nil_iff : a.fieldNames ≠ [] ↔ ∃ field ∈ a.fields, field ≠ "" := by
  simp [fieldNames, List.filter_eq_nil_iff]

theorem Offers.eq {specs specs' : List FieldSpec} (h : a.Offers specs) (h' : a.Offers specs') :
    specs = specs' := by
  obtain ⟨-, filterer, hfilterer, rfl⟩ := h
  obtain ⟨-, filterer', hfilterer', rfl⟩ := h'
  rw [hfilterer] at hfilterer'
  cases hfilterer'
  rfl

theorem IsBroken.specs? (h : a.IsBroken) : a.specs? = .error (.unknownFilterer a.filterer) := by
  obtain ⟨henabled, hnone⟩ := h
  cases hfilterer : Filterer.named a.filterer with
  | ok filterer => exact absurd hfilterer (hnone filterer)
  | error e =>
    rw [AddonSettings.specs?, henabled, hfilterer, Filterer.eq_of_named_eq_error hfilterer]
    rfl

/-- A configured addon that is not broken has a filterer, if it is enabled. -/
theorem exists_filterer (h : ¬ a.IsBroken) (henabled : a.enabled = true) :
    ∃ filterer, Filterer.named a.filterer = .ok filterer := by
  by_contra hnone
  exact h ⟨henabled, fun filterer hfilterer => hnone ⟨filterer, hfilterer⟩⟩

/-- A configured addon that is not broken has the fields that it offers, if it offers any. -/
theorem specs?_of_not_isBroken (h : ¬ a.IsBroken) :
    ∃ offer, a.specs? = .ok offer ∧ (offer.isSome = true ↔ a.IsOffered) ∧
      ∀ specs, offer = some specs ↔ a.Offers specs := by
  by_cases henabled : a.enabled = true
  · obtain ⟨filterer, hfilterer⟩ := exists_filterer h henabled
    have hspecs : a.specs? =
        .ok (if a.fieldNames.isEmpty then none else some (a.specsWith filterer)) := by
      rw [AddonSettings.specs?, henabled, hfilterer]
      show (if a.fieldNames.isEmpty then Except.ok none else .ok (some (a.specsWith filterer))) = _
      split <;> rfl
    refine ⟨_, hspecs, ?_⟩
    by_cases hnames : a.fieldNames = []
    · have hno : ¬ a.IsOffered := fun hoffered => fieldNames_ne_nil_iff.mpr hoffered.2 hnames
      simp [hnames, Offers, hno]
    · have hoffered : a.IsOffered := ⟨henabled, fieldNames_ne_nil_iff.mp hnames⟩
      rw [if_neg (by simpa using hnames)]
      refine ⟨by simp [hoffered], fun specs => ?_⟩
      rw [Option.some.injEq]
      constructor
      · rintro rfl
        exact ⟨hoffered, filterer, hfilterer, rfl⟩
      · intro hoffers
        exact Offers.eq ⟨hoffered, filterer, hfilterer, rfl⟩ hoffers
  · have hno : ¬ a.IsOffered := fun hoffered => henabled hoffered.1
    refine ⟨none, ?_, by simp [hno], by simp [Offers, hno]⟩
    rw [AddonSettings.specs?, if_pos (by simpa using henabled)]

end AddonSettings

/-! ## All configured addons -/

section
variable {addons : Keyed AddonSettings}

theorem configuredAddons_of_isBroken (h : ∃ entry ∈ addons, entry.2.IsBroken) :
    ∃ filterer, configuredAddons addons = .error (.unknownFilterer filterer) := by
  induction addons with
  | nil =>
    obtain ⟨entry, hentry, -⟩ := h
    cases hentry
  | cons first rest ih =>
    obtain ⟨name, a⟩ := first
    by_cases hbroken : a.IsBroken
    · exact ⟨a.filterer, by rw [configuredAddons, hbroken.specs?]; rfl⟩
    · obtain ⟨entry, hentry, hentryBroken⟩ := h
      have hrest : entry ∈ rest := by
        rcases List.mem_cons.mp hentry with rfl | hrest
        · exact absurd hentryBroken hbroken
        · exact hrest
      obtain ⟨offer, hoffer, -⟩ := AddonSettings.specs?_of_not_isBroken hbroken
      obtain ⟨filterer, herror⟩ := ih ⟨entry, hrest, hentryBroken⟩
      exact ⟨filterer, by rw [configuredAddons, hoffer, herror]; rfl⟩

theorem configuredAddons_of_not_isBroken (h : ∀ entry ∈ addons, ¬ entry.2.IsBroken) :
    ∃ known, configuredAddons addons = .ok known ∧
      known.names = Keyed.names (addons.filter (·.2.IsOffered)) ∧
      ∀ name specs, (name, specs) ∈ known ↔ ∃ a, (name, a) ∈ addons ∧ a.Offers specs := by
  induction addons with
  | nil => exact ⟨[], rfl, rfl, by simp⟩
  | cons first rest ih =>
    obtain ⟨key, a⟩ := first
    obtain ⟨hfirst, hrest⟩ := List.forall_mem_cons.mp h
    obtain ⟨offer, hoffer, hsome, hspecs⟩ := AddonSettings.specs?_of_not_isBroken hfirst
    obtain ⟨known, hknown, hnames, hmem⟩ := ih hrest
    cases offer with
    | none =>
      have hno : ¬ a.IsOffered := by simpa using hsome
      refine ⟨known, by rw [configuredAddons, hoffer, hknown]; rfl, ?_, fun name specs => ?_⟩
      · rw [hnames, List.filter_cons_of_neg (by simpa using hno)]
      · rw [hmem]
        simp [← hspecs, or_and_right, exists_or]
    | some specs =>
      have hyes : a.IsOffered := by simpa using hsome
      refine ⟨(key, specs) :: known, by rw [configuredAddons, hoffer, hknown]; rfl, ?_,
        fun name specs => ?_⟩
      · rw [List.filter_cons_of_pos (by simpa using hyes), Keyed.names, List.map_cons, ← Keyed.names,
          hnames]
        rfl
      · rw [List.mem_cons, hmem]
        simp [or_and_right, exists_or, ← hspecs, eq_comm]

end

/-! ## The addons of every entity -/

namespace Settings

/-- Whether a configured addon has a filterer that does not exist. -/
def HasBrokenAddon (s : Settings) : Prop :=
  ∃ entry ∈ s.definitions.addons, entry.2.IsBroken

/-- The names of the addons of every entity: those that are configured and offered in their order, or
the built-in one if none is configured at all. -/
def offeredNames (s : Settings) : List String :=
  if s.definitions.addons.isEmpty then ["dates"]
  else Keyed.names (s.definitions.addons.filter (·.2.IsOffered))

/-- The fields of an addon of every entity. -/
def Offers (s : Settings) (name : String) (specs : List FieldSpec) : Prop :=
  (∃ a, (name, a) ∈ s.definitions.addons ∧ a.Offers specs) ∨
    s.definitions.addons = [] ∧ name = "dates" ∧ specs = builtInAddon.2

variable {s : Settings}

theorem addons_of_hasBrokenAddon (h : s.HasBrokenAddon) :
    ∃ filterer, s.addons = .error (.unknownFilterer filterer) := by
  have hne : s.definitions.addons.isEmpty = false := by
    obtain ⟨entry, hentry, -⟩ := h
    rw [List.isEmpty_eq_false_iff]
    exact List.ne_nil_of_mem hentry
  obtain ⟨filterer, herror⟩ := configuredAddons_of_isBroken h
  exact ⟨filterer, by rw [addons, hne]; exact herror⟩

theorem addons_of_not_hasBrokenAddon (h : ¬ s.HasBrokenAddon) :
    ∃ known, s.addons = .ok known ∧ known.names = s.offeredNames ∧
      ∀ name specs, (name, specs) ∈ known ↔ s.Offers name specs := by
  cases hconfigured : s.definitions.addons with
  | nil =>
    refine ⟨[builtInAddon], by simp [addons, hconfigured], by simp [offeredNames, hconfigured]; rfl,
      fun name specs => ?_⟩
    simp [Offers, hconfigured, builtInAddon]
  | cons first rest =>
    have hnone : ∀ entry ∈ s.definitions.addons, ¬ entry.2.IsBroken := fun entry hentry hbroken =>
      h ⟨entry, hentry, hbroken⟩
    obtain ⟨known, hknown, hnames, hmem⟩ := configuredAddons_of_not_isBroken hnone
    refine ⟨known, ?_, ?_, fun name specs => ?_⟩
    · rw [addons, if_neg (by simp [hconfigured])]
      exact hknown
    · rw [offeredNames, hnames, hconfigured]
      rfl
    · simp [hmem, Offers, hconfigured]

theorem Offers.eq (hunique : s.definitions.addons.names.Nodup) {name : String}
    {specs specs' : List FieldSpec} (h : s.Offers name specs) (h' : s.Offers name specs') :
    specs = specs' := by
  rcases h with ⟨a, ha, hoffers⟩ | ⟨hnone, -, hspecs⟩ <;>
    rcases h' with ⟨a', ha', hoffers'⟩ | ⟨hnone', -, hspecs'⟩
  · have := (Keyed.get?_of_mem hunique ha).symm.trans (Keyed.get?_of_mem hunique ha')
    cases this
    exact hoffers.eq hoffers'
  · rw [hnone'] at ha
    cases ha
  · rw [hnone] at ha'
    cases ha'
  · rw [hspecs, hspecs']

theorem nodup_offeredNames (hunique : s.definitions.addons.names.Nodup) : s.offeredNames.Nodup := by
  rw [offeredNames]
  split
  · exact List.nodup_singleton _
  · exact hunique.sublist (List.filter_sublist.map _)

end Settings

namespace QueryDefinition

/-! ## The addons of one entity -/

section
variable (d : QueryDefinition) (s : Settings)

/-- The fields of an addon: those that the entity declares last under the name, or else those that
every entity has. -/
def HasAddon (name : String) (specs : List FieldSpec) : Prop :=
  d.addons.last? name = some specs ∨ name ∉ d.addons.names ∧ s.Offers name specs

/-- Whether there is an addon of a name: the entity declares it, or it is configured, enabled and has
a field with a name, or it is the built-in one and none is configured at all. -/
def IsAvailable (name : String) : Prop :=
  name ∈ d.addons.names ∨
    (∃ a, (name, a) ∈ s.definitions.addons ∧ a.enabled = true ∧ ∃ field ∈ a.fields, field ≠ "") ∨
    s.definitions.addons = [] ∧ name = "dates"

/-- The names of the selected addons in their order.  Where all are selected, those of every entity
come first. -/
def selectedNames : AddonSelection → List String
  | .none => []
  | .all => (s.offeredNames ++ d.addons.names).eraseDups
  | .named names => names

end

variable {d : QueryDefinition} {s : Settings}

theorem HasAddon.eq (hunique : s.definitions.addons.names.Nodup) {name : String}
    {specs specs' : List FieldSpec} (h : d.HasAddon s name specs) (h' : d.HasAddon s name specs') :
    specs = specs' := by
  rcases h with h | ⟨hnot, h⟩ <;> rcases h' with h' | ⟨hnot', h'⟩
  · exact Option.some.inj (h.symm.trans h')
  · rw [Keyed.last?_eq_none_iff.mpr hnot'] at h
    cases h
  · rw [Keyed.last?_eq_none_iff.mpr hnot] at h'
    cases h'
  · exact h.eq hunique h'

theorem isAvailable_iff (h : ¬ s.HasBrokenAddon) (name : String) :
    d.IsAvailable s name ↔ ∃ specs, d.HasAddon s name specs := by
  by_cases hdeclared : name ∈ d.addons.names
  · obtain ⟨specs, hspecs⟩ := Keyed.exists_last?_iff.mpr hdeclared
    exact iff_of_true (.inl hdeclared) ⟨specs, .inl hspecs⟩
  · have hlast : d.addons.last? name = none := Keyed.last?_eq_none_iff.mpr hdeclared
    simp only [IsAvailable, HasAddon, hlast, hdeclared, false_or, not_false_eq_true, true_and,
      reduceCtorEq]
    constructor
    · rintro (⟨a, ha, hoffered⟩ | ⟨hnone, rfl⟩)
      · obtain ⟨filterer, hfilterer⟩ :=
          AddonSettings.exists_filterer (fun hbroken => h ⟨_, ha, hbroken⟩) hoffered.1
        exact ⟨_, .inl ⟨a, ha, hoffered, filterer, hfilterer, rfl⟩⟩
      · exact ⟨_, .inr ⟨hnone, rfl, rfl⟩⟩
    · rintro ⟨specs, ⟨a, ha, hoffers⟩ | ⟨hnone, hname, -⟩⟩
      · exact .inl ⟨a, ha, hoffers.1⟩
      · exact .inr ⟨hnone, hname⟩

/-- The addons that can be selected, all of them and each once. -/
theorem available_of_not_hasBrokenAddon (hunique : s.definitions.addons.names.Nodup)
    (h : ¬ s.HasBrokenAddon) :
    ∃ known, d.available s = .ok known ∧ known.names = d.selectedNames s .all ∧ known.names.Nodup ∧
      ∀ name specs, known.get? name = some specs ↔ d.HasAddon s name specs := by
  obtain ⟨known, hknown, hnames, hmem⟩ := Settings.addons_of_not_hasBrokenAddon h
  have hnodup : known.names.Nodup := hnames ▸ Settings.nodup_offeredNames hunique
  refine ⟨known.overlay d.addons, by rw [available, hknown]; rfl, ?_,
    Keyed.nodup_names_overlay hnodup _, fun name specs => ?_⟩
  · rw [Keyed.names_overlay hnodup, hnames]
    rfl
  · rw [Keyed.get?_overlay, Option.or_eq_some_iff, HasAddon, ← hmem, ← Keyed.last?_eq_none_iff,
      Keyed.get?_eq_some_iff hnodup]

/-! ## The selected addons -/

section
variable {known : Keyed (List FieldSpec)} {names : List String} {groups : List (List FieldSpec)}

/-- The fields of an addon that is selected by its name. -/
def lookup (known : Keyed (List FieldSpec)) (name : String) : Except QueryError (List FieldSpec) :=
  match known.get? name with
  | some specs => .ok specs
  | none => .error (.unknownAddon name)

theorem selected_named (known : Keyed (List FieldSpec)) (names : List String) :
    selected known (.named names) = (names.mapM (lookup known)).bind fun groups => .ok groups.flatten :=
  rfl

theorem mapM_lookup_of_forall₂
    (h : List.Forall₂ (fun name specs => known.get? name = some specs) names groups) :
    names.mapM (lookup known) = .ok groups := by
  induction h with
  | nil => rfl
  | cons hfirst _ ih =>
    rw [List.mapM_cons, lookup, hfirst, ih]
    rfl

/-- The first name that there is no addon of is the one that the error names. -/
theorem mapM_lookup_of_missing {before after : List String} {name : String}
    (hbefore : ∀ n ∈ before, known.get? n ≠ none) (hname : known.get? name = none) :
    (before ++ name :: after).mapM (lookup known) = .error (.unknownAddon name) := by
  induction before with
  | nil =>
    rw [List.nil_append, List.mapM_cons, lookup, hname]
    rfl
  | cons first before ih =>
    obtain ⟨hfirst, hrest⟩ := List.forall_mem_cons.mp hbefore
    obtain ⟨specs, hspecs⟩ := Option.ne_none_iff_exists'.mp hfirst
    rw [List.cons_append, List.mapM_cons, lookup, hspecs, ih hrest]
    rfl

/-- Where names are unique, every thing is found under its name. -/
theorem forall₂_get?_names (hunique : known.names.Nodup) :
    List.Forall₂ (fun name specs => known.get? name = some specs) known.names (known.map Prod.snd) := by
  rw [Keyed.names, List.forall₂_map_left_iff, List.forall₂_map_right_iff, List.forall₂_same]
  rintro ⟨name, specs⟩ hmem
  exact Keyed.get?_of_mem hunique hmem

end

/-! ## Resolving -/

section
variable {table : TableRef} {selection : AddonSelection}

/-- Where there is an addon of every selected name, their fields are added in the order of the names. -/
theorem resolve_of_forall₂ (hunique : s.definitions.addons.names.Nodup) (h : ¬ s.HasBrokenAddon)
    {groups : List (List FieldSpec)}
    (hgroups : List.Forall₂ (d.HasAddon s) (d.selectedNames s selection) groups) :
    d.resolve table selection s = .ok (.ofSpecs table (d.fields ++ groups.flatten)) := by
  obtain ⟨known, hknown, hnames, hnodup, hget⟩ := available_of_not_hasBrokenAddon (d := d) hunique h
  replace hgroups := hgroups.imp fun name specs => (hget name specs).mpr
  have hselected : selected known selection = .ok groups.flatten := by
    cases selection with
    | none =>
      cases hgroups
      rfl
    | named names =>
      have hfound := mapM_lookup_of_forall₂ hgroups
      rw [selectedNames] at hfound
      rw [selected_named, hfound]
      rfl
    | all =>
      rw [← hnames] at hgroups
      have hall := mapM_lookup_of_forall₂ (forall₂_get?_names hnodup)
      rw [mapM_lookup_of_forall₂ hgroups] at hall
      cases hall
      rw [selected, List.flatMap_def]
  rw [resolve, hknown]
  show (selected known selection).bind _ = _
  rw [hselected]
  rfl

/-- The first selected name that there is no addon of is an error of its own. -/
theorem resolve_of_missing (hunique : s.definitions.addons.names.Nodup) (h : ¬ s.HasBrokenAddon)
    {before after : List String} {name : String}
    (hsplit : d.selectedNames s selection = before ++ name :: after)
    (hbefore : ∀ n ∈ before, d.IsAvailable s n) (hname : ¬ d.IsAvailable s name) :
    d.resolve table selection s = .error (.unknownAddon name) := by
  obtain ⟨known, hknown, hnames, hnodup, hget⟩ := available_of_not_hasBrokenAddon (d := d) hunique h
  have hfound (n : String) : d.IsAvailable s n ↔ known.get? n ≠ none := by
    rw [isAvailable_iff h, Option.ne_none_iff_exists']
    simp only [hget]
  simp only [hfound, not_not] at hbefore hname
  cases selection with
  | none => simp [selectedNames] at hsplit
  | named names =>
    rw [selectedNames] at hsplit
    rw [resolve, hknown, hsplit]
    show (selected known _).bind _ = _
    rw [selected_named, mapM_lookup_of_missing hbefore hname]
    rfl
  | all =>
    -- All addons that there are can be selected, so none is missing.
    have hmem : name ∈ known.names := by
      rw [hnames, hsplit]
      simp
    exact absurd hmem (Keyed.get?_eq_none_iff.mp hname)

theorem resolve_of_hasBrokenAddon (h : s.HasBrokenAddon) :
    ∃ filterer, d.resolve table selection s = .error (.unknownFilterer filterer) := by
  obtain ⟨filterer, herror⟩ := Settings.addons_of_hasBrokenAddon h
  exact ⟨filterer, by rw [resolve, available, herror]; rfl⟩

/-- All addons together can be resolved unless a configured one is broken. -/
theorem exists_resolve_all (h : ¬ s.HasBrokenAddon) :
    ∃ fields, d.resolve table .all s = .ok fields := by
  obtain ⟨known, hknown, -⟩ := Settings.addons_of_not_hasBrokenAddon h
  exact ⟨_, by rw [resolve, available, hknown]; rfl⟩

/-- Either there is an addon of every name, or there is a first name that there is none of. -/
theorem isAvailable_or_missing (names : List String) :
    (∀ name ∈ names, d.IsAvailable s name) ∨
      ∃ before name after, names = before ++ name :: after ∧
        (∀ n ∈ before, d.IsAvailable s n) ∧ ¬ d.IsAvailable s name := by
  induction names with
  | nil => exact .inl (List.forall_mem_nil _)
  | cons first rest ih =>
    by_cases hfirst : d.IsAvailable s first
    · rcases ih with hall | ⟨before, name, after, rfl, hbefore, hname⟩
      · exact .inl (List.forall_mem_cons.mpr ⟨hfirst, hall⟩)
      · exact .inr ⟨first :: before, name, after, rfl, List.forall_mem_cons.mpr ⟨hfirst, hbefore⟩, hname⟩
    · exact .inr ⟨[], first, rest, rfl, List.forall_mem_nil _, hfirst⟩

theorem exists_groups (h : ¬ s.HasBrokenAddon) {names : List String}
    (hall : ∀ name ∈ names, d.IsAvailable s name) :
    ∃ groups, List.Forall₂ (d.HasAddon s) names groups := by
  induction names with
  | nil => exact ⟨[], .nil⟩
  | cons first rest ih =>
    obtain ⟨hfirst, hrest⟩ := List.forall_mem_cons.mp hall
    obtain ⟨specs, hspecs⟩ := (isAvailable_iff h first).mp hfirst
    obtain ⟨groups, hgroups⟩ := ih hrest
    exact ⟨specs :: groups, .cons hspecs hgroups⟩

/-- What is not selected has no influence: definitions and settings under which the same names are
selected and have the same fields resolve alike. -/
theorem resolve_congr (hunique : s.definitions.addons.names.Nodup) (h : ¬ s.HasBrokenAddon)
    {d' : QueryDefinition} {s' : Settings} (hunique' : s'.definitions.addons.names.Nodup)
    (h' : ¬ s'.HasBrokenAddon) (hfields : d'.fields = d.fields)
    (hnames : d'.selectedNames s' selection = d.selectedNames s selection)
    (hsame : ∀ name ∈ d.selectedNames s selection, ∀ specs,
      d'.HasAddon s' name specs ↔ d.HasAddon s name specs) :
    d'.resolve table selection s' = d.resolve table selection s := by
  have havailable : ∀ name ∈ d.selectedNames s selection,
      (d'.IsAvailable s' name ↔ d.IsAvailable s name) := by
    intro name hname
    rw [isAvailable_iff h', isAvailable_iff h]
    simp only [hsame name hname]
  rcases isAvailable_or_missing (d := d) (s := s) (d.selectedNames s selection) with
    hall | ⟨before, name, after, hsplit, hbefore, hname⟩
  · obtain ⟨groups, hgroups⟩ := exists_groups h hall
    have hgroups' : List.Forall₂ (d'.HasAddon s') (d'.selectedNames s' selection) groups := by
      rw [hnames]
      refine List.forall₂_iff_zip.mpr ⟨hgroups.length_eq, fun {name specs} hpair => ?_⟩
      have hname := (List.of_mem_zip hpair).1
      exact (hsame name hname specs).mpr ((List.forall₂_iff_zip.mp hgroups).2 hpair)
    rw [resolve_of_forall₂ hunique' h' hgroups', resolve_of_forall₂ hunique h hgroups, hfields]
  · have hmem : ∀ n, n ∈ before ∨ n = name → n ∈ d.selectedNames s selection := by
      rintro n (hn | rfl)
      · simp [hsplit, hn]
      · simp [hsplit]
    rw [resolve_of_missing hunique h hsplit hbefore hname]
    refine resolve_of_missing hunique' h' (hnames.trans hsplit) (fun n hn => ?_) ?_
    · exact (havailable n (hmem n (.inl hn))).mpr (hbefore n hn)
    · exact mt (havailable name (hmem name (.inr rfl))).mp hname

end

/-- **What a definition resolves with.**  Resolving fails with a mistake of the configuration exactly
if a configured addon is broken, whatever is selected.  Otherwise it fails with a wrong argument, the
first selected name that there is no addon of; or it gives the fields of the entity and behind them
those of the selected addons in their order.  All addons are those that there are, each once.  An
addon that is not selected has no influence. -/
theorem resolve_selected (d : QueryDefinition) (table : TableRef) (selection : AddonSelection)
    (s : Settings) (hunique : s.definitions.addons.names.Nodup) :
    ((∃ e, d.resolve table selection s = .error e ∧ e.kind = .config) ↔ s.HasBrokenAddon) ∧
    (¬ s.HasBrokenAddon →
      (∀ name, d.IsAvailable s name ↔ ∃! specs, d.HasAddon s name specs) ∧
      (∀ before name after, d.selectedNames s selection = before ++ name :: after →
        (∀ n ∈ before, d.IsAvailable s n) → ¬ d.IsAvailable s name →
        ∃ e, d.resolve table selection s = .error e ∧ e.kind = .invalidArgument ∧
          e.message = "Unknown addon [" ++ name ++ "].") ∧
      ((∀ name ∈ d.selectedNames s selection, d.IsAvailable s name) →
        ∃ groups, List.Forall₂ (d.HasAddon s) (d.selectedNames s selection) groups ∧
          d.resolve table selection s = .ok (.ofSpecs table (d.fields ++ groups.flatten))) ∧
      ((d.selectedNames s .all).Nodup ∧
        ∀ name, name ∈ d.selectedNames s .all ↔ d.IsAvailable s name) ∧
      ∀ (d' : QueryDefinition) (s' : Settings), s'.definitions.addons.names.Nodup →
        ¬ s'.HasBrokenAddon → d'.fields = d.fields →
        d'.selectedNames s' selection = d.selectedNames s selection →
        (∀ name ∈ d.selectedNames s selection, ∀ specs,
          d'.HasAddon s' name specs ↔ d.HasAddon s name specs) →
        d'.resolve table selection s' = d.resolve table selection s) := by
  refine ⟨⟨?_, fun h => ?_⟩, fun h => ⟨fun name => ?_, ?_, fun hall => ?_, ?_, ?_⟩⟩
  · rintro ⟨e, he, hkind⟩
    by_contra h
    -- Without a broken addon there are fields, or the error is that of an argument.
    rcases isAvailable_or_missing (d := d) (s := s) (d.selectedNames s selection) with
      hall | ⟨before, name, after, hsplit, hbefore, hname⟩
    · obtain ⟨groups, hgroups⟩ := exists_groups h hall
      rw [resolve_of_forall₂ hunique h hgroups] at he
      cases he
    · rw [resolve_of_missing hunique h hsplit hbefore hname] at he
      cases he
      cases hkind
  · have hconfig : ∃ filterer, d.resolve table selection s = .error (.unknownFilterer filterer) :=
      resolve_of_hasBrokenAddon h
    obtain ⟨filterer, herror⟩ := hconfig
    exact ⟨_, herror, rfl⟩
  · rw [isAvailable_iff h]
    constructor
    · rintro ⟨specs, hspecs⟩
      exact ⟨specs, hspecs, fun specs' hspecs' => hspecs'.eq hunique hspecs⟩
    · exact fun hspecs => hspecs.exists
  · intro before name after hsplit hbefore hname
    exact ⟨_, resolve_of_missing hunique h hsplit hbefore hname, rfl, rfl⟩
  · obtain ⟨groups, hgroups⟩ := exists_groups h hall
    exact ⟨groups, hgroups, resolve_of_forall₂ hunique h hgroups⟩
  · obtain ⟨known, -, hnames, hnodup, hget⟩ := available_of_not_hasBrokenAddon (d := d) hunique h
    refine ⟨hnames ▸ hnodup, fun name => ?_⟩
    rw [isAvailable_iff h, ← hnames, ← not_iff_not, ← Keyed.get?_eq_none_iff,
      Option.eq_none_iff_forall_ne_some, not_exists]
    simp only [hget, Ne]
  · intro d' s' hunique' h' hfields hnames hsame
    exact resolve_congr hunique h hunique' h' hfields hnames hsame

/-- An addon that the entity declares itself is broken in one configuration, although it is not
selected, and counts as the entity declares it in another one, where a disabled one is unknown. -/
theorem resolve_selected_overridden :
    let d : QueryDefinition :=
      { fields := [.bare "name"], addons := [("audit", [.bare "state"])] }
    let broken : Settings := { definitions := { addons := [("audit", { filterer := "missing" })] } }
    let sound : Settings := { definitions := { addons :=
      [("audit", { fields := ["checked_at"] }), ("off", { enabled := false, fields := ["x"] })] } }
    broken.definitions.addons.names.Nodup ∧ sound.definitions.addons.names.Nodup ∧
      (∃ e, d.resolve ⟨"t"⟩ .none broken = .error e ∧ e.kind = .config) ∧
      (∃ e, d.resolve ⟨"t"⟩ (.named ["audit", "off"]) sound = .error e ∧ e.kind = .invalidArgument ∧
        e.message = "Unknown addon [" ++ "off" ++ "].") ∧
      d.resolve ⟨"t"⟩ (.named ["audit"]) sound =
        .ok (.ofSpecs ⟨"t"⟩ [.bare "name", .bare "state"]) := by
  intro d broken sound
  have hbroken : broken.HasBrokenAddon := by
    refine ⟨_, List.mem_singleton.mpr rfl, rfl, fun filterer h => ?_⟩
    have hnone : Filterer.named "missing" = .error (.unknownFilterer "missing") := rfl
    cases hnone.symm.trans h
  have hdate : Filterer.named "date" = .ok (.builtIn .date) := rfl
  have hsound : ¬ sound.HasBrokenAddon := by
    rintro ⟨entry, hentry, henabled, hnone⟩
    rcases List.mem_cons.mp hentry with rfl | hentry
    · exact hnone _ hdate
    · rw [List.mem_singleton.mp hentry] at henabled
      cases henabled
  have haudit : d.IsAvailable sound "audit" := .inl (List.mem_singleton.mpr rfl)
  have hoff : ¬ d.IsAvailable sound "off" := by
    simp [IsAvailable, d, sound, Keyed.names]
  have hd : broken.definitions.addons.names.Nodup := by decide
  have hd' : sound.definitions.addons.names.Nodup := by decide
  refine ⟨hd, hd', (resolve_selected d ⟨"t"⟩ .none broken hd).1.mpr hbroken, ?_, ?_⟩
  · obtain ⟨-, hmissing, -⟩ := (resolve_selected d ⟨"t"⟩ (.named ["audit", "off"]) sound hd').2 hsound
    exact hmissing ["audit"] "off" [] rfl (List.forall_mem_singleton.mpr haudit) hoff
  · obtain ⟨hone, -, hgroups, -⟩ := (resolve_selected d ⟨"t"⟩ (.named ["audit"]) sound hd').2 hsound
    obtain ⟨groups, hall, hresolve⟩ := hgroups (List.forall_mem_singleton.mpr haudit)
    cases hall with
    | cons hfirst hrest =>
      cases hrest
      rw [((hone "audit").mp haudit).unique hfirst (.inl rfl)] at hresolve
      exact hresolve

end QueryDefinition
end RequestQuery
