import RequestQuery.Proofs.Distinct.Walk

/-! # Listings where the nulls come last

The conditions of cursors take the nulls to come first upwards.  Where they come
last, the condition for what is behind a value leaves the null out, since a
comparison with it is not true, although the null is still to come.  So a null
that does not fit on the first page is on none (`visitsAll_iff`).  Even so every
other value is visited, and the walk ends.
-/
namespace RequestQuery
namespace DistinctListing

variable {d : DistinctListing} {E : Engine} {rows : List Row} {s : DistinctSource}
    {values : List Datum}

/-- Whether going forward from the first page one visits all values once each and comes to an end. -/
def VisitsAll (d : DistinctListing) (E : Engine) (rows : List Row) (values : List Datum) : Prop :=
  ∃ pages : List (Page Json), (∀ k, d.walk E rows (List.replicate k .next) = .ok pages[k]?) ∧
    (pages.flatMap (·.data)).Perm (values.map Datum.toJson)

/-- The pages on the way forward are determined. -/
theorem visitsAll_iff_perm {pages : List (Page Json)}
    (hpages : ∀ k, d.walk E rows (List.replicate k .next) = .ok pages[k]?) :
    d.VisitsAll E rows values ↔ (pages.flatMap (·.data)).Perm (values.map Datum.toJson) := by
  constructor
  · rintro ⟨others, hothers, hperm⟩
    have : others = pages :=
      List.ext_getElem? fun k => Except.ok.inj ((hothers k).symm.trans (hpages k))
    exact this ▸ hperm
  · intro hperm
    exact ⟨pages, hpages, hperm⟩

/-! ## The null at the end -/

/-- Where the nulls come last, the null is the last value if it is one. -/
theorem Lists.eq_append_null (h : d.Lists E rows s values) (hlast : E.dialect.nullsFirst = false)
    (hnull : .null ∈ values) : ∃ others, values = others ++ [.null] ∧ .null ∉ others := by
  obtain ⟨front, back, rfl⟩ := List.append_of_mem hnull
  obtain ⟨-, hback, hfront⟩ := List.pairwise_append.mp h.ascending
  have hempty : back = [] := by
    refine List.eq_nil_iff_forall_not_mem.mpr fun a ha => ?_
    exact Engine.not_null_before hlast (List.rel_of_pairwise_cons hback ha)
  refine ⟨front, by rw [hempty], fun hnull => ?_⟩
  exact irrefl _ (hfront .null hnull .null List.mem_cons_self)

/-- Behind a value that is not null are the values that follow it, but for the null. -/
theorem Lists.showsRest_others (h : d.Lists E rows s values) {others : List Datum}
    (hsub : others.Sublist values) (hothers : ∀ a, a ∈ others ↔ a ∈ values ∧ a ≠ .null) :
    d.ShowsRest E rows others := by
  intro k hk
  obtain ⟨hmem, hnull⟩ := (hothers _).mp (List.getElem_mem hk)
  have hascending := h.ascending.sublist hsub
  obtain ⟨place, hplace, hholds⟩ := Cursor.condition_after (E := E) s.value (h.isKey _ hmem) hnull
  refine h.pageAt_cursor (P := fun a => a ≠ .null ∧ E.Before .ascending others[k] a)
    (h.isKey _ hmem) hplace hholds (hascending.sublist (List.drop_sublist _ _)) fun a => ?_
  rw [mem_drop_of_pairwise hascending hk, hothers, and_assoc]

/-! ## The way forward -/

/-- Going forward from a chunk, one comes through the chunks that follow. -/
theorem ShowsRest.walkFrom_forward {shown : List Datum} (h : d.ShowsRest E rows shown) (i k : Nat) :
    d.walkFrom E rows (.ofChunk (shown.map Datum.toJson) d.pageSize i) (List.replicate k .next) =
      .ok ((Move.walk shown.length d.pageSize i (List.replicate k .next)).map
        (.ofChunk (shown.map Datum.toJson) d.pageSize)) := by
  induction k generalizing i with
  | zero => rfl
  | succ k ih =>
    rw [List.replicate_succ, h.walkFrom_next, Move.walk, Move.step]
    by_cases hnext : (i + 1) * d.pageSize < shown.length
    · rw [if_pos hnext, if_pos hnext]
      exact ih (i + 1)
    · rw [if_neg hnext, if_neg hnext]
      rfl

theorem walk_of_first {page : Page Json} (h : d.pageAt E rows none = .ok page) (moves : List Move) :
    d.walk E rows moves = d.walkFrom E rows page moves := by
  simp [walk, h, bind, Except.bind]

/-- If the pages are the chunks of some values from the first on, these are the values visited. -/
theorem ShowsRest.walk_forward {shown : List Datum} (h : d.ShowsRest E rows shown)
    (hfirst : d.pageAt E rows none = .ok (.ofChunk (shown.map Datum.toJson) d.pageSize 0))
    (k : Nat) :
    d.walk E rows (List.replicate k .next) =
      .ok (Page.chunks (shown.map Datum.toJson) d.pageSize)[k]? := by
  rw [walk_of_first hfirst, h.walkFrom_forward, Page.getElem?_chunks d.pageSize_pos,
    List.length_map]

/-- If all values fit on the first page, there is no other. -/
theorem Lists.walk_forward_short (h : d.Lists E rows s values)
    (hshort : values.length ≤ d.pageSize) (k : Nat) :
    d.walk E rows (List.replicate k .next) =
      .ok [Page.ofChunk (values.map Datum.toJson) d.pageSize 0][k]? := by
  rw [walk_of_first h.pageAt_first]
  cases k with
  | zero => rfl
  | succ k =>
    have hlink : (Page.ofChunk (values.map Datum.toJson) d.pageSize 0).next = none :=
      Page.ofChunk_next_of_last (by rw [List.length_map]; omega)
    simp only [List.replicate_succ, walkFrom, Page.link, hlink]
    rfl

/-- A null that the first page has no room for, but that comes right behind it, leads to an empty
page. -/
theorem Lists.walk_forward_full {others : List Datum}
    (h : d.Lists E rows s (others ++ [Datum.null])) (hrest : d.ShowsRest E rows others)
    (hfull : others.length = d.pageSize) (k : Nat) :
    d.walk E rows (List.replicate k .next) =
      .ok [Page.ofChunk ((others ++ [Datum.null]).map Datum.toJson) d.pageSize 0,
        Page.ofChunk (others.map Datum.toJson) d.pageSize 1][k]? := by
  have hn := d.pageSize_pos
  rw [walk_of_first h.pageAt_first]
  cases k with
  | zero => rfl
  | succ k =>
    have hlast : (0 + 1) * d.pageSize - 1 < others.length := by omega
    have hmore : (0 + 1) * d.pageSize < ((others ++ [Datum.null]).map Datum.toJson).length := by
      simp only [List.length_map, List.length_append, List.length_singleton]
      omega
    have hlink := Page.ofChunk_next hn hmore
    rw [List.getElem_map, List.getElem_append_left hlast] at hlink
    have hforward := hrest.walkFrom_forward 1 k
    rw [Move.walk_forward] at hforward
    simp only [List.replicate_succ, walkFrom, Page.link, hlink, hrest.pageAt_next hlast]
    refine hforward.trans ?_
    cases k with
    | zero => rfl
    | succ k =>
      have : d.pageSize ≤ (1 + (k + 1)) * d.pageSize := Nat.le_mul_of_pos_left _ (by omega)
      rw [if_neg (by omega)]
      rfl

/-- Where the nulls come last, going forward one visits all values, or all but the null. -/
theorem Lists.exists_pages (h : d.Lists E rows s values) (hlast : E.dialect.nullsFirst = false) :
    ∃ pages : List (Page Json), (∀ k, d.walk E rows (List.replicate k .next) = .ok pages[k]?) ∧
      pages.flatMap (·.data) =
        (if values.length ≤ d.pageSize then values else values.filter (· ≠ .null)).map
          Datum.toJson := by
  have hn := d.pageSize_pos
  by_cases hshort : values.length ≤ d.pageSize
  · refine ⟨_, h.walk_forward_short hshort, ?_⟩
    rw [if_pos hshort, List.flatMap_singleton]
    simp [Page.ofChunk, hshort]
  rw [if_neg hshort]
  by_cases hnull : .null ∈ values
  · obtain ⟨others, rfl, hothers⟩ := h.eq_append_null hlast hnull
    have hne : ∀ a ∈ others, a ≠ .null := fun a ha hnull => hothers (hnull ▸ ha)
    have hrest : d.ShowsRest E rows others := by
      refine h.showsRest_others (List.sublist_append_left _ _) fun a => ?_
      rw [List.mem_append, List.mem_singleton]
      constructor
      · exact fun ha => ⟨.inl ha, hne a ha⟩
      · exact fun ha => ha.1.resolve_right ha.2
    have hfilter : (others ++ [Datum.null]).filter (· ≠ .null) = others := by
      rw [List.filter_append, List.filter_eq_self.mpr (by simpa using hne)]
      simp
    rw [List.length_append, List.length_singleton] at hshort
    rw [hfilter]
    rcases Nat.eq_or_lt_of_le (show d.pageSize ≤ others.length by omega) with hfull | hmore
    · refine ⟨_, h.walk_forward_full hrest hfull.symm, ?_⟩
      simp [Page.ofChunk, hfull]
    · have hfirst : Page.ofChunk ((others ++ [Datum.null]).map Datum.toJson) d.pageSize 0 =
          Page.ofChunk (others.map Datum.toJson) d.pageSize 0 := by
        refine Page.ofChunk_zero_eq ?_ (by simpa using Nat.lt_succ_of_lt hmore)
          (by simpa using hmore)
        rw [← List.map_take, List.take_append_of_le_length (Nat.le_of_lt hmore), List.map_take]
      exact ⟨_, hrest.walk_forward (hfirst ▸ h.pageAt_first), Page.flatMap_data_chunks hn⟩
  · have hne : ∀ a ∈ values, a ≠ .null := fun a ha hnull' => hnull (hnull' ▸ ha)
    have hrest := h.showsRest_others (List.Sublist.refl values) fun a =>
      (and_iff_left_of_imp (hne a)).symm
    have hfilter : values.filter (· ≠ .null) = values :=
      List.filter_eq_self.mpr (by simpa using hne)
    refine ⟨_, hrest.walk_forward h.pageAt_first, ?_⟩
    rw [Page.flatMap_data_chunks hn, hfilter]

/-- **What going forward visits where the nulls come last.**  All values, once each, exactly if none
of them is the null or they all fit on the first page, and otherwise all but the null.  The walk
ends in any case. -/
theorem visitsAll_iff (d : DistinctListing) (E : Engine) (rows : List Row) (s : DistinctSource)
    (values : List Datum) (hdialect : E.dialect = .postgres) (h : d.Lists E rows s values) :
    (d.VisitsAll E rows values ↔ .null ∉ values ∨ values.length ≤ d.pageSize) ∧
      ∃ pages : List (Page Json), (∀ k, d.walk E rows (List.replicate k .next) = .ok pages[k]?) ∧
        pages.flatMap (·.data) =
          (if values.length ≤ d.pageSize then values else values.filter (· ≠ .null)).map
            Datum.toJson := by
  obtain ⟨pages, hpages, hdata⟩ := h.exists_pages (by rw [hdialect]; rfl)
  refine ⟨?_, pages, hpages, hdata⟩
  rw [visitsAll_iff_perm hpages, hdata]
  constructor
  · intro hperm
    by_contra hlost
    rw [not_or, not_not] at hlost
    rw [if_neg hlost.2] at hperm
    -- The null is not among the values visited, so these are fewer.
    have hless : (values.filter (· ≠ .null)).length < values.length :=
      List.length_filter_lt_length_iff_exists.mpr ⟨.null, hlost.1, by simp⟩
    have := hperm.length_eq
    rw [List.length_map, List.length_map] at this
    omega
  · rintro (hnull | hshort)
    · have hne : ∀ a ∈ values, a ≠ .null := fun a ha hnull' => hnull (hnull' ▸ ha)
      rw [List.filter_eq_self.mpr (by simpa using hne), ite_self]
    · rw [if_pos hshort]

/-- A null behind two names is found on a page of three. -/
theorem visitsAll_three_to_a_page :
    let E := Engine.binary .postgres fun _ _ x _ => x
    let rows : List Row := [.text "Ali", .text "Bob", .null].map fun x _ _ => x
    E.dialect = .postgres ∧ (names 3).Lists E rows nameSource [.text "Ali", .text "Bob", .null] ∧
      (names 3).VisitsAll E rows [.text "Ali", .text "Bob", .null] := by
  intro E rows
  have hlists : (names 3).Lists E rows nameSource [.text "Ali", .text "Bob", .null] :=
    lists_names (by decide) (fun _ => Iff.rfl) (by simp [Datum.IsKey, Datum.IsText])
  have hsize : (names 3).pageSize = 3 := by decide
  exact ⟨rfl, hlists, (visitsAll_iff _ _ _ _ _ rfl hlists).1.mpr (.inr (by rw [hsize]; decide))⟩

/-- A null behind two names is on no page if the pages hold two. -/
theorem not_visitsAll_two_to_a_page :
    let E := Engine.binary .postgres fun _ _ x _ => x
    let rows : List Row := [.text "Ali", .text "Bob", .null].map fun x _ _ => x
    E.dialect = .postgres ∧ (names 2).Lists E rows nameSource [.text "Ali", .text "Bob", .null] ∧
      ¬ (names 2).VisitsAll E rows [.text "Ali", .text "Bob", .null] := by
  intro E rows
  have hlists : (names 2).Lists E rows nameSource [.text "Ali", .text "Bob", .null] :=
    lists_names (by decide) (fun _ => Iff.rfl) (by simp [Datum.IsKey, Datum.IsText])
  have hsize : (names 2).pageSize = 2 := by decide
  obtain ⟨pages, hpages, hdata⟩ := hlists.exists_pages rfl
  refine ⟨rfl, hlists, fun hall => ?_⟩
  have hlength := ((visitsAll_iff_perm hpages).mp hall).length_eq
  rw [hdata, hsize] at hlength
  exact absurd hlength (by decide)

end DistinctListing
end RequestQuery
