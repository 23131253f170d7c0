import Mathlib.Data.List.Infix
import Mathlib.Data.List.Nodup
import RequestQuery.Proofs.Text.Split

/-! # Finding again what was joined

Joined texts can share characters with the separator between them.  Then an item is
found again if the separator behind it is the first one there (`Closes`), which does not
depend on what follows (`FirstAt.append`); and all items are found again if that holds of
each but the last, and the last has no separator in it (`splitAt_intercalate_eq_self_iff`).
A separator whose characters are all different cannot begin in an item and end behind it, so
that then it must only occur in no item (`separable_iff_of_nodup`).
Whatever the items are, two joined texts are the same exactly if the same items are found
in both (`splitAt_inj`).
-/
namespace RequestQuery
namespace Text

/-! ## What follows the first separator -/

section
variable {sep s before rest : List Char}

/-- The first separator stays the first one, whatever follows. -/
theorem cut?_append_right (h : cut? sep s = some (before, rest)) (more : List Char) :
    cut? sep (s ++ more) = some (before, rest ++ more) := by
  have hs := cut?_eq_some h
  have hmore : s ++ more = before ++ sep ++ (rest ++ more) := by rw [hs, List.append_assoc]
  have hfound := isSome_cut?_append (sep_ne_nil_of_cut? h) before (rest ++ more)
  rw [← hmore] at hfound
  obtain ⟨⟨before', rest'⟩, hcut⟩ := Option.isSome_iff_exists.mp hfound
  have hcut' := cut?_eq_some hcut
  have hle : before'.length ≤ before.length := length_le_of_cut? hcut hmore
  -- it ends before the text does, so it was there without what follows
  have hlength : (before' ++ sep).length ≤ s.length := by
    rw [hs, List.length_append, List.length_append, List.length_append]
    omega
  have hbegins : before' ++ sep <+: s :=
    List.prefix_of_prefix_length_le ⟨rest', hcut'.symm⟩ (List.prefix_append s more) hlength
  obtain ⟨between, hbetween⟩ := hbegins
  have hge : before.length ≤ before'.length := length_le_of_cut? h hbetween.symm
  have heq : before' ++ (sep ++ rest') = before ++ (sep ++ (rest ++ more)) := by
    rw [← List.append_assoc, ← List.append_assoc, ← hcut', hmore]
  obtain ⟨rfl, hrest⟩ := List.append_inj heq (le_antisymm hle hge)
  rw [hcut, List.append_cancel_left hrest]

/-! ## No separator is left -/

theorem not_infix_of_cut?_eq_none (hsep : sep ≠ []) (h : cut? sep s = none) : ¬ sep <:+: s := by
  rintro ⟨before, rest, rfl⟩
  have hfound := isSome_cut?_append hsep before rest
  rw [h] at hfound
  cases hfound

theorem not_infix_of_cut? (h : cut? sep s = some (before, rest)) : ¬ sep <:+: before := by
  rintro ⟨front, behind, rfl⟩
  have heq : s = front ++ sep ++ (behind ++ sep ++ rest) := by
    rw [cut?_eq_some h]
    simp
  have hle := length_le_of_cut? h heq
  have hpos := List.length_pos_iff.mpr (sep_ne_nil_of_cut? h)
  simp only [List.length_append] at hle
  omega

/-- No piece has the separator in it. -/
theorem not_infix_of_mem_pieces (hsep : sep ≠ []) {piece : List Char} (h : piece ∈ pieces sep s) :
    ¬ sep <:+: piece := by
  fun_induction pieces sep s with
  | case1 s hnone =>
    rw [List.mem_singleton.mp h]
    exact not_infix_of_cut?_eq_none hsep hnone
  | case2 s before rest hcut ih =>
    rcases List.mem_cons.mp h with rfl | h
    · exact not_infix_of_cut? hcut
    · exact ih h

end

variable {sep s before rest : String}

theorem FirstAt.append (hsep : sep ≠ "") (h : FirstAt sep s before rest) (more : String) :
    FirstAt sep (s ++ more) before (rest ++ more) := by
  obtain ⟨⟨b, r⟩, hcut, hparts⟩ := Option.map_eq_some_iff.mp ((cutAt?_eq_some_iff hsep).mpr h)
  cases hparts
  refine firstAt_of_cutAt? ?_
  rw [cutAt?, String.toList_append, cut?_append_right hcut, Option.map_some]
  simp only [String.ofList_append, String.ofList_toList]

theorem occurs_iff_infix_toList : Occurs sep s ↔ sep.toList <:+: s.toList := by
  constructor
  · rintro ⟨before, rest, rfl⟩
    exact ⟨before.toList, rest.toList, by rw [String.toList_append, String.toList_append]⟩
  · rintro ⟨before, rest, heq⟩
    refine ⟨String.ofList before, String.ofList rest, ?_⟩
    rw [← String.toList_inj, ← heq]
    simp

/-! ## Items that end where the separator begins -/

/-- The separator behind the text is the first one there. -/
def Closes (sep s : String) : Prop := FirstAt sep (s ++ sep) s ""

/-- What follows the separator does not matter. -/
theorem firstAt_append_iff (hsep : sep ≠ "") : FirstAt sep (s ++ sep ++ rest) s rest ↔ Closes sep s := by
  constructor
  · intro h
    refine ⟨by rw [String.append_empty], fun before' rest' heq => h.first before' (rest' ++ rest) ?_⟩
    rw [heq, String.append_assoc]
  · intro h
    have hmore := FirstAt.append hsep h rest
    rwa [String.empty_append] at hmore

theorem Closes.not_occurs (hsep : sep ≠ "") (h : Closes sep s) : ¬ Occurs sep s := by
  rintro ⟨before, rest, rfl⟩
  have hle := h.first before (rest ++ sep) (by rw [String.append_assoc])
  have hpos : 0 < sep.length := Nat.pos_of_ne_zero (mt String.length_eq_zero_iff.mp hsep)
  simp only [String.length_append] at hle
  omega

/-- A separator is the first one behind a text that does not have its first character. -/
theorem closes_of_head_not_mem {c : Char} {more : List Char} (hsep : sep.toList = c :: more)
    (h : c ∉ s.toList) : Closes sep s := by
  refine ⟨by rw [String.append_empty], fun before rest heq => ?_⟩
  rw [← String.toList_inj] at heq
  simp only [String.toList_append, List.append_assoc] at heq
  rw [← String.length_toList, ← String.length_toList]
  rcases List.append_eq_append_iff.mp heq with ⟨behind, hbefore, -⟩ | ⟨front, hs, hfront⟩
  · rw [hbefore, List.length_append]
    exact Nat.le_add_right _ _
  · cases front with
    | nil => rw [hs, List.append_nil]
    | cons d front =>
      -- the other occurrence would begin inside the text
      rw [hsep] at hfront
      have hd : c = d := (List.cons.inj hfront).1
      exact absurd (hs ▸ List.mem_append_right _ (hd ▸ List.mem_cons_self)) h

/-- A separator whose characters are different cannot overlap itself, so it is the first one behind any
text that it does not occur in. -/
theorem closes_of_nodup (hsep : sep.toList.Nodup) (h : ¬ Occurs sep s) : Closes sep s := by
  refine ⟨by rw [String.append_empty], fun before rest heq => ?_⟩
  rw [← String.toList_inj] at heq
  simp only [String.toList_append, List.append_assoc] at heq
  rw [← String.length_toList, ← String.length_toList]
  by_contra hshort
  obtain ⟨front, hs, hfront⟩ : ∃ front, s.toList = before.toList ++ front ∧
      sep.toList ++ rest.toList = front ++ sep.toList := by
    rcases List.append_eq_append_iff.mp heq with ⟨behind, hbefore, -⟩ | hinside
    · rw [hbefore, List.length_append] at hshort
      omega
    · exact hinside
  rcases List.append_eq_append_iff.mp hfront with ⟨more, hmore, -⟩ | ⟨more, hmore, hagain⟩
  · -- the other occurrence would end inside the text
    rw [occurs_iff_infix_toList] at h
    exact h ⟨before.toList, more, by rw [hs, hmore, List.append_assoc]⟩
  · -- it would begin inside the text and go on into the separator
    cases more with
    | nil =>
      rw [List.append_nil] at hmore
      rw [occurs_iff_infix_toList] at h
      exact h ⟨before.toList, [], by rw [hs, hmore, List.append_nil]⟩
    | cons d more =>
      cases front with
      | nil =>
        rw [hs, List.append_nil] at hshort
        exact hshort le_rfl
      | cons c front =>
        -- so its first character would come twice
        have hc : c = d := (List.cons.inj (hmore.symm.trans hagain)).1
        rw [hmore, hc, List.cons_append, List.nodup_cons] at hsep
        exact hsep.1 (List.mem_append_right _ List.mem_cons_self)

/-! ## All pieces -/

theorem splitAt_of_not_occurs (hsep : sep ≠ "") (h : ¬ Occurs sep s) : splitAt sep s = [s] := by
  have hcut := Option.map_eq_none_iff.mp ((cutAt?_eq_none_iff hsep).mpr h)
  rw [splitAt, pieces_of_cut?_none hcut, List.map_singleton, String.ofList_toList]

theorem splitAt_of_firstAt (hsep : sep ≠ "") (h : FirstAt sep s before rest) :
    splitAt sep s = before :: splitAt sep rest := by
  obtain ⟨⟨b, r⟩, hcut, hparts⟩ := Option.map_eq_some_iff.mp ((cutAt?_eq_some_iff hsep).mpr h)
  cases hparts
  rw [splitAt, pieces_of_cut?_some hcut, List.map_cons, splitAt, String.toList_ofList]

/-- Joining undoes cutting. -/
theorem intercalate_splitAt (sep s : String) : sep.intercalate (splitAt sep s) = s := by
  rw [← String.toList_inj, String.toList_intercalate, splitAt, List.map_map]
  simp only [Function.comp_def, String.toList_ofList, List.map_id']
  exact intercalate_pieces sep.toList s.toList

/-- Texts are the same if the same pieces are found in both. -/
theorem splitAt_inj {t : String} : splitAt sep s = splitAt sep t ↔ s = t := by
  constructor
  · intro h
    rw [← intercalate_splitAt sep s, h, intercalate_splitAt]
  · rintro rfl
    rfl

theorem splitAt_ne_nil (sep s : String) : splitAt sep s ≠ [] :=
  mt List.map_eq_nil_iff.mp (pieces_ne_nil _ _)

/-- The items that are found again whatever separators are in them. -/
def Separable (sep : String) (items : List String) : Prop :=
  (∀ item ∈ items.dropLast, Closes sep item) ∧ ∀ last ∈ items.getLast?, ¬ Occurs sep last

theorem separable_singleton {item : String} : Separable sep [item] ↔ ¬ Occurs sep item := by
  simp [Separable]

theorem separable_cons_cons {item next : String} {items : List String} :
    Separable sep (item :: next :: items) ↔ Closes sep item ∧ Separable sep (next :: items) := by
  simp only [Separable, List.dropLast_cons_cons, List.forall_mem_cons, List.getLast?_cons_cons, and_assoc]

/-- A separator whose characters are different separates all texts that it does not occur in. -/
theorem separable_iff_of_nodup (hsep : sep.toList.Nodup) (hne : sep ≠ "") {items : List String} :
    Separable sep items ↔ ∀ item ∈ items, ¬ Occurs sep item := by
  induction items with
  | nil => simp [Separable]
  | cons item rest ih =>
    cases rest with
    | nil => rw [separable_singleton, List.forall_mem_singleton]
    | cons next rest =>
      rw [separable_cons_cons, List.forall_mem_cons, ih]
      exact and_congr_left fun _ => ⟨Closes.not_occurs hne, closes_of_nodup hsep⟩

theorem not_occurs_of_mem_splitAt (hsep : sep ≠ "") {piece : String} (h : piece ∈ splitAt sep s) :
    ¬ Occurs sep piece := by
  obtain ⟨chars, hchars, rfl⟩ := List.mem_map.mp h
  rw [occurs_iff_infix_toList, String.toList_ofList]
  exact not_infix_of_mem_pieces (mt String.toList_eq_nil_iff.mp hsep) hchars

/-- **Cutting finds the items again** exactly if each ends where the first separator begins. -/
theorem splitAt_intercalate_eq_self_iff {items : List String} (hsep : sep ≠ "") (hitems : items ≠ []) :
    splitAt sep (sep.intercalate items) = items ↔ Separable sep items := by
  induction items with
  | nil => exact absurd rfl hitems
  | cons item rest ih =>
    cases rest with
    | nil =>
      rw [String.intercalate_singleton, separable_singleton]
      constructor
      · intro h hoccurs
        obtain ⟨before, behind, hfirst⟩ := exists_firstAt hsep hoccurs
        rw [splitAt_of_firstAt hsep hfirst] at h
        exact splitAt_ne_nil _ _ (List.cons.inj h).2
      · exact splitAt_of_not_occurs hsep
    | cons next rest =>
      have hjoin := String.intercalate_cons_cons (s := sep) (t := item) (u := next) (l := rest)
      rw [separable_cons_cons, ← ih (List.cons_ne_nil next rest), hjoin]
      constructor
      · intro h
        obtain ⟨before, behind, hfirst⟩ := exists_firstAt hsep ⟨item, sep.intercalate (next :: rest), rfl⟩
        rw [splitAt_of_firstAt hsep hfirst] at h
        obtain ⟨rfl, hrest⟩ := List.cons.inj h
        have heq := hfirst.eq
        rw [← String.toList_inj] at heq
        simp only [String.toList_append, List.append_cancel_left_eq, String.toList_inj] at heq
        rw [← heq] at hfirst hrest
        exact ⟨(firstAt_append_iff hsep).mp hfirst, hrest⟩
      · rintro ⟨hcloses, hrest⟩
        rw [splitAt_of_firstAt hsep ((firstAt_append_iff hsep).mpr hcloses), hrest]

/-! ## Separators of one character

Such a separator cannot overlap an item: it is found wherever it stands. -/

section
variable {c : Char} {s before rest : List Char}

theorem cut?_singleton_eq_none_iff : cut? [c] s = none ↔ c ∉ s := by
  have hsep : [c] ≠ [] := List.cons_ne_nil c []
  constructor
  · exact fun hnone => mt (List.singleton_infix_iff _ _).mpr (not_infix_of_cut?_eq_none hsep hnone)
  · exact fun hnot => cut?_eq_none hsep fun d hd hmem => hnot (List.mem_singleton.mp hmem ▸ hd)

theorem not_mem_of_cut?_singleton (h : cut? [c] s = some (before, rest)) : c ∉ before :=
  mt (List.singleton_infix_iff _ _).mpr (not_infix_of_cut? h)

theorem not_mem_of_mem_pieces {piece : List Char} (h : piece ∈ pieces [c] s) : c ∉ piece :=
  mt (List.singleton_infix_iff _ _).mpr (not_infix_of_mem_pieces (List.cons_ne_nil c []) h)

theorem pieces_singleton (c : Char) (s : List Char) : pieces [c] s = s.splitOn c := by
  fun_induction pieces [c] s with
  | case1 s hnone => rw [List.splitOn_eq_singleton (cut?_singleton_eq_none_iff.mp hnone)]
  | case2 s before rest hcut ih =>
    rw [cut?_eq_some hcut, List.append_assoc, List.singleton_append,
      List.splitOn_append_cons_self_of_not_mem (not_mem_of_cut?_singleton hcut), ih]

end

section
variable {c : Char} (hsep : sep.toList = [c])
include hsep

theorem splitAt_append (s t : String) : splitAt sep (s ++ sep ++ t) = splitAt sep s ++ splitAt sep t := by
  simp only [splitAt, String.toList_append, hsep, pieces_singleton, List.append_assoc,
    List.singleton_append, List.splitOn_append_cons_self, List.map_append]

/-- An item with separators in it is found as its pieces. -/
theorem splitAt_intercalate_eq_flatMap {items : List String} (hitems : items ≠ []) :
    splitAt sep (sep.intercalate items) = items.flatMap (splitAt sep) := by
  induction items with
  | nil => exact absurd rfl hitems
  | cons item rest ih =>
    cases rest with
    | nil => simp
    | cons next rest =>
      rw [String.intercalate_cons_cons, splitAt_append hsep, ih (List.cons_ne_nil next rest)]
      exact (List.flatMap_cons ..).symm

theorem occurs_iff_mem : Occurs sep s ↔ c ∈ s.toList := by
  constructor
  · rintro ⟨before, rest, rfl⟩
    simp [hsep]
  · intro hc
    obtain ⟨front, behind, heq⟩ := List.append_of_mem hc
    refine ⟨String.ofList front, String.ofList behind, ?_⟩
    rw [← String.toList_inj, heq]
    simp [hsep]

theorem separable_iff_not_mem {items : List String} :
    Separable sep items ↔ ∀ item ∈ items, c ∉ item.toList := by
  have hne : sep ≠ "" := by
    rintro rfl
    cases hsep
  have hnodup : sep.toList.Nodup := hsep ▸ List.nodup_singleton c
  simp only [separable_iff_of_nodup hnodup hne, occurs_iff_mem hsep]

end

/-- An item may end with the first character of an arrow, but not with what a point between quotes
begins and ends with. -/
example : Closes "->" "a-" ∧ ¬ Closes "\".\"" "a\"." := by
  constructor
  · exact (cutAt?_eq_some_iff (by decide)).mp (by decide)
  · intro h
    exact absurd ((cutAt?_eq_some_iff (by decide)).mpr h) (by decide)

end Text
end RequestQuery
