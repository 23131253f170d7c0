import Mathlib.Data.List.Nodup
import Mathlib.Data.String.Basic
import RequestQuery.Proofs.Keyed

/-! # Things in ascending order of their names

Putting things one after the other at the places of their names loses none of
them, as long as their names differ (`sorted_perm`), and leaves the names in
ascending order (`pairwise_names_sorted`), which does not depend on the order in which
the things came (`sorted_eq_of_perm`).  Of several things of one name the last is found
(`get?_sorted`).
-/
namespace RequestQuery
namespace Keyed

variable {α : Type} {items : Keyed α} {name : String} (value : α)

/-! ## Putting in one thing -/

/-- A thing of a new name is put in, and nothing else happens. -/
theorem insertSorted_perm (hnew : name ∉ items.names) :
    (items.insertSorted name value).Perm ((name, value) :: items) := by
  induction items with
  | nil => exact List.Perm.refl _
  | cons item rest ih =>
    obtain ⟨other, kept⟩ := item
    obtain ⟨hother, hrest⟩ := not_or.mp (mt List.mem_cons.mpr hnew)
    by_cases hlt : name < other
    · rw [insertSorted, if_pos hlt]
    · rw [insertSorted, if_neg hlt, if_neg hother]
      exact ((ih hrest).cons (other, kept)).trans (List.Perm.swap (name, value) (other, kept) rest)

theorem mem_names_insertSorted {n : String} (h : n ∈ (items.insertSorted name value).names) :
    n = name ∨ n ∈ items.names := by
  induction items with
  | nil => exact .inl (List.mem_singleton.mp h)
  | cons item rest ih =>
    obtain ⟨other, kept⟩ := item
    rw [insertSorted] at h
    split at h
    · exact List.mem_cons.mp h
    · split at h
      · exact (List.mem_cons.mp h).imp_right (List.mem_cons_of_mem other)
      · rcases List.mem_cons.mp h with rfl | h
        · exact .inr List.mem_cons_self
        · exact (ih h).imp_right (List.mem_cons_of_mem other)

theorem pairwise_names_insertSorted (h : items.names.Pairwise (· < ·)) :
    (items.insertSorted name value).names.Pairwise (· < ·) := by
  induction items with
  | nil => exact List.pairwise_singleton _ name
  | cons item rest ih =>
    obtain ⟨other, kept⟩ := item
    obtain ⟨hother, hrest⟩ := List.pairwise_cons.mp h
    rw [insertSorted]
    split
    · next hlt =>
      refine List.pairwise_cons.mpr ⟨fun n hn => ?_, h⟩
      rcases List.mem_cons.mp hn with rfl | hn
      · exact hlt
      · exact hlt.trans (hother n hn)
    · next hge =>
      split
      · next heq => exact heq ▸ h
      · next hne =>
        refine List.pairwise_cons.mpr ⟨fun n hn => ?_, ih hrest⟩
        rcases mem_names_insertSorted value hn with rfl | hn
        · exact lt_of_le_of_ne (not_lt.mp hge) (Ne.symm hne)
        · exact hother n hn

/-! ## Putting in many -/

variable (items)

theorem pairwise_names_sorted : items.sorted.names.Pairwise (· < ·) := by
  have hfold (rest done : Keyed α) (h : done.names.Pairwise (· < ·)) :
      (rest.foldl (fun done item => done.insertSorted item.1 item.2) done).names.Pairwise (· < ·) := by
    induction rest generalizing done with
    | nil => exact h
    | cons item rest ih => exact ih _ (pairwise_names_insertSorted item.2 h)
  exact hfold items [] List.Pairwise.nil

variable {items}

/-- Things of different names are only put in order. -/
theorem sorted_perm (hunique : items.names.Nodup) : items.sorted.Perm items := by
  have hfold (rest done : Keyed α) (h : (names done ++ names rest).Nodup) :
      (rest.foldl (fun done item => done.insertSorted item.1 item.2) done).Perm (done ++ rest) := by
    induction rest generalizing done with
    | nil => rw [List.foldl_nil, List.append_nil]
    | cons item rest ih =>
      have hmiddle : (names done ++ names (item :: rest)).Perm (item.1 :: (names done ++ names rest)) :=
        List.perm_middle
      have hnodup := hmiddle.nodup_iff.mp h
      have hput : (insertSorted done item.1 item.2).Perm (item :: done) :=
        insertSorted_perm item.2 fun hmem => (List.nodup_cons.mp hnodup).1 (List.mem_append_left _ hmem)
      have hnames : (names (insertSorted done item.1 item.2) ++ names rest).Nodup :=
        ((hput.map Prod.fst).append_right (names rest)).nodup_iff.mpr hnodup
      exact ((ih _ hnames).trans (hput.append_right rest)).trans List.perm_middle.symm
  exact hfold items [] hunique

/-- There is one ascending order only. -/
theorem eq_of_perm_of_pairwise {others : Keyed α} (h : items.Perm others)
    (hitems : items.names.Pairwise (· < ·)) (hothers : others.names.Pairwise (· < ·)) : items = others :=
  h.eq_of_pairwise (fun _ _ _ _ hab hba => absurd hba (lt_asymm hab)) (List.pairwise_map.mp hitems)
    (List.pairwise_map.mp hothers)

/-- Things in ascending order of their names stay as they are. -/
theorem sorted_of_pairwise (h : items.names.Pairwise (· < ·)) : items.sorted = items :=
  eq_of_perm_of_pairwise (sorted_perm (h.imp ne_of_lt)) (pairwise_names_sorted items) h

/-- Things of different names come into one order, whatever order they were in. -/
theorem sorted_eq_of_perm {others : Keyed α} (hunique : items.names.Nodup) (h : items.Perm others) :
    items.sorted = others.sorted := by
  have hunique' : others.names.Nodup := (h.map Prod.fst).nodup_iff.mp hunique
  have hsorted : items.sorted.Perm others.sorted :=
    ((sorted_perm hunique).trans h).trans (sorted_perm hunique').symm
  exact eq_of_perm_of_pairwise hsorted (pairwise_names_sorted items) (pairwise_names_sorted others)

/-! ## What is found -/

/-- The last thing of a name is what stands under it. -/
theorem get?_sorted (items : Keyed α) (name : String) : items.sorted.get? name = items.last? name := by
  have hfold (rest done : Keyed α) :
      (rest.foldl (fun done item => done.insertSorted item.1 item.2) done).get? name =
        (rest.last? name).or (done.get? name) := by
    induction rest generalizing done with
    | nil => rfl
    | cons item rest ih =>
      obtain ⟨key, value⟩ := item
      rw [List.foldl_cons, ih, last?_cons, Option.or_assoc]
      by_cases h : key = name
      · rw [if_pos h, Option.some_or, ← h, get?_insertSorted_self]
      · rw [if_neg h, Option.none_or, get?_insertSorted_of_ne _ _ (Ne.symm h)]
  rw [sorted, hfold, get?, List.find?_nil, Option.map_none, Option.or_none]

theorem mem_names_sorted {items : Keyed α} {name : String} :
    name ∈ items.sorted.names ↔ name ∈ items.names := by
  rw [← exists_get?_iff, ← exists_last?_iff, get?_sorted]

end Keyed
end RequestQuery
