/-! # Lists of named things

Settings, documents and definitions hold things under names.  Two disciplines
occur.  `insertSorted` keeps the names in ascending order of their code points
and lets a later entry replace an earlier one of the same name.  `upsert` keeps
the order of first occurrence: a later entry takes the place of the earlier one.
-/
namespace RequestQuery

/-- Things under names, in a list. -/
abbrev Keyed (α : Type) := List (String × α)

namespace Keyed

variable {α : Type}

/-- The thing under a name, the first one if there are several. -/
def get? (items : Keyed α) (name : String) : Option α :=
  (items.find? (·.1 == name)).map Prod.snd

/-- The names in their order. -/
def names (items : Keyed α) : List String :=
  items.map Prod.fst

/-- Puts a thing at the place of its name in ascending order, replacing what is there. -/
def insertSorted (items : Keyed α) (name : String) (value : α) : Keyed α :=
  match items with
  | [] => [(name, value)]
  | (other, kept) :: rest =>
    if name < other then (name, value) :: (other, kept) :: rest
    else if name = other then (name, value) :: rest
    else (other, kept) :: insertSorted rest name value

/-- The things in ascending order of their names; the last one of each name stays. -/
def sorted (items : Keyed α) : Keyed α :=
  items.foldl (fun done (name, value) => done.insertSorted name value) []

/-- Replaces the first thing of a name where it stands, or adds a new one at the end. -/
def upsert (items : Keyed α) (name : String) (value : α) : Keyed α :=
  match items with
  | [] => [(name, value)]
  | (other, kept) :: rest =>
    if other = name then (name, value) :: rest else (other, kept) :: upsert rest name value

theorem get?_upsert_self (items : Keyed α) (name : String) (value : α) :
    (items.upsert name value).get? name = some value := by
  induction items with
  | nil => simp [upsert, get?]
  | cons item rest ih =>
    obtain ⟨other, kept⟩ := item
    by_cases h : other = name
    · simp [upsert, get?, h]
    · simpa [upsert, get?, h] using ih

theorem get?_upsert_of_ne (items : Keyed α) {name other : String} (value : α) (h : other ≠ name) :
    (items.upsert name value).get? other = items.get? other := by
  induction items with
  | nil => simp [upsert, get?, Ne.symm h]
  | cons item rest ih =>
    obtain ⟨first, kept⟩ := item
    by_cases hf : first = name
    · subst hf
      simp [upsert, get?, Ne.symm h]
    · by_cases ho : first = other
      · subst ho
        simp [upsert, get?, hf]
      · simpa [upsert, get?, hf, ho] using ih

theorem get?_insertSorted_self (items : Keyed α) (name : String) (value : α) :
    (items.insertSorted name value).get? name = some value := by
  induction items with
  | nil => simp [insertSorted, get?]
  | cons item rest ih =>
    obtain ⟨other, kept⟩ := item
    rw [insertSorted]
    split
    · simp [get?]
    · split
      · simp [get?]
      · next h =>
        rw [get?, List.find?_cons_of_neg (by simpa using Ne.symm h)]
        exact ih

theorem get?_insertSorted_of_ne (items : Keyed α) {name other : String} (value : α) (h : other ≠ name) :
    (items.insertSorted name value).get? other = items.get? other := by
  have skip (rest : Keyed α) : get? ((name, value) :: rest) other = get? rest other := by
    rw [get?, List.find?_cons_of_neg (by simpa using Ne.symm h), get?]
  induction items with
  | nil => exact skip []
  | cons item rest ih =>
    obtain ⟨first, kept⟩ := item
    rw [insertSorted]
    split
    · exact skip _
    · split
      · next hf =>
        subst hf
        rw [skip, get?, get?, List.find?_cons_of_neg (by simpa using Ne.symm h)]
      · by_cases ho : first = other
        · simp [get?, ho]
        · rw [get?, List.find?_cons_of_neg (by simpa using ho), get?,
            List.find?_cons_of_neg (by simpa using ho)]
          exact ih

end Keyed
end RequestQuery
