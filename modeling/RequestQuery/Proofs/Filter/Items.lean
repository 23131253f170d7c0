import RequestQuery.FilterValue
import RequestQuery.Proofs.Text.Split

/-! # Items of a joined value

The items of a list, and the ends of a range, stand in one text with the
separator between them.  If they share no character with the separator they are
found again: several of them trimmed, a single one as it is, since then there is
nothing to cut (`splitList_intercalate`, `splitRange?_intercalate`).  The empty
text alone is no list at all, but both ends of a range.
-/
namespace RequestQuery

/-! ## Texts that take effect -/

theorem orFallback_of_ne_empty {configured : String} (h : configured ≠ "") (fallback : String) :
    orFallback configured fallback = configured :=
  if_neg (mt String.isEmpty_iff.mp h)

theorem orFallback_ne_empty {fallback : String} (h : fallback ≠ "") (configured : String) :
    orFallback configured fallback ≠ "" := by
  rw [orFallback]
  split
  · exact h
  · next hconfigured => exact mt String.isEmpty_iff.mpr hconfigured

theorem FilterSettings.delimiterInUse_ne_empty (f : FilterSettings) : f.delimiterInUse ≠ "" :=
  orFallback_ne_empty (by decide) f.delimiter

theorem FilterSettings.separatorInUse_ne_empty (f : FilterSettings) : f.separatorInUse ≠ "" :=
  orFallback_ne_empty (by decide) f.separator

namespace RawValue

/-- The items as they are found in a joined text: several are trimmed, a single one is not. -/
def trimmedItems : List String → List String
  | [item] => [item]
  | items => items.map Text.trim

theorem trimmedItems_ne_nil {items : List String} (h : items ≠ []) : trimmedItems items ≠ [] := by
  match items, h with
  | [item], _ => exact List.cons_ne_nil item []
  | item :: item' :: rest, _ => exact List.cons_ne_nil _ _

variable {sep : String} {items : List String}

/-- The joined text is empty only if it is a single empty item. -/
theorem intercalate_eq_empty_iff (hsep : sep ≠ "") (hitems : items ≠ []) :
    sep.intercalate items = "" ↔ items = [""] := by
  rw [← String.toList_eq_nil_iff, String.toList_intercalate]
  match items, hitems with
  | [item], _ => simp
  | item :: item' :: rest, _ =>
    have hsep : sep.toList ≠ [] := mt String.toList_eq_nil_iff.mp hsep
    simp [List.intercalate_cons_cons, hsep]

theorem splitTrimmed_intercalate (hsep : sep ≠ "") (hitems : items ≠ [])
    (h : ∀ item ∈ items, Text.Apart item sep) :
    splitTrimmed (sep.intercalate items) sep = trimmedItems items := by
  rw [splitTrimmed, Text.splitAt_intercalate hsep hitems h]
  match items, hitems with
  | [item], _ => simp [trimmedItems]
  | item :: item' :: rest, _ => rfl

/-- **The items of a list** are found again. -/
theorem splitList_intercalate (hsep : sep ≠ "") (hitems : items ≠ [])
    (h : ∀ item ∈ items, Text.Apart item sep) :
    splitList (.single (sep.intercalate items)) sep = if items = [""] then [] else trimmedItems items := by
  have hempty : (sep.intercalate items).isEmpty = true ↔ items = [""] :=
    String.isEmpty_iff.trans (intercalate_eq_empty_iff hsep hitems)
  rw [splitList, splitTrimmed_intercalate hsep hitems h]
  exact ite_congr (propext hempty) (fun _ => rfl) fun _ => rfl

/-- **The ends of a range** are the first two items, or a single one twice. -/
theorem splitRange?_intercalate (hsep : sep ≠ "") (hitems : items ≠ [])
    (h : ∀ item ∈ items, Text.Apart item sep) :
    splitRange? (.single (sep.intercalate items)) sep = splitRange? (.list (trimmedItems items)) sep := by
  rw [splitRange?, splitTrimmed_intercalate hsep hitems h]
  rfl

/-- One item is both ends of a range. -/
theorem splitRange?_of_apart {a : String} (hsep : sep ≠ "") (ha : Text.Apart a sep) :
    splitRange? (.single a) sep = some (a, a) := by
  have hends := splitRange?_intercalate hsep (List.cons_ne_nil a []) (List.forall_mem_singleton.mpr ha)
  rwa [String.intercalate_singleton] at hends

/-- Two items are the ends of a range, trimmed. -/
theorem splitRange?_append {a b : String} (hsep : sep ≠ "") (ha : Text.Apart a sep)
    (hb : Text.Apart b sep) :
    splitRange? (.single (a ++ sep ++ b)) sep = some (Text.trim a, Text.trim b) := by
  have hends := splitRange?_intercalate hsep (List.cons_ne_nil a [b])
    (List.forall_mem_cons.mpr ⟨ha, List.forall_mem_singleton.mpr hb⟩)
  have hjoin : sep.intercalate [a, b] = a ++ sep ++ b := by simp
  rwa [hjoin] at hends

/-- An operand without the delimiter is one segment. -/
theorem firstSegment_of_apart {delimiter s : String} (hdelimiter : delimiter ≠ "")
    (h : Text.Apart s delimiter) : firstSegment (.single s) delimiter = Text.trim s := by
  rw [firstSegment, if_neg (mt String.isEmpty_iff.mp hdelimiter), operand,
    Text.cutAt?_eq_none hdelimiter h]

end RawValue
end RequestQuery
