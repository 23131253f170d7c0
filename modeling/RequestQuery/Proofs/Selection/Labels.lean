import Mathlib.Data.List.Dedup
import RequestQuery.Proofs.Json.RoundTrip
import RequestQuery.SelectOption

/-! # Labels by value

The labels of some things stand under the names of their values.  A text is its own name
and any other value is named by its document, so that two texts, and two values that are
no texts, have one name only if they are the same (`SelectOption.nameOf_eq_iff`).  A text
can have the name of another value, as `5` has that of a number.

The things come into the list one after the other, and each takes the place of the one
before it that has its name.  So there is one label for each value, that of the last thing
of the value (`Selectable.labels_of_values`).
-/
namespace RequestQuery

namespace Json

/-- A value that is a text. -/
def IsText (v : Json) : Prop := ∃ s, v = string s

end Json

namespace SelectOption

/-- The name of a value. -/
def nameOf (v : Json) : String := key ⟨v, ""⟩

theorem key_eq_nameOf (o : SelectOption) : o.key = nameOf o.value := rfl

theorem nameOf_of_not_isText {v : Json} (h : ¬ v.IsText) : nameOf v = v.print := by
  rw [nameOf, key]
  split
  · next s hs => exact absurd ⟨s, hs⟩ h
  · rfl

/-- Names tell texts apart, and values that are no texts. -/
theorem nameOf_eq_iff {v w : Json} (hv : v.IsExact) (hw : w.IsExact) (hkind : v.IsText ↔ w.IsText) :
    nameOf v = nameOf w ↔ v = w := by
  by_cases htext : v.IsText
  · obtain ⟨s, rfl⟩ := htext
    obtain ⟨t, rfl⟩ := hkind.mp ⟨s, rfl⟩
    exact (Json.string.injEq s t).symm.to_iff
  · rw [nameOf_of_not_isText htext, nameOf_of_not_isText (mt hkind.mpr htext), hv.print_inj hw]

/-- An option is its own option. -/
instance : Selectable SelectOption where
  selector o := o

end SelectOption

namespace Selectable

variable {α : Type} [Selectable α] {things : List α} {v : Json}

open Classical in
/-- The values of some things, each once. -/
noncomputable def values (things : List α) : List Json :=
  (things.map fun a => (selector a).value).dedup

open Classical in
theorem mem_values : v ∈ values things ↔ ∃ a ∈ things, (selector a).value = v := by
  rw [values, List.mem_dedup, List.mem_map]

open Classical in
theorem nodup_values (things : List α) : (values things).Nodup := List.nodup_dedup _

/-- A thing is the last one of a value. -/
def IsLastOf (things : List α) (v : Json) (a : α) : Prop :=
  (selector a).value = v ∧ ∃ before after, things = before ++ a :: after ∧
    ∀ b ∈ after, (selector b).value ≠ v

/-- A value among some things is that of a last one. -/
theorem exists_isLastOf (h : v ∈ values things) : ∃ a, IsLastOf things v a := by
  rw [mem_values] at h
  induction things with
  | nil => simp at h
  | cons a rest ih =>
    by_cases hrest : ∃ b ∈ rest, (selector b).value = v
    · obtain ⟨b, hb, before, after, rfl, hafter⟩ := ih hrest
      exact ⟨b, hb, a :: before, after, rfl, hafter⟩
    · obtain ⟨b, hb, hvalue⟩ := h
      rcases List.mem_cons.mp hb with rfl | hb
      · refine ⟨b, hvalue, [], rest, rfl, fun c hc heq => hrest ⟨c, hc, heq⟩⟩
      · exact absurd ⟨b, hb, hvalue⟩ hrest

/-- Where names tell the values apart, the last thing of a value gives the label under its name. -/
theorem get?_labels {a : α} (hname : ∀ b ∈ things, SelectOption.nameOf (selector b).value = SelectOption.nameOf v →
    (selector b).value = v) (h : IsLastOf things v a) :
    (labels things).get? (SelectOption.nameOf v) = some (selector a).label := by
  obtain ⟨hvalue, before, after, rfl, hafter⟩ := h
  have hnone : Keyed.get? (after.map fun b => ((selector b).key, (selector b).label)).reverse
      (SelectOption.nameOf v) = none := by
    rw [Keyed.get?_eq_none_iff, Keyed.names, List.map_reverse, List.mem_reverse, List.map_map, List.mem_map]
    rintro ⟨b, hb, heq⟩
    exact hafter b hb (hname b (by simp [hb]) heq)
  rw [labels, Keyed.get?_sorted, Keyed.last?, List.map_append, List.map_cons, List.reverse_append,
    List.reverse_cons, List.append_assoc, Keyed.get?_append, hnone, Option.none_or,
    SelectOption.key_eq_nameOf, hvalue]
  simp [Keyed.get?]

/-- **One label for each value.**  The names of the labels of some things, all of them texts or none, are
those of their values, each once and in ascending order; and under the name of a value stands the label of
the last thing of it. -/
theorem labels_of_values (hexact : ∀ a ∈ things, (selector a).value.IsExact)
    (hkind : (∀ a ∈ things, (selector a).value.IsText) ∨ ∀ a ∈ things, ¬ (selector a).value.IsText) :
    (labels things).names.Perm ((values things).map SelectOption.nameOf) ∧
      (labels things).names.Pairwise (· < ·) ∧
      ∀ v ∈ values things, ∃ a, IsLastOf things v a ∧
        (labels things).get? (SelectOption.nameOf v) = some (selector a).label := by
  have hname : ∀ a ∈ things, ∀ b ∈ things,
      SelectOption.nameOf (selector a).value = SelectOption.nameOf (selector b).value →
        (selector a).value = (selector b).value := by
    intro a ha b hb
    refine (SelectOption.nameOf_eq_iff (hexact a ha) (hexact b hb) ?_).mp
    rcases hkind with htexts | hothers
    · exact iff_of_true (htexts a ha) (htexts b hb)
    · exact iff_of_false (hothers a ha) (hothers b hb)
  refine ⟨?_, Keyed.pairwise_names_sorted _, fun v hv => ?_⟩
  · have hnames : (labels things).names.Nodup := (Keyed.pairwise_names_sorted _).imp ne_of_lt
    have hvalues : ((values things).map SelectOption.nameOf).Nodup := by
      refine (nodup_values things).map_on fun v hv w hw => ?_
      obtain ⟨a, ha, rfl⟩ := mem_values.mp hv
      obtain ⟨b, hb, rfl⟩ := mem_values.mp hw
      exact hname a ha b hb
    refine (List.perm_ext_iff_of_nodup hnames hvalues).mpr fun name => ?_
    rw [labels, Keyed.mem_names_sorted, Keyed.names, List.map_map]
    simp only [List.mem_map, mem_values]
    constructor
    · rintro ⟨a, ha, rfl⟩
      exact ⟨_, ⟨a, ha, rfl⟩, rfl⟩
    · rintro ⟨_, ⟨a, ha, rfl⟩, rfl⟩
      exact ⟨a, ha, rfl⟩
  · obtain ⟨a, hlast⟩ := exists_isLastOf hv
    refine ⟨a, hlast, get?_labels ?_ hlast⟩
    obtain ⟨b, hb, rfl⟩ := mem_values.mp hv
    exact fun c hc => hname c hc b hb

/-- A number that comes twice, beside a list. -/
theorem labels_of_values_repeated :
    let things : List SelectOption :=
      [⟨.ofInt 5, "five"⟩, ⟨.array [.null, .string "5"], "list"⟩, ⟨.ofInt 5, "again"⟩]
    (∀ a ∈ things, a.value.IsExact) ∧ (∀ a ∈ things, ¬ a.value.IsText) ∧
      (labels things).names = ["5", "[null,\"5\"]"] ∧
      (labels things).names.Perm ((values things).map SelectOption.nameOf) ∧
      ∃ a, IsLastOf things (.ofInt 5) a ∧ (labels things).get? "5" = some a.label := by
  intro things
  have hfive : (Json.ofInt 5).IsExact := .integer (by decide) (by decide)
  have hlist : (Json.array [.null, .string "5"]).IsExact := .array <| by simp [Json.IsExact.null, Json.IsExact.string]
  have hexact : ∀ a ∈ things, a.value.IsExact := by simp [things, hfive, hlist]
  have hkind : ∀ a ∈ things, ¬ a.value.IsText := by simp [things, Json.IsText, Json.ofInt]
  obtain ⟨hperm, -, hlabel⟩ := labels_of_values hexact (.inr hkind)
  obtain ⟨a, hlast, hget⟩ := hlabel (.ofInt 5) (mem_values.mpr ⟨_, List.mem_cons_self, rfl⟩)
  have hname : SelectOption.nameOf (.ofInt 5) = "5" := by decide +kernel
  exact ⟨hexact, hkind, by decide +kernel, hperm, a, hlast, hname ▸ hget⟩

/-- A text and a number that have one name share a label. -/
example : labels ([⟨.string "5", "text"⟩, ⟨.ofInt 5, "number"⟩] : List SelectOption) = [("5", "number")] := by
  decide +kernel

end Selectable
end RequestQuery
