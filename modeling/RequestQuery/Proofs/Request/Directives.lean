import RequestQuery.Proofs.Request.Parameters
import RequestQuery.Proofs.Text.Trim

/-! # Writing directives

A directive is written as its sign and its field.  The sign stands in front, so nothing
that the field begins with can be taken for a sign or for blanks around the word, and the
word of an empty field is not empty.  Only a comma, or a blank at the end, is lost: a
list of directives comes back from its words, with any blanks around them, exactly if no
field has one (`sortParam_words_iff`).  The directives of whatever text have none
(`isLegible_of_mem_sortParam`), so each text has a plainest form, which says the same
(`sortParam_plain`).
-/
namespace RequestQuery

namespace SortDirective

variable {d : SortDirective}

/-- The sign of a direction. -/
def sign : Direction → Char
  | .ascending => '+'
  | .descending => '-'

/-- The word of a directive: the sign of its direction and its field. -/
def word (d : SortDirective) : String :=
  String.ofList (sign d.direction :: d.field.toList)

theorem toList_word (d : SortDirective) : d.word.toList = sign d.direction :: d.field.toList :=
  String.toList_ofList

/-- One sign is taken off, whatever the field begins with. -/
theorem ofToken_word (d : SortDirective) : ofToken d.word.toList = d := by
  obtain ⟨field, direction⟩ := d
  rw [toList_word]
  cases direction with
  | ascending => exact congrArg (SortDirective.mk · .ascending) String.ofList_toList
  | descending => exact congrArg (SortDirective.mk · .descending) String.ofList_toList

/-- The field of a token is what follows its sign, if it has one. -/
theorem field_ofToken_suffix (token : List Char) : (ofToken token).field.toList <:+ token := by
  have hfield (s : List Char) : (String.ofList s).toList <:+ s := by
    refine ⟨[], ?_⟩
    rw [String.toList_ofList, List.nil_append]
  unfold ofToken
  split
  · exact (hfield _).trans (List.suffix_cons '-' _)
  · exact (hfield _).trans (List.suffix_cons '+' _)
  · exact hfield token

/-- A directive whose field can be read from a text with commas between words. -/
structure IsLegible (d : SortDirective) : Prop where
  not_mem : ',' ∉ d.field.toList
  end_not_blank : ∀ c ∈ d.field.toList.getLast?, Text.isBlank c = false

theorem isLegible_iff :
    d.IsLegible ↔
      ',' ∉ d.field.toList ∧ (d.field.toList.getLast?.all fun c => !Text.isBlank c) = true := by
  constructor
  · rintro ⟨hcomma, hend⟩
    exact ⟨hcomma, by simpa [Option.all_eq_true] using hend⟩
  · rintro ⟨hcomma, hend⟩
    exact ⟨hcomma, by simpa [Option.all_eq_true] using hend⟩

instance : Decidable d.IsLegible := decidable_of_iff _ isLegible_iff.symm

theorem IsLegible.not_mem_word (h : d.IsLegible) : ',' ∉ d.word.toList := by
  have hsign : ',' ≠ sign d.direction := by cases d.direction <;> decide
  rw [toList_word]
  exact List.not_mem_cons_of_ne_of_not_mem hsign h.not_mem

/-- The word begins with its sign and ends with its sign or as the field does. -/
theorem IsLegible.trim_word (h : d.IsLegible) : Text.trim d.word = d.word := by
  have hsign : Text.isBlank (sign d.direction) = false := by cases d.direction <;> decide
  rw [← String.toList_inj, Text.toList_trim, Text.trimChars_eq_self_iff, toList_word]
  constructor
  · rintro c ⟨⟩
    exact hsign
  · intro c hc
    rw [List.getLast?_cons, Option.mem_some_iff] at hc
    cases hlast : d.field.toList.getLast? with
    | none =>
      rw [hlast] at hc
      exact hc ▸ hsign
    | some last =>
      rw [hlast] at hc
      exact hc ▸ h.end_not_blank last hlast

end SortDirective

/-! ## Reading -/

/-- What is read from a text can be written. -/
theorem isLegible_of_mem_sortParam {sort : String} {d : SortDirective} (h : d ∈ sortParam sort) :
    d.IsLegible := by
  obtain ⟨token, htoken, rfl⟩ := List.mem_map.mp h
  obtain ⟨hmem, -⟩ := List.mem_filter.mp htoken
  obtain ⟨piece, hpiece, rfl⟩ := List.mem_map.mp hmem
  have hfield := SortDirective.field_ofToken_suffix (Text.trimChars piece)
  constructor
  case not_mem =>
    intro hcomma
    obtain ⟨before, after, -, -, hsplit⟩ := Text.exists_blanks piece
    apply Text.not_mem_of_mem_pieces hpiece
    rw [hsplit]
    exact List.mem_append_left _ (List.mem_append_right _ (hfield.subset hcomma))
  case end_not_blank =>
    obtain ⟨-, hend⟩ := Text.trimChars_eq_self_iff.mp (Text.trimChars_trimChars piece)
    obtain ⟨sign, hsign⟩ := hfield
    intro c hc
    apply hend
    rw [← hsign, List.getLast?_append, hc]
    rfl

theorem sortParam_empty : sortParam "" = [] := by
  rw [sortParam, Text.pieces_of_cut?_none rfl]
  rfl

variable {words : List String} {directives : List SortDirective}

/-- Directives that can be written come back from their words. -/
theorem sortParam_words (hlegible : ∀ d ∈ directives, d.IsLegible)
    (hwords : List.Forall₂ Text.IsPadded words (directives.map SortDirective.word)) :
    sortParam (",".intercalate words) = directives := by
  by_cases hne : words = []
  · subst hne
    rw [List.forall₂_nil_left_iff, List.map_eq_nil_iff] at hwords
    subst hwords
    exact sortParam_empty
  · have hcomma : ∀ word ∈ directives.map SortDirective.word, ',' ∉ word.toList := by
      intro word hword
      obtain ⟨d, hd, rfl⟩ := List.mem_map.mp hword
      exact (hlegible d hd).not_mem_word
    have htrimmed : words.map Text.trim = directives.map SortDirective.word := by
      rw [Text.map_trim_of_padded hwords, List.map_map]
      exact List.map_congr_left fun d hd => (hlegible d hd).trim_word
    have hkept : (directives.map SortDirective.word).filter (!·.isEmpty) =
        directives.map SortDirective.word := by
      rw [List.filter_eq_self]
      intro word hword
      obtain ⟨d, -, rfl⟩ := List.mem_map.mp hword
      simp [SortDirective.word]
    rw [sortParam_intercalate hne (Text.apart_of_padded hwords rfl (by decide) hcomma), htrimmed, hkept,
      List.map_map]
    exact (List.map_congr_left fun d _ => d.ofToken_word).trans (List.map_id' directives)

/-- **Directives come back from their words**, with commas between the words and any blanks around them,
exactly if no field has a comma in it or a blank at its end. -/
theorem sortParam_words_iff (words : List String) (directives : List SortDirective)
    (hwords : List.Forall₂ Text.IsPadded words (directives.map SortDirective.word)) :
    sortParam (",".intercalate words) = directives ↔ ∀ d ∈ directives, d.IsLegible := by
  constructor
  · intro h d hd
    rw [← h] at hd
    exact isLegible_of_mem_sortParam hd
  · exact fun hlegible => sortParam_words hlegible hwords

/-- Fields that begin with signs or with a blank, an empty one, and blanks of several kinds around the
words; a blank at the end of a field is lost. -/
theorem sortParam_words_iff_signs :
    let directives : List SortDirective :=
      [⟨"-a", .descending⟩, ⟨"", .ascending⟩, ⟨" +b", .ascending⟩, ⟨"", .descending⟩]
    List.Forall₂ Text.IsPadded ["--a\t", " +", "+ +b", "\n-"] (directives.map SortDirective.word) ∧
      sortParam "--a\t, +,+ +b,\n-" = directives ∧
      sortParam "-a " ≠ [⟨"a ", .descending⟩] := by
  intro directives
  have hwords : List.Forall₂ Text.IsPadded ["--a\t", " +", "+ +b", "\n-"]
      (directives.map SortDirective.word) :=
    .cons ⟨"", "\t", by decide, by decide, by decide⟩ (.cons ⟨" ", "", by decide, by decide, by decide⟩
      (.cons (.refl _) (.cons ⟨"\n", "", by decide, by decide, by decide⟩ .nil)))
  have htext : ",".intercalate ["--a\t", " +", "+ +b", "\n-"] = "--a\t, +,+ +b,\n-" := by decide
  have hread := (sortParam_words_iff _ directives hwords).mpr (by decide)
  rw [htext] at hread
  refine ⟨hwords, hread, fun hblank => ?_⟩
  have hlegible := (sortParam_words_iff ["-a "] [⟨"a ", .descending⟩] (.cons (.refl _) .nil)).mp hblank
  exact absurd hlegible (by decide)

/-- A text says the same with a sign in front of every field, without blanks and without empty words. -/
theorem sortParam_plain (sort : String) :
    sortParam (",".intercalate ((sortParam sort).map SortDirective.word)) = sortParam sort :=
  sortParam_words (fun _ => isLegible_of_mem_sortParam) (List.forall₂_same.mpr fun word _ => .refl word)

end RequestQuery
