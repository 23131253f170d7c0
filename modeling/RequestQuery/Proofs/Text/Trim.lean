import RequestQuery.Proofs.Text.Joined

/-! # Trimming words

Blanks around a text do not count, whoever trims them: the text as a whole before it is
cut into words, or each word afterwards.  So trimming the whole first changes nothing
for the words (`map_trim_splitAt_trim`).
-/
namespace RequestQuery
namespace Text

/-- There is nothing but blanks. -/
def IsBlankText (s : List Char) : Prop := ∀ c ∈ s, isBlank c = true

instance (s : List Char) : Decidable (IsBlankText s) :=
  List.decidableBAll (fun c => isBlank c = true) s

theorem IsBlankText.not_mem {blanks : List Char} (h : IsBlankText blanks) {c : Char}
    (hc : isBlank c = false) : c ∉ blanks := by
  intro hmem
  rw [h c hmem] at hc
  cases hc

section
variable {s blanks : List Char} (h : IsBlankText blanks)
include h

theorem trimChars_append_left : trimChars (blanks ++ s) = trimChars s := by
  rw [trimChars, stripWhile, List.dropWhile_append_of_pos h]
  rfl

theorem trimChars_append_right : trimChars (s ++ blanks) = trimChars s := by
  have hdrop (t : List Char) : dropEndWhile isBlank (t ++ blanks) = dropEndWhile isBlank t := by
    have hreverse : ∀ c ∈ blanks.reverse, isBlank c = true := fun c hc => h c (List.mem_reverse.mp hc)
    rw [dropEndWhile, List.reverse_append, List.dropWhile_append_of_pos hreverse]
    rfl
  rw [trimChars, stripWhile, List.dropWhile_append]
  split
  · next hempty =>
    -- there are blanks only
    have hnothing : blanks.dropWhile isBlank = [] := List.dropWhile_eq_nil_iff.mpr h
    rw [hnothing, trimChars, stripWhile, List.isEmpty_iff.mp hempty]
  · rw [hdrop]
    rfl

omit h

/-- Trimming drops blanks from both ends. -/
theorem exists_blanks (s : List Char) :
    ∃ before after, IsBlankText before ∧ IsBlankText after ∧ s = before ++ trimChars s ++ after := by
  obtain ⟨after, hafter, hblank⟩ := dropEndWhile_append isBlank (s.dropWhile isBlank)
  refine ⟨s.takeWhile isBlank, after, fun c hc => List.all_eq_true.mp List.all_takeWhile c hc, hblank, ?_⟩
  rw [List.append_assoc, trimChars, stripWhile, ← hafter, List.takeWhile_append_dropWhile]

end

/-! ## Words between separators -/

section
variable {c : Char} (hc : isBlank c = false)
include hc

theorem cut?_append_of_isBlankText {s before rest blanks : List Char} (h : IsBlankText blanks)
    (hcut : cut? [c] s = some (before, rest)) : cut? [c] (blanks ++ s) = some (blanks ++ before, rest) := by
  have hnot : c ∉ blanks ++ before := by simp [h.not_mem hc, not_mem_of_cut?_singleton hcut]
  have hapart : ∀ d ∈ blanks ++ before, d ∉ [c] := fun d hd hmem =>
    hnot (List.mem_singleton.mp hmem ▸ hd)
  have hfound := cut?_append (List.cons_ne_nil c []) hapart rest
  rw [cut?_eq_some hcut, List.append_assoc, ← List.append_assoc blanks]
  exact hfound

theorem cut?_eq_none_of_isBlankText {s before after : List Char} (hbefore : IsBlankText before)
    (hafter : IsBlankText after) (hcut : cut? [c] s = none) : cut? [c] (before ++ s ++ after) = none := by
  rw [cut?_singleton_eq_none_iff] at hcut ⊢
  simp [hbefore.not_mem hc, hafter.not_mem hc, hcut]

theorem map_trimChars_pieces_append_left {blanks : List Char} (h : IsBlankText blanks) (s : List Char) :
    (pieces [c] (blanks ++ s)).map trimChars = (pieces [c] s).map trimChars := by
  cases hcut : cut? [c] s with
  | none =>
    have hnone := cut?_eq_none_of_isBlankText hc h (List.forall_mem_nil _) hcut
    rw [List.append_nil] at hnone
    rw [pieces_of_cut?_none hcut, pieces_of_cut?_none hnone, List.map_singleton, List.map_singleton,
      trimChars_append_left h]
  | some parts =>
    rw [pieces_of_cut?_some hcut, pieces_of_cut?_some (cut?_append_of_isBlankText hc h hcut), List.map_cons,
      List.map_cons, trimChars_append_left h]

theorem map_trimChars_pieces_append_right {blanks : List Char} (h : IsBlankText blanks) (s : List Char) :
    (pieces [c] (s ++ blanks)).map trimChars = (pieces [c] s).map trimChars := by
  fun_induction pieces [c] s with
  | case1 s hcut =>
    have hnone := cut?_eq_none_of_isBlankText hc (List.forall_mem_nil _) h hcut
    rw [List.nil_append] at hnone
    rw [pieces_of_cut?_none hnone, List.map_singleton, List.map_singleton, trimChars_append_right h]
  | case2 s before rest hcut ih =>
    rw [pieces_of_cut?_some (cut?_append_right hcut blanks), List.map_cons, List.map_cons, ih]

/-- Trimming a text before it is cut changes nothing for trimmed words. -/
theorem map_trimChars_pieces_trimChars (s : List Char) :
    (pieces [c] (trimChars s)).map trimChars = (pieces [c] s).map trimChars := by
  obtain ⟨before, after, hbefore, hafter, hs⟩ := exists_blanks s
  conv_rhs => rw [hs]
  rw [map_trimChars_pieces_append_right hc hafter, map_trimChars_pieces_append_left hc hbefore]

/-- **Trimming a text** before it is cut into words changes nothing for trimmed words. -/
theorem map_trim_splitAt_trim {sep : String} (hsep : sep.toList = [c]) (s : String) :
    (splitAt sep (trim s)).map trim = (splitAt sep s).map trim := by
  have hchars (t : String) :
      (splitAt sep t).map trim = ((pieces [c] t.toList).map trimChars).map String.ofList := by
    rw [splitAt, hsep, List.map_map, List.map_map]
    refine List.map_congr_left fun piece _ => ?_
    rw [Function.comp_apply, Function.comp_apply, trim, String.toList_ofList]
  rw [hchars, hchars, toList_trim, map_trimChars_pieces_trimChars hc]

end

/-! ## Words with blanks around them -/

/-- The word with blanks around it. -/
def IsPadded (padded word : String) : Prop :=
  ∃ before after : String, IsBlankText before.toList ∧ IsBlankText after.toList ∧
    padded = before ++ word ++ after

theorem IsPadded.trim_eq {padded word : String} (h : IsPadded padded word) : trim padded = trim word := by
  obtain ⟨before, after, hbefore, hafter, rfl⟩ := h
  rw [← String.toList_inj, toList_trim, toList_trim, String.toList_append, String.toList_append,
    trimChars_append_right hafter, trimChars_append_left hbefore]

theorem IsPadded.not_mem {padded word : String} (h : IsPadded padded word) {c : Char}
    (hc : isBlank c = false) (hword : c ∉ word.toList) : c ∉ padded.toList := by
  obtain ⟨before, after, hbefore, hafter, rfl⟩ := h
  simp [hbefore.not_mem hc, hafter.not_mem hc, hword]

theorem IsPadded.refl (word : String) : IsPadded word word :=
  ⟨"", "", List.forall_mem_nil _, List.forall_mem_nil _, by rw [String.empty_append, String.append_empty]⟩

section
variable {words padded : List String} (h : List.Forall₂ IsPadded padded words)
include h

theorem map_trim_of_padded : padded.map trim = words.map trim := by
  induction h with
  | nil => rfl
  | cons hpadded _ ih => rw [List.map_cons, List.map_cons, hpadded.trim_eq, ih]

/-- Words without a separator that is no blank stay apart from it with blanks around them. -/
theorem apart_of_padded {sep : String} {c : Char} (hsep : sep.toList = [c]) (hc : isBlank c = false)
    (hwords : ∀ word ∈ words, c ∉ word.toList) : ∀ text ∈ padded, Apart text sep := by
  induction h with
  | nil => exact List.forall_mem_nil _
  | cons hpadded _ ih =>
    obtain ⟨hword, hrest⟩ := List.forall_mem_cons.mp hwords
    refine List.forall_mem_cons.mpr ⟨?_, ih hrest⟩
    intro d hd hmem
    rw [hsep, List.mem_singleton] at hmem
    exact hpadded.not_mem hc hword (hmem ▸ hd)

end

end Text
end RequestQuery
