import Mathlib.Data.List.DropRight
import Mathlib.Data.List.TakeDrop
import RequestQuery.Text.Blank
import RequestQuery.Text.Split

/-! # Cutting what was joined

A separator may overlap itself, and its first character may stand alone in a text
without the separator being there.  Neither matters for texts that share no
character with it: between them the separator is found where it was put, and
nowhere else.  So cutting undoes joining, the empty text included
(`splitAt_intercalate`), and what stands in front of a first separator is found
again, whatever follows (`cutAt?_append`).  Cutting at the last place of a character
finds what stands behind it (`cutLast?_eq_some_iff`).
-/
namespace RequestQuery
namespace Text

/-! ## Trimming twice -/

theorem dropWhile_eq_self_iff {p : Char → Bool} {s : List Char} :
    s.dropWhile p = s ↔ ∀ c ∈ s.head?, p c = false := by
  rw [List.dropWhile_eq_self_iff]
  cases s <;> simp

theorem dropEndWhile_eq_self_iff {p : Char → Bool} {s : List Char} :
    dropEndWhile p s = s ↔ ∀ c ∈ s.getLast?, p c = false := by
  rw [dropEndWhile, List.reverse_eq_iff, dropWhile_eq_self_iff, List.head?_reverse]

section
variable (p : Char → Bool) (s : List Char)

theorem dropWhile_stripWhile : (stripWhile p s).dropWhile p = stripWhile p s := by
  rw [List.dropWhile_eq_self_iff]
  intro hpos
  -- what is kept begins as the text does once what is dropped in front is gone
  have hbegins : stripWhile p s <+: s.dropWhile p := List.rdropWhile_prefix p _
  rw [hbegins.getElem hpos]
  exact List.dropWhile_get_zero_not p s _

theorem dropEndWhile_stripWhile : dropEndWhile p (stripWhile p s) = stripWhile p s :=
  List.rdropWhile_idempotent p _

theorem stripWhile_stripWhile : stripWhile p (stripWhile p s) = stripWhile p s := by
  calc stripWhile p (stripWhile p s)
      = dropEndWhile p ((stripWhile p s).dropWhile p) := rfl
    _ = stripWhile p s := by rw [dropWhile_stripWhile, dropEndWhile_stripWhile]

theorem stripWhile_infix_self : stripWhile p s <:+: s :=
  (List.rdropWhile_prefix p (s.dropWhile p)).isInfix.trans (List.dropWhile_suffix p).isInfix

end

/-- A text is left alone if it neither begins nor ends with what is dropped, and only then. -/
theorem stripWhile_eq_self_iff {p : Char → Bool} {s : List Char} :
    stripWhile p s = s ↔ (∀ c ∈ s.head?, p c = false) ∧ ∀ c ∈ s.getLast?, p c = false := by
  constructor
  · intro h
    have hfront := dropWhile_stripWhile p s
    have hend := dropEndWhile_stripWhile p s
    rw [h] at hfront hend
    exact ⟨dropWhile_eq_self_iff.mp hfront, dropEndWhile_eq_self_iff.mp hend⟩
  · rintro ⟨hfront, hend⟩
    rw [stripWhile, dropWhile_eq_self_iff.mpr hfront, dropEndWhile_eq_self_iff.mpr hend]

theorem trimChars_trimChars (s : List Char) : trimChars (trimChars s) = trimChars s :=
  stripWhile_stripWhile isBlank s

theorem trimChars_eq_self_iff {s : List Char} :
    trimChars s = s ↔ (∀ c ∈ s.head?, isBlank c = false) ∧ ∀ c ∈ s.getLast?, isBlank c = false :=
  stripWhile_eq_self_iff

@[simp] theorem trim_trim (s : String) : trim (trim s) = trim s := by
  rw [← String.toList_inj, toList_trim, toList_trim, trimChars_trimChars]

/-! ## Texts that share no character -/

/-- The texts share no character. -/
def Apart (s t : String) : Prop := ∀ c ∈ s.toList, c ∉ t.toList

instance (s t : String) : Decidable (Apart s t) :=
  List.decidableBAll (fun c => c ∉ t.toList) s.toList

theorem apart_append {s t u : String} : Apart (s ++ t) u ↔ Apart s u ∧ Apart t u := by
  simp only [Apart, String.toList_append, List.mem_append, or_imp, forall_and]

section
variable {sep s : List Char}

/-- A separator does not begin at a character that it does not have. -/
theorem after?_cons_eq_none {c : Char} (hsep : sep ≠ []) (hc : c ∉ sep) (rest : List Char) :
    after? sep (c :: rest) = none := by
  cases sep with
  | nil => exact absurd rfl hsep
  | cons d sep =>
    rw [after?, if_neg]
    rintro rfl
    exact hc List.mem_cons_self

theorem cut?_eq_none (hsep : sep ≠ []) (h : ∀ c ∈ s, c ∉ sep) : cut? sep s = none := by
  induction s with
  | nil => rfl
  | cons c s ih =>
    obtain ⟨hc, hs⟩ := List.forall_mem_cons.mp h
    rw [cut?, if_neg (by simpa using hsep), after?_cons_eq_none hsep hc, ih hs]
    rfl

/-- The separator behind such a text is the first one. -/
theorem cut?_append (hsep : sep ≠ []) (h : ∀ c ∈ s, c ∉ sep) (rest : List Char) :
    cut? sep (s ++ (sep ++ rest)) = some (s, rest) := by
  induction s with
  | nil =>
    obtain ⟨d, more, hd⟩ := List.exists_cons_of_ne_nil (List.append_ne_nil_of_left_ne_nil hsep rest)
    rw [List.nil_append, hd, cut?, if_neg (by simpa using hsep), ← hd, after?_append]
  | cons c s ih =>
    obtain ⟨hc, hs⟩ := List.forall_mem_cons.mp h
    rw [List.cons_append, cut?, if_neg (by simpa using hsep), after?_cons_eq_none hsep hc, ih hs]
    rfl

/-- Cutting undoes joining. -/
theorem pieces_intercalate {items : List (List Char)} (hsep : sep ≠ []) (hitems : items ≠ [])
    (h : ∀ s ∈ items, ∀ c ∈ s, c ∉ sep) : pieces sep (sep.intercalate items) = items := by
  induction items with
  | nil => exact absurd rfl hitems
  | cons s rest ih =>
    obtain ⟨hs, hrest⟩ := List.forall_mem_cons.mp h
    cases rest with
    | nil =>
      rw [List.intercalate_singleton, pieces_of_cut?_none (cut?_eq_none hsep hs)]
    | cons s' rest =>
      rw [List.intercalate_cons_cons, List.append_assoc, pieces_of_cut?_some (cut?_append hsep hs _),
        ih (List.cons_ne_nil s' rest) hrest]

/-! ## First occurrences -/

variable {before rest before' rest' : List Char}

/-- No occurrence is further in front than the one that is found. -/
theorem length_le_of_cut? (h : cut? sep s = some (before, rest)) (heq : s = before' ++ sep ++ rest') :
    before.length ≤ before'.length := by
  induction s generalizing before before' with
  | nil => cases h
  | cons c s ih =>
    have hsep : ¬ sep.isEmpty = true := by simpa using sep_ne_nil_of_cut? h
    rw [cut?, if_neg hsep] at h
    cases hafter : after? sep (c :: s) with
    | some rest =>
      rw [hafter] at h
      cases h
      exact Nat.zero_le _
    | none =>
      rw [hafter] at h
      obtain ⟨⟨b, r⟩, hb, hcut⟩ := Option.map_eq_some_iff.mp h
      cases hcut
      cases before' with
      | nil =>
        -- the text does not begin with the separator
        rw [heq, List.nil_append, after?_append] at hafter
        cases hafter
      | cons d before' =>
        obtain ⟨-, htail⟩ := List.cons.inj heq
        exact Nat.succ_le_succ (ih hb htail)

/-- A separator that occurs is found. -/
theorem isSome_cut?_append (hsep : sep ≠ []) (before rest : List Char) :
    (cut? sep (before ++ sep ++ rest)).isSome := by
  induction before with
  | nil =>
    obtain ⟨c, more, hc⟩ := List.exists_cons_of_ne_nil (List.append_ne_nil_of_left_ne_nil hsep rest)
    rw [List.nil_append, hc, cut?, if_neg (by simpa using hsep), ← hc, after?_append]
    rfl
  | cons c before ih =>
    rw [List.cons_append, List.cons_append, cut?, if_neg (by simpa using hsep)]
    split
    · rfl
    · rwa [Option.isSome_map]

end

/-! ## Last occurrences of a character -/

theorem cutLast?_eq_some_iff {c : Char} {s before rest : List Char} :
    cutLast? c s = some (before, rest) ↔ s = before ++ c :: rest ∧ c ∉ rest := by
  have hspan : s.reverse.span (· != c) = (s.reverse.takeWhile (· != c), s.reverse.dropWhile (· != c)) :=
    List.span_eq_takeWhile_dropWhile _ _
  constructor
  · intro h
    rw [cutLast?, hspan] at h
    split at h
    · cases h
    · next tail d head heq =>
      obtain ⟨htail, hhead⟩ := Prod.mk.inj heq
      cases h
      have hd : d = c := by
        have := List.head?_dropWhile_not (· != c) s.reverse
        rw [hhead] at this
        simpa using this
      have hs : s.reverse = tail ++ d :: head := by
        rw [← htail, ← hhead, List.takeWhile_append_dropWhile]
      refine ⟨?_, fun hmem => ?_⟩
      · rw [← List.reverse_inj, hs, hd]
        simp
      · rw [List.mem_reverse, ← htail] at hmem
        simpa using List.all_eq_true.mp List.all_takeWhile c hmem
  · rintro ⟨rfl, hrest⟩
    have hkept : ∀ d ∈ rest.reverse, (d != c) = true := by
      intro d hd
      rw [bne_iff_ne]
      rintro rfl
      exact hrest (List.mem_reverse.mp hd)
    have hreverse : (before ++ c :: rest).reverse = rest.reverse ++ c :: before.reverse := by simp
    rw [cutLast?, hspan, hreverse, List.takeWhile_append_of_pos hkept, List.dropWhile_append_of_pos hkept]
    simp

theorem cutLast?_eq_none_iff {c : Char} {s : List Char} : cutLast? c s = none ↔ c ∉ s := by
  constructor
  · intro hnone hmem
    obtain ⟨tail, head, hs, htail⟩ := List.eq_append_cons_of_mem (List.mem_reverse.mpr hmem)
    have hcut : cutLast? c s = some (head.reverse, tail.reverse) := by
      refine cutLast?_eq_some_iff.mpr ⟨?_, mt List.mem_reverse.mp htail⟩
      rw [← List.reverse_inj, hs]
      simp
    rw [hnone] at hcut
    cases hcut
  · intro hnot
    by_contra hsome
    obtain ⟨⟨before, rest⟩, hcut⟩ := Option.ne_none_iff_exists'.mp hsome
    rw [(cutLast?_eq_some_iff.mp hcut).1] at hnot
    simp at hnot

/-! ## The same on texts -/

/-- The separator occurs in the text. -/
def Occurs (sep s : String) : Prop := ∃ before rest, s = before ++ sep ++ rest

/-- The first occurrence of the separator in the text is between the two parts. -/
structure FirstAt (sep s before rest : String) : Prop where
  eq : s = before ++ sep ++ rest
  first : ∀ before' rest', s = before' ++ sep ++ rest' → before.length ≤ before'.length

/-- There is one first occurrence only. -/
theorem FirstAt.unique {sep s before rest before' rest' : String} (h : FirstAt sep s before rest)
    (h' : FirstAt sep s before' rest') : before = before' ∧ rest = rest' := by
  have hlength : before.length = before'.length :=
    le_antisymm (h.first _ _ h'.eq) (h'.first _ _ h.eq)
  have heq : before.toList ++ (sep.toList ++ rest.toList) = before'.toList ++ (sep.toList ++ rest'.toList) := by
    have := congrArg String.toList (h.eq.symm.trans h'.eq)
    simpa only [String.toList_append, List.append_assoc] using this
  obtain ⟨hbefore, hrest⟩ := List.append_inj heq (by simpa only [String.length_toList] using hlength)
  exact ⟨String.toList_inj.mp hbefore, String.toList_inj.mp (List.append_cancel_left hrest)⟩

variable {sep s : String}

theorem cutAt?_eq_none (hsep : sep ≠ "") (h : Apart s sep) : cutAt? sep s = none := by
  rw [cutAt?, cut?_eq_none (mt String.toList_eq_nil_iff.mp hsep) h, Option.map_none]

/-- What stands in front of a separator is found again, whatever follows. -/
theorem cutAt?_append (hsep : sep ≠ "") (h : Apart s sep) (rest : String) :
    cutAt? sep (s ++ sep ++ rest) = some (s, rest) := by
  rw [cutAt?, String.toList_append, String.toList_append, List.append_assoc,
    cut?_append (mt String.toList_eq_nil_iff.mp hsep) h]
  simp only [Option.map_some, String.ofList_toList]

/-- **Cutting undoes joining**, for texts that share no character with the separator. -/
theorem splitAt_intercalate {items : List String} (hsep : sep ≠ "") (hitems : items ≠ [])
    (h : ∀ s ∈ items, Apart s sep) : splitAt sep (sep.intercalate items) = items := by
  have hchars : ∀ s ∈ items.map String.toList, ∀ c ∈ s, c ∉ sep.toList := by
    intro _ hmem
    obtain ⟨s, hs, rfl⟩ := List.mem_map.mp hmem
    exact h s hs
  rw [splitAt, String.toList_intercalate, pieces_intercalate (mt String.toList_eq_nil_iff.mp hsep)
    (mt List.map_eq_nil_iff.mp hitems) hchars, List.map_map]
  simp [Function.comp_def]

theorem firstAt_of_cutAt? {before rest : String} (h : cutAt? sep s = some (before, rest)) :
    FirstAt sep s before rest := by
  obtain ⟨⟨b, r⟩, hcut, hparts⟩ := Option.map_eq_some_iff.mp h
  cases hparts
  constructor
  case eq =>
    rw [← String.toList_inj, cut?_eq_some hcut]
    simp
  case first =>
    intro before' rest' heq
    have heq' : s.toList = before'.toList ++ sep.toList ++ rest'.toList := by
      rw [heq, String.toList_append, String.toList_append]
    simpa only [String.length_ofList, String.length_toList] using length_le_of_cut? hcut heq'

theorem cutAt?_eq_none_iff (hsep : sep ≠ "") : cutAt? sep s = none ↔ ¬ Occurs sep s := by
  constructor
  · rintro hnone ⟨before, rest, rfl⟩
    have hsome := isSome_cut?_append (mt String.toList_eq_nil_iff.mp hsep) before.toList rest.toList
    rw [cutAt?, Option.map_eq_none_iff, String.toList_append, String.toList_append] at hnone
    rw [hnone] at hsome
    cases hsome
  · intro hnot
    by_contra hsome
    obtain ⟨⟨before, rest⟩, hcut⟩ := Option.ne_none_iff_exists'.mp hsome
    exact hnot ⟨before, rest, (firstAt_of_cutAt? hcut).eq⟩

/-- A separator that occurs is found. -/
theorem exists_cutAt? (hsep : sep ≠ "") (h : Occurs sep s) :
    ∃ before rest, cutAt? sep s = some (before, rest) := by
  obtain ⟨⟨before, rest⟩, hcut⟩ :=
    Option.ne_none_iff_exists'.mp (mt (cutAt?_eq_none_iff hsep).mp (not_not.mpr h))
  exact ⟨before, rest, hcut⟩

/-- **The first occurrence is found**, and nothing else. -/
theorem cutAt?_eq_some_iff (hsep : sep ≠ "") {before rest : String} :
    cutAt? sep s = some (before, rest) ↔ FirstAt sep s before rest := by
  constructor
  · exact firstAt_of_cutAt?
  · intro h
    obtain ⟨before', rest', hcut⟩ := exists_cutAt? hsep ⟨before, rest, h.eq⟩
    obtain ⟨rfl, rfl⟩ := h.unique (firstAt_of_cutAt? hcut)
    exact hcut

/-- A separator that occurs has a first occurrence. -/
theorem exists_firstAt (hsep : sep ≠ "") (h : Occurs sep s) :
    ∃ before rest, FirstAt sep s before rest := by
  obtain ⟨before, rest, hcut⟩ := exists_cutAt? hsep h
  exact ⟨before, rest, firstAt_of_cutAt? hcut⟩

/-- Between three colons a pair of them occurs first behind one character, not behind two. -/
example : cutAt? "::" "a:::b" = some ("a", ":b") := by decide

end Text
end RequestQuery
