/-! # Cutting texts at a separator

A separator is a non-empty text; the empty text separates nothing.  `cut?`
finds the first occurrence, `pieces` cuts at every one from left to right.
`cut?_eq_some` and `intercalate_pieces` say that nothing is lost: putting the
separator back between the pieces gives the text that was cut.
-/
namespace RequestQuery
namespace Text

/-- What follows the prelude, if the sequence begins with it. -/
def after? {α : Type} [DecidableEq α] : List α → List α → Option (List α)
  | [], s => some s
  | _ :: _, [] => none
  | c :: p, d :: s => if c = d then after? p s else none

theorem after?_eq_some {α : Type} [DecidableEq α] {p s rest : List α} (h : after? p s = some rest) : s = p ++ rest := by
  fun_induction after? p s with
  | case1 s => simpa using h
  | case2 => simp at h
  | case3 c p s ih => rw [ih h, List.cons_append]
  | case4 => simp at h

theorem length_le_of_after? {α : Type} [DecidableEq α] {p s rest : List α} (h : after? p s = some rest) :
    rest.length ≤ s.length := by
  rw [after?_eq_some h, List.length_append]
  exact Nat.le_add_left ..

theorem after?_append {α : Type} [DecidableEq α] (p rest : List α) : after? p (p ++ rest) = some rest := by
  induction p with
  | nil => rfl
  | cons c p ih => rw [List.cons_append, after?, if_pos rfl, ih]

/-- The texts before and after the first occurrence of `sep`. -/
def cut? (sep : List Char) : List Char → Option (List Char × List Char)
  | [] => none
  | c :: cs =>
    if sep.isEmpty then none
    else match after? sep (c :: cs) with
      | some rest => some ([], rest)
      | none => (cut? sep cs).map fun (before, rest) => (c :: before, rest)

/-- The separator stands between the two parts. -/
theorem cut?_eq_some {sep s before rest : List Char} (h : cut? sep s = some (before, rest)) :
    s = before ++ sep ++ rest := by
  induction s generalizing before with
  | nil => simp [cut?] at h
  | cons c cs ih =>
    rw [cut?] at h
    split at h
    · simp at h
    · split at h
      · next r hr =>
        simp only [Option.some.injEq, Prod.mk.injEq] at h
        obtain ⟨rfl, rfl⟩ := h
        simpa using after?_eq_some hr
      · obtain ⟨⟨b, r⟩, hb, he⟩ := Option.map_eq_some_iff.mp h
        simp only [Prod.mk.injEq] at he
        obtain ⟨rfl, rfl⟩ := he
        simp [ih hb]

/-- A separator that is found is not empty. -/
theorem sep_ne_nil_of_cut? {sep s before rest : List Char} (h : cut? sep s = some (before, rest)) :
    sep ≠ [] := by
  rintro rfl
  cases s <;> simp [cut?] at h

theorem length_lt_of_cut? {sep s before rest : List Char} (h : cut? sep s = some (before, rest)) :
    rest.length < s.length := by
  have hsep := List.length_pos_iff.mpr (sep_ne_nil_of_cut? h)
  have := congrArg List.length (cut?_eq_some h)
  simp only [List.length_append] at this
  omega

/-- The parts of a text between the occurrences of `sep`, found from left to right. -/
def pieces (sep s : List Char) : List (List Char) :=
  match _h : cut? sep s with
  | none => [s]
  | some (before, rest) => before :: pieces sep rest
termination_by s.length
decreasing_by exact length_lt_of_cut? ‹_›

theorem pieces_of_cut?_none {sep s : List Char} (h : cut? sep s = none) : pieces sep s = [s] := by
  rw [pieces]
  split
  · rfl
  · next hc => rw [h] at hc; cases hc

theorem pieces_of_cut?_some {sep s before rest : List Char} (h : cut? sep s = some (before, rest)) :
    pieces sep s = before :: pieces sep rest := by
  rw [pieces]
  split
  · next hc => rw [h] at hc; cases hc
  · next hc =>
    rw [h] at hc
    cases hc
    rfl

theorem pieces_ne_nil (sep s : List Char) : pieces sep s ≠ [] := by
  rw [pieces]
  split <;> simp

/-- Putting the separator back gives the text that was cut. -/
theorem intercalate_pieces (sep s : List Char) : sep.intercalate (pieces sep s) = s := by
  fun_induction pieces sep s with
  | case1 s h => simp [List.intercalate]
  | case2 s before rest h ih =>
    obtain ⟨p, ps, hps⟩ := List.exists_cons_of_ne_nil (pieces_ne_nil sep rest)
    have hs := cut?_eq_some h
    rw [hps] at ih ⊢
    rw [hs, ← ih]
    simp [List.intercalate]

/-- Whether `sep` occurs in the text. -/
def hasSeparator (sep s : List Char) : Bool :=
  (cut? sep s).isSome

/-! ## The same on texts -/

/-- The texts before and after the first occurrence of a separator. -/
def cutAt? (sep s : String) : Option (String × String) :=
  (cut? sep.toList s.toList).map fun (before, rest) => (String.ofList before, String.ofList rest)

/-- The parts of a text between the occurrences of a separator. -/
def splitAt (sep s : String) : List String :=
  (pieces sep.toList s.toList).map String.ofList

/-- Whether a separator occurs in the text. -/
def contains (s sep : String) : Bool :=
  hasSeparator sep.toList s.toList

/-! ## Single characters -/

/-- The texts before and after the last occurrence of the character `c`. -/
def cutLast? (c : Char) (s : List Char) : Option (List Char × List Char) :=
  match (s.reverse.span (· != c)) with
  | (_, []) => none
  | (tail, _ :: head) => some (head.reverse, tail.reverse)

/-- Every occurrence of the character `c` replaced by a text. -/
def replaceChar (c : Char) (replacement : List Char) (s : List Char) : List Char :=
  s.flatMap fun d => if d = c then replacement else [d]

end Text
end RequestQuery
