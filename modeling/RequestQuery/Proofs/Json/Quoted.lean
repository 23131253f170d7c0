import RequestQuery.Json.Printer
import RequestQuery.Json.Reader

/-! # Reading quoted texts back

A text that is written in quotes is read letter by letter.  A control character
without a short escape comes back as a code unit, any other character as itself,
and the letters stand for the text that was written (`text?_letters`), whatever
follows the closing quote (`readText?_quote`).
-/
namespace RequestQuery
namespace Json

/-- The letter that a character is read back as. -/
def letterOf (c : Char) : Letter :=
  if c.toNat < 0x20 ∧ c ∉ ['\x08', '\x0c', '\n', '\r', '\t'] then .unit c.toNat else .char c

/-- The letters that a text is read back as. -/
def letters (s : String) : List Letter := s.toList.map letterOf

/-! ## From characters to letters -/

theorem hexUnit?_hexDigit : ∀ n : Fin 32,
    hexUnit? '0' '0' (hexDigit (n.val / 16)) (hexDigit (n.val % 16)) = some n.val := by
  decide

/-- The characters that are written as themselves. -/
def IsPlain (c : Char) : Prop := 0x20 ≤ c.toNat ∧ c ≠ '"' ∧ c ≠ '\\'

theorem readText?_plain {c : Char} (h : IsPlain c) (rest : List Text.Symbol) :
    readText? (some c :: rest) = (readText? rest).map fun more => (.char c :: more.1, more.2) := by
  obtain ⟨hlow, hquote, hback⟩ := h
  rw [readText?, if_neg (Nat.not_lt.mpr hlow)]
  · rintro rfl
    exact hquote rfl
  all_goals
    intros
    simp_all

/-- A character is read back as its letter. -/
theorem readText?_escapeChar (c : Char) (rest : List Text.Symbol) :
    readText? ((escapeChar c).map some ++ rest) =
      (readText? rest).map fun more => (letterOf c :: more.1, more.2) := by
  unfold escapeChar
  split
  iterate 7 rfl
  next hquote hback hb hf hn hr ht =>
    split
    · next hlow =>
      have hunit := hexUnit?_hexDigit ⟨c.toNat, hlow⟩
      have hletter : letterOf c = .unit c.toNat := by
        rw [letterOf, if_pos ⟨hlow, by simp_all⟩]
      simp only [List.map_cons, List.map_nil, List.cons_append, List.nil_append]
      rw [readText?, hunit, Option.bind_some, hletter]
    · next hlow =>
      have hletter : letterOf c = .char c := by
        rw [letterOf, if_neg fun h => hlow h.1]
      rw [hletter]
      exact readText?_plain ⟨Nat.not_lt.mp hlow, hquote, hback⟩ rest

theorem readText?_flatMap_escapeChar (s : List Char) (rest : List Text.Symbol) :
    readText? ((s.flatMap escapeChar).map some ++ some '"' :: rest) =
      some (s.map letterOf, rest) := by
  induction s with
  | nil => rfl
  | cons c s ih =>
    rw [List.flatMap_cons, List.map_append, List.append_assoc, readText?_escapeChar, ih]
    rfl

/-- Behind its opening quote a text is read up to its closing one. -/
theorem readToken?_quote (s : String) (rest : List Text.Symbol) :
    readToken? ((quote s).map some ++ rest) = some (.text (letters s), rest) := by
  have h := readText?_flatMap_escapeChar s.toList rest
  simp only [quote, List.map_cons, List.map_append, List.map_nil, List.cons_append,
    List.append_assoc, List.nil_append]
  rw [readToken?, h]
  rfl

/-! ## From letters to characters -/

/-- A code unit that is no half of a pair is a character of its own. -/
theorem chars?_unit {code : Nat} (hlead : isLeadUnit code = false)
    (htrail : isTrailUnit code = false) (rest : List Letter) :
    chars? (.unit code :: rest) = (chars? rest).map (Char.ofNat code :: ·) := by
  rw [chars?.eq_def]
  split <;> simp_all

theorem chars?_letterOf (c : Char) (rest : List Letter) :
    chars? (letterOf c :: rest) = (chars? rest).map (c :: ·) := by
  unfold letterOf
  split
  · next h =>
    have hlead : isLeadUnit c.toNat = false := by
      simp only [isLeadUnit, Bool.and_eq_false_iff, decide_eq_false_iff_not]
      omega
    have htrail : isTrailUnit c.toNat = false := by
      simp only [isTrailUnit, Bool.and_eq_false_iff, decide_eq_false_iff_not]
      omega
    rw [chars?_unit hlead htrail, Char.ofNat_toNat]
  · rw [chars?]

/-- The letters that a text is read back as stand for the text. -/
theorem text?_letters (s : String) : text? (letters s) = some s := by
  have h (cs : List Char) : chars? (cs.map letterOf) = some cs := by
    induction cs with
    | nil => rfl
    | cons c cs ih =>
      rw [List.map_cons, chars?_letterOf, ih]
      rfl
  rw [text?, letters, h, Option.map_some, String.ofList_toList]

end Json
end RequestQuery
