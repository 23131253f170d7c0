import Mathlib.Data.List.Infix
import RequestQuery.Filter.Text

/-! # Patterns

What texts a pattern fits: a percent sign stands for any text, an underscore for
any one character, a backslash makes the next character stand for itself.

Filters escape the part they look for.  `accepts_escape_append` says that an
escaped part fits itself and nothing else, whatever follows it in the pattern, so
the three patterns that filters make ask for a literal prefix, suffix or infix.
-/
namespace RequestQuery
namespace Pattern

/-- Whether a text fits a pattern.  No text fits a pattern that ends in a backslash with nothing to
escape. -/
def accepts : List Char → List Char → Bool
  | [], s => s.isEmpty
  | '%' :: p, s => s.tails.any (accepts p)
  | '_' :: p, s => match s with
    | [] => false
    | _ :: t => accepts p t
  | ['\\'], _ => false
  | '\\' :: c :: p, s => match s with
    | [] => false
    | d :: t => c == d && accepts p t
  | c :: p, s => match s with
    | [] => false
    | d :: t => c == d && accepts p t

/-! ## Reading a pattern from its front -/

theorem accepts_nil {s : List Char} : accepts [] s ↔ s = [] := by
  simp [accepts]

theorem accepts_percent {p s : List Char} : accepts ('%' :: p) s ↔ ∃ t, t <:+ s ∧ accepts p t := by
  simp [accepts]

theorem accepts_escaped {c : Char} {p s : List Char} :
    accepts ('\\' :: c :: p) s ↔ ∃ t, s = c :: t ∧ accepts p t := by
  cases s <;> simp [accepts, @eq_comm _ c]

theorem accepts_plain {c : Char} {p s : List Char} (hb : c ≠ '\\') (hp : c ≠ '%') (hu : c ≠ '_') :
    accepts (c :: p) s ↔ ∃ t, s = c :: t ∧ accepts p t := by
  cases s <;> simp [accepts, hb, @eq_comm _ c]

/-! ## Escaped parts -/

open TextFilter (escape escapeChar)

theorem accepts_escapeChar_append (c : Char) {p s : List Char} :
    accepts (escapeChar c ++ p) s ↔ ∃ t, s = c :: t ∧ accepts p t := by
  unfold escapeChar
  split
  · exact accepts_escaped
  · next h =>
    obtain ⟨hb, hp, hu⟩ : c ≠ '\\' ∧ c ≠ '%' ∧ c ≠ '_' := by
      simpa [and_assoc] using h
    exact accepts_plain hb hp hu

/-- An escaped part fits itself, and what follows it in the pattern fits the rest. -/
theorem accepts_escape_append (part : String) {p s : List Char} :
    accepts (escape part ++ p) s ↔ ∃ t, s = part.toList ++ t ∧ accepts p t := by
  unfold escape
  induction part.toList generalizing s with
  | nil => simp
  | cons c rest ih =>
    rw [List.flatMap_cons, List.append_assoc, accepts_escapeChar_append]
    constructor
    · rintro ⟨u, rfl, hu⟩
      obtain ⟨t, rfl, ht⟩ := ih.mp hu
      exact ⟨t, rfl, ht⟩
    · rintro ⟨t, rfl, ht⟩
      exact ⟨rest ++ t, rfl, ih.mpr ⟨t, rfl, ht⟩⟩

theorem accepts_escape (part : String) {s : List Char} :
    accepts (escape part) s ↔ s = part.toList := by
  simpa [accepts_nil] using accepts_escape_append part (p := []) (s := s)

theorem accepts_escape_percent (part : String) {s : List Char} :
    accepts (escape part ++ ['%']) s ↔ part.toList <+: s := by
  rw [accepts_escape_append]
  constructor
  · rintro ⟨t, rfl, -⟩
    exact List.prefix_append _ t
  · rintro ⟨t, rfl⟩
    exact ⟨t, rfl, accepts_percent.mpr ⟨[], List.nil_suffix, accepts_nil.mpr rfl⟩⟩

/-! ## The patterns of filters -/

open TextFilter (pattern)

theorem accepts_pattern_begins (part : String) {s : List Char} :
    accepts (pattern false true part).toList s ↔ part.toList <+: s := by
  simpa [pattern] using accepts_escape_percent part

theorem accepts_pattern_ends (part : String) {s : List Char} :
    accepts (pattern true false part).toList s ↔ part.toList <:+ s := by
  have : (pattern true false part).toList = '%' :: escape part := by simp [pattern]
  rw [this, accepts_percent]
  simp [accepts_escape]

theorem accepts_pattern_contains (part : String) {s : List Char} :
    accepts (pattern true true part).toList s ↔ part.toList <:+: s := by
  have : (pattern true true part).toList = '%' :: (escape part ++ ['%']) := by simp [pattern]
  rw [this, accepts_percent, List.infix_iff_prefix_suffix]
  simp only [accepts_escape_percent, and_comm]

/-- A part with every special character in it is found as it stands. -/
example : accepts (pattern true true "5%_\\").toList "a5%_\\b".toList = true ∧
    accepts (pattern true true "5%_\\").toList "a5xx\\b".toList = false := by decide

end Pattern
end RequestQuery
