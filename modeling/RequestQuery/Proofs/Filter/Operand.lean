import RequestQuery.Filter.Number
import RequestQuery.Proofs.Number.Grammar
import RequestQuery.Proofs.Number.Rounding

/-! # Operands of number filters

An operand is a numeral with blanks around it.  One of a sign and digits that
fits in 64 bits is bound as that integer, every other one as the nearest
binary64 number, and where this is not finite the numeral is no operand
(`NumberFilter.operands_are_numerals`).
-/
namespace RequestQuery

open Numeral

/-! ## The numbers of numerals -/

namespace Numeral

variable {n : Numeral} {x : Binary64}

theorem magnitude_nonneg (n : Numeral) : (0 : ℚ) ≤ n.coefficient * 10 ^ n.exponent := by
  positivity

theorem abs_value (n : Numeral) : |n.value| = n.coefficient * 10 ^ n.exponent := by
  rw [value, signed]
  split
  · rw [abs_neg, abs_of_nonneg n.magnitude_nonneg]
  · rw [abs_of_nonneg n.magnitude_nonneg]

/-- A numeral denotes a number of its own sign, if not zero. -/
theorem negative_eq (h : n.value ≠ 0) : n.negative = decide (n.value < 0) := by
  have hpos : (0 : ℚ) < n.coefficient * 10 ^ n.exponent := by
    rw [← abs_value]
    exact abs_pos.mpr h
  rw [value, signed]
  cases n.negative with
  | true => simpa using hpos
  | false => simpa using hpos.le

/-- A numeral is read as the number nearest to its own, of the same sign even if it is zero. -/
theorem ofDecimal?_eq_some_iff :
    Binary64.ofDecimal? n.negative n.coefficient n.exponent = some x ↔
      x.IsNearestTo n.value ∧ x.negative = n.negative := by
  rw [Binary64.ofDecimal?_eq_some_iff, ← abs_value, and_comm]
  constructor
  · rintro ⟨hrank, hnegative⟩
    exact ⟨⟨hrank, fun h => hnegative.trans (negative_eq h)⟩, hnegative⟩
  · rintro ⟨hnearest, hnegative⟩
    exact ⟨hnearest.rank, hnegative⟩

end Numeral

/-! ## Reading numbers -/

namespace Number

variable {s : String} {i : Int} {x : Binary64}

/-- The integers that are read exactly. -/
theorem read?_eq_integer_iff :
    read? s = some (.integer i) ↔
      DenotesInteger (Text.trimChars s.toList) i ∧ fitsInt64 i = true := by
  rw [read?, Option.bind_eq_some_iff]
  constructor
  · rintro ⟨n, hread, hnumber⟩
    rw [ofNumeral?] at hnumber
    split at hnumber
    · next hplain =>
      cases hnumber
      rw [Bool.and_eq_true] at hplain
      exact ⟨denotesInteger_iff.mpr ⟨n, hread, hplain.1, rfl⟩, hplain.2⟩
    · obtain ⟨x, -, hx⟩ := Option.map_eq_some_iff.mp hnumber
      cases hx
  · rintro ⟨hdenotes, hfits⟩
    obtain ⟨n, hread, hplain, rfl⟩ := denotesInteger_iff.mp hdenotes
    refine ⟨n, hread, ?_⟩
    rw [ofNumeral?, if_pos (Bool.and_eq_true_iff.mpr ⟨hplain, hfits⟩)]

/-- The numbers that the other numerals are read as. -/
theorem read?_eq_real_iff :
    read? s = some (.real x) ↔
      (∃ q, Denotes (Text.trimChars s.toList) q ∧ x.IsNearestTo q) ∧
        (x.negative = true ↔ (Text.trimChars s.toList).head? = some '-') ∧
        ¬ ∃ i, DenotesInteger (Text.trimChars s.toList) i ∧ fitsInt64 i = true := by
  rw [read?, Option.bind_eq_some_iff]
  constructor
  · rintro ⟨n, hread, hnumber⟩
    rw [ofNumeral?] at hnumber
    split at hnumber
    · cases hnumber
    · next hplain =>
      obtain ⟨y, hx, heq⟩ := Option.map_eq_some_iff.mp hnumber
      cases heq
      obtain ⟨hnearest, hnegative⟩ := ofDecimal?_eq_some_iff.mp hx
      refine ⟨⟨n.value, denotes_iff.mpr ⟨n, hread, rfl⟩, hnearest⟩, ?_, ?_⟩
      · rw [hnegative, negative_iff hread]
      · rintro ⟨i, hdenotes, hfits⟩
        obtain ⟨n', hread', hplain', rfl⟩ := denotesInteger_iff.mp hdenotes
        obtain rfl := Option.some_inj.mp (hread.symm.trans hread')
        exact hplain (Bool.and_eq_true_iff.mpr ⟨hplain', hfits⟩)
  · rintro ⟨⟨q, hdenotes, hnearest⟩, hnegative, hinteger⟩
    obtain ⟨n, hread, rfl⟩ := denotes_iff.mp hdenotes
    have hplain : ¬ (n.plain && fitsInt64 n.integer) = true := by
      rw [Bool.and_eq_true]
      rintro ⟨hplain, hfits⟩
      exact hinteger ⟨n.integer, denotesInteger_iff.mpr ⟨n, hread, hplain, rfl⟩, hfits⟩
    have hsign : x.negative = n.negative :=
      Bool.eq_iff_iff.mpr (hnegative.trans (negative_iff hread).symm)
    refine ⟨n, hread, ?_⟩
    rw [ofNumeral?, if_neg hplain, ofDecimal?_eq_some_iff.mpr ⟨hnearest, hsign⟩, Option.map_some]

theorem exists_isNearestTo_of_fits (h : fitsInt64 i = true) : ∃ x : Binary64, x.IsNearestTo i := by
  obtain ⟨hlow, hhigh⟩ := fitsInt64_iff.mp h
  have habs : |i| < 2 ^ 64 := abs_lt.mpr ⟨by omega, by omega⟩
  refine Binary64.exists_isNearestTo_iff.mpr (lt_trans ?_ Binary64.two_pow_lt_finiteBound)
  exact_mod_cast habs

/-- A text is a number exactly if it is a numeral whose nearest number is finite. -/
theorem isSome_read?_iff :
    (read? s).isSome ↔
      ∃ q, Denotes (Text.trimChars s.toList) q ∧ ∃ x : Binary64, x.IsNearestTo q := by
  constructor
  · intro h
    obtain ⟨number, hread⟩ := Option.isSome_iff_exists.mp h
    cases number with
    | integer i =>
      obtain ⟨hdenotes, hfits⟩ := read?_eq_integer_iff.mp hread
      exact ⟨i, hdenotes.denotes, exists_isNearestTo_of_fits hfits⟩
    | real x =>
      obtain ⟨⟨q, hdenotes, hnearest⟩, -⟩ := read?_eq_real_iff.mp hread
      exact ⟨q, hdenotes, x, hnearest⟩
  · rintro ⟨q, hdenotes, x, hnearest⟩
    obtain ⟨n, hread, rfl⟩ := denotes_iff.mp hdenotes
    rw [read?, hread, Option.bind_some, ofNumeral?]
    split
    · rfl
    · have hsigned : Binary64.IsNearestTo { x with negative := n.negative } n.value :=
        ⟨hnearest.rank, negative_eq⟩
      rw [ofDecimal?_eq_some_iff.mpr ⟨hsigned, rfl⟩]
      rfl

end Number

/-! ## Operands -/

namespace NumberFilter

variable {s : String} {i : Int} {x : Binary64}

theorem operand?_eq_bigInt_iff :
    operand? s = some (.bigInt i) ↔ Number.read? s = some (.integer i) := by
  rw [operand?, Option.map_eq_some_iff]
  constructor
  · rintro ⟨number, hread, hvalue⟩
    cases number with
    | integer j =>
      cases hvalue
      exact hread
    | real y => cases hvalue
  · intro h
    exact ⟨.integer i, h, rfl⟩

/-- **Operands are numerals.**  What is left of a text without the blanks around it is an operand
exactly if it is a numeral whose nearest binary64 number is finite, that is one below
2 ^ 1024 - 2 ^ 970 in magnitude.  A sign and digits that denote an integer of 64 bits are bound as just
that integer; everything else is bound as the nearest number, which has the sign that is written.  So
an operand has a digit, and beside digits only signs, points and markers of powers. -/
theorem operands_are_numerals (s : String) :
    ((operand? s).isSome ↔
        ∃ q, Denotes (Text.trimChars s.toList) q ∧ ∃ x : Binary64, x.IsNearestTo q) ∧
      (∀ q, (∃ x : Binary64, x.IsNearestTo q) ↔ |q| < 2 ^ 1024 - 2 ^ 970) ∧
      let u := Text.trimChars s.toList
      (∀ i, operand? s = some (.bigInt i) ↔ DenotesInteger u i ∧ -2 ^ 63 ≤ i ∧ i ≤ 2 ^ 63 - 1) ∧
        (∀ v, operand? s = some v → (∃ i, v = .bigInt i) ∨
          ∃ x q, v = .double x ∧ Denotes u q ∧ x.IsNearestTo q ∧
            (x.negative = true ↔ u.head? = some '-')) ∧
        ((operand? s).isSome → (∃ c ∈ u, c.isDigit = true) ∧
          ∀ c ∈ u, c.isDigit = true ∨ c ∈ ['+', '-', '.', 'e', 'E']) := by
  have hsome : (operand? s).isSome ↔
      ∃ q, Denotes (Text.trimChars s.toList) q ∧ ∃ x : Binary64, x.IsNearestTo q := by
    rw [operand?, Option.isSome_map, Number.isSome_read?_iff]
  refine ⟨hsome, fun q => Binary64.exists_isNearestTo_iff, fun i => ?_, fun v hv => ?_, fun h => ?_⟩
  · rw [operand?_eq_bigInt_iff, Number.read?_eq_integer_iff, fitsInt64_iff]
  · obtain ⟨number, hread, rfl⟩ := Option.map_eq_some_iff.mp hv
    cases number with
    | integer i => exact .inl ⟨i, rfl⟩
    | real x =>
      obtain ⟨⟨q, hdenotes, hnearest⟩, hnegative, -⟩ := Number.read?_eq_real_iff.mp hread
      exact .inr ⟨x, q, rfl, hdenotes, hnearest, hnegative⟩
  · obtain ⟨q, hdenotes, -⟩ := hsome.mp h
    exact hdenotes.exists_isDigit

example : operand? " +007 " = some (.bigInt 7) := by decide

example : operand? "1_000" = none := by decide

end NumberFilter
end RequestQuery
