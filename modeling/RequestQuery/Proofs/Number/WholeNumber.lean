import RequestQuery.Proofs.Number.Rounding

/-! # Whole numbers in binary64

A number that is the number of a rank is rounded to itself.  The whole numbers
with 53 + k binary digits are so exactly if 2 ^ k divides them, and all of them
are at most half of 2 ^ k away from the number that they are rounded to.
-/
namespace RequestQuery
namespace Binary64

/-! ## Rounding what is there -/

theorem IsNearestRank.self (rank : Nat) : IsNearestRank rank (rankValue rank) := by
  refine ⟨fun other => ?_, fun other hne heq => ?_⟩
  · rw [sub_self, abs_zero]
    exact abs_nonneg _
  · rw [sub_self, abs_zero, abs_eq_zero, sub_eq_zero] at heq
    exact absurd (rankValue_strictMono.injective heq) hne

namespace IsNearestTo

variable {x : Binary64} {q : ℚ}

/-- How far the nearest number is away. -/
theorem abs_toRat_sub (h : x.IsNearestTo q) : |x.toRat - q| = abs (rankValue x.rank - |q|) := by
  rcases lt_trichotomy q 0 with hneg | rfl | hpos
  · have hsign : x.negative = true := by simpa [hneg] using h.negative hneg.ne
    rw [toRat, if_pos hsign, abs_of_neg hneg, ← abs_neg]
    congr 1
    ring
  · rw [toRat]
    split
    · simp
    · simp
  · have hsign : ¬ x.negative = true := by simpa [hpos.not_gt] using h.negative hpos.ne'
    rw [toRat, if_neg hsign, abs_of_pos hpos]

/-- A number is its own nearest number exactly if it is that of a rank. -/
theorem toRat_eq_iff (h : x.IsNearestTo q) : x.toRat = q ↔ ∃ rank, rankValue rank = |q| := by
  rw [← sub_eq_zero, ← abs_eq_zero, h.abs_toRat_sub, abs_eq_zero, sub_eq_zero]
  constructor
  · exact fun heq => ⟨x.rank, heq⟩
  · rintro ⟨rank, heq⟩
    rw [← heq, h.rank.unique (heq ▸ IsNearestRank.self rank)]

end IsNearestTo

/-! ## Whole numbers -/

/-- The number of an integer whose rounded magnitude is finite. -/
theorem ofInt_eq {i : Int} {x : Bool → Binary64}
    (h : ∀ negative, ofRatio? negative i.natAbs 1 = some (x negative)) :
    ofInt i = x (decide (i < 0)) := by
  -- applied to `i` the definition is a match on a ratio that would be calculated to compare it with
  -- anything, so it is opened as a function
  generalize hopen : ofInt = f
  delta ofInt at hopen
  subst hopen
  dsimp only
  rw [h]

/-- Integers are rounded to the nearest number, if that is finite. -/
theorem isNearestTo_ofInt {i : Int} (h : |(i : ℚ)| < finiteBound) : (ofInt i).IsNearestTo i := by
  obtain ⟨x, hx⟩ := exists_isNearestTo_iff.mpr h
  have hrank := isNearestRank_rankOfRatio i.natAbs Nat.one_pos
  rw [Nat.cast_one, div_one, Nat.cast_natAbs, Int.cast_abs] at hrank
  have hread (negative : Bool) : ofRatio? negative i.natAbs 1 = some ⟨negative, x.rank, x.finite⟩ :=
    ofRank?_eq_some_iff.mpr ⟨rfl, hx.rank.unique hrank⟩
  rw [ofInt_eq hread]
  exact ⟨hx.rank, fun _ => decide_eq_decide.mpr Int.cast_lt_zero.symm⟩

/-- A whole number with more than 53 binary digits is that of a rank exactly if it has zeros behind the
first 53. -/
theorem exists_rankValue_eq_iff {n k : Nat} (hlow : fractionSize * 2 ^ k ≤ n)
    (hhigh : n ≤ 2 * fractionSize * 2 ^ k) : (∃ rank, rankValue rank = n) ↔ 2 ^ k ∣ n := by
  constructor
  · rintro ⟨rank, heq⟩
    obtain ⟨exponent, significand, rfl, hstart, hend⟩ := exists_block rank
    have hunits : significand * 2 ^ exponent = n * unitsPerOne := by
      rw [rankValue_block hstart hend.le, div_eq_iff cast_unitsPerOne_pos.ne'] at heq
      exact_mod_cast heq
    obtain ⟨places, hone⟩ : ∃ places, unitsPerOne = 2 ^ places := ⟨1074, unitsPerOne_eq⟩
    by_cases hlarge : k + places ≤ exponent
    · obtain ⟨more, rfl⟩ := Nat.exists_eq_add_of_le hlarge
      rw [Nat.pow_add, Nat.pow_add, ← hone] at hunits
      refine ⟨significand * 2 ^ more, Nat.eq_of_mul_eq_mul_right unitsPerOne_pos ?_⟩
      rw [← hunits]
      ring
    · -- in a lower block the number would be too small
      have hsmall : 2 * 2 ^ exponent ≤ 2 ^ k * unitsPerOne := by
        rw [← Nat.pow_succ', hone, ← Nat.pow_add]
        exact Nat.pow_le_pow_right two_pos (Nat.lt_of_not_le hlarge)
      have hlt : n * unitsPerOne < n * unitsPerOne :=
        calc n * unitsPerOne = significand * 2 ^ exponent := hunits.symm
          _ < 2 * fractionSize * 2 ^ exponent := Nat.mul_lt_mul_of_pos_right hend (Nat.two_pow_pos _)
          _ = fractionSize * (2 * 2 ^ exponent) := by ring
          _ ≤ fractionSize * (2 ^ k * unitsPerOne) := Nat.mul_le_mul_left _ hsmall
          _ = fractionSize * 2 ^ k * unitsPerOne := by ring
          _ ≤ n * unitsPerOne := Nat.mul_le_mul_right _ hlow
      exact absurd hlt (Nat.lt_irrefl _)
  · rintro ⟨significand, rfl⟩
    rw [Nat.mul_comm (2 ^ k)] at hlow hhigh
    refine ⟨(k + 1074) * fractionSize + significand, ?_⟩
    rw [rankValue_wholeNumber (Nat.le_of_mul_le_mul_right hlow (Nat.two_pow_pos k))
      (Nat.le_of_mul_le_mul_right hhigh (Nat.two_pow_pos k)), mul_comm]
    push_cast
    rfl

/-- A whole number is rounded by at most half of the last place that it keeps. -/
theorem IsNearestTo.two_mul_abs_sub_le {x : Binary64} {n k : Nat} (h : x.IsNearestTo n)
    (hlow : fractionSize * 2 ^ k ≤ n) (hhigh : n ≤ 2 * fractionSize * 2 ^ k) :
    2 * |x.toRat - n| ≤ 2 ^ k := by
  have hplace := Nat.two_pow_pos k
  obtain ⟨hup, hdown, -⟩ := divideToNearest_spec n hplace
  have hvalue := rankValue_wholeNumber (le_divideToNearest hplace hlow) (divideToNearest_le hplace hhigh) k
  generalize divideToNearest n (2 ^ k) = significand at *
  have hupward : (2 * n : ℚ) ≤ 2 * (significand * 2 ^ k) + 2 ^ k := by exact_mod_cast hup
  have hdownward : (2 * (significand * 2 ^ k) : ℚ) ≤ 2 * n + 2 ^ k := by exact_mod_cast hdown
  have hnear : |x.toRat - n| ≤ |(significand : ℚ) * 2 ^ k - n| := by
    rw [h.abs_toRat_sub, ← hvalue]
    simpa using h.rank.nearest ((k + 1074) * fractionSize + significand)
  have hhalf : |(significand : ℚ) * 2 ^ k - n| ≤ 2 ^ k / 2 := abs_le.mpr ⟨by linarith, by linarith⟩
  linarith

end Binary64
end RequestQuery
