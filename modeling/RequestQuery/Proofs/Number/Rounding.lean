import Mathlib.Algebra.Order.Field.Power
import Mathlib.Tactic.FieldSimp
import RequestQuery.Proofs.Number.Ladder

/-! # Rounding to the nearest number

A quotient rounded to a whole number is at most half away from it.  A ratio is
first scaled so that its quotient is a significand of some block of ranks, then
rounded there, and what comes out is the nearest rank of the whole ladder
(`isNearestRank_rankOfRatio`).  So every number that is not negative has a
nearest rank, and a decimal is read as the number of that rank, where exponents
far out of range are settled by their size alone (`ofDecimal?_eq_some_iff`).
-/
namespace RequestQuery
namespace Binary64

/-! ## Rounding to whole numbers -/

section
variable {num den : Nat}

variable (num) in
/-- The rounded quotient is at most half away, and even if it is half away. -/
theorem divideToNearest_spec (hden : 0 < den) :
    2 * num ≤ 2 * (divideToNearest num den * den) + den ∧
      2 * (divideToNearest num den * den) ≤ 2 * num + den ∧
      (2 * num = 2 * (divideToNearest num den * den) + den ∨
        2 * (divideToNearest num den * den) = 2 * num + den → divideToNearest num den % 2 = 0) := by
  have hdivision : num / den * den + num % den = num := Nat.div_add_mod' num den
  have hrest : num % den < den := Nat.mod_lt _ hden
  simp only [divideToNearest, Bool.or_eq_true, Bool.and_eq_true, decide_eq_true_eq, beq_iff_eq]
  split
  · have := Nat.add_one_mul (num / den) den
    omega
  · omega

theorem divideToNearest_le {bound : Nat} (hden : 0 < den) (h : num ≤ bound * den) :
    divideToNearest num den ≤ bound := by
  obtain ⟨-, hle, heven⟩ := divideToNearest_spec num hden
  by_contra hgt
  have hmul : (bound + 1) * den ≤ divideToNearest num den * den :=
    Nat.mul_le_mul_right den (Nat.lt_of_not_le hgt)
  rw [Nat.add_one_mul] at hmul
  omega

theorem le_divideToNearest {bound : Nat} (hden : 0 < den) (h : bound * den ≤ num) :
    bound ≤ divideToNearest num den := by
  obtain ⟨hle, -, -⟩ := divideToNearest_spec num hden
  by_contra hlt
  have hmul : (divideToNearest num den + 1) * den ≤ bound * den :=
    Nat.mul_le_mul_right den (Nat.lt_of_not_le hlt)
  rw [Nat.add_one_mul] at hmul
  omega

end

/-! ## Rounding to ranks -/

section
variable {exponent significand other : Nat} (den : Nat)

/-- A rank below one inside a block is at least a step of the block below it. -/
theorem units_add_step_le (hlow : exponent = 0 ∨ fractionSize < significand)
    (hhigh : significand ≤ 2 * fractionSize) (hother : other < exponent * fractionSize + significand) :
    unitsOfRank other * den + den * 2 ^ exponent ≤ significand * (den * 2 ^ exponent) := by
  obtain ⟨below, rfl⟩ : ∃ below, significand = below + 1 :=
    Nat.exists_eq_succ_of_ne_zero (by rintro rfl; rcases hlow with rfl | hlow <;> omega)
  have hunits : unitsOfRank other ≤ below * 2 ^ exponent := by
    rw [← unitsOfRank_block (hlow.imp_right Nat.le_of_lt_succ) (Nat.le_of_succ_le hhigh)]
    exact unitsOfRank_strictMono.monotone (Nat.le_of_lt_succ hother)
  calc unitsOfRank other * den + den * 2 ^ exponent
      ≤ below * 2 ^ exponent * den + den * 2 ^ exponent :=
        Nat.add_le_add_right (Nat.mul_le_mul_right den hunits) _
    _ = (below + 1) * (den * 2 ^ exponent) := by ring

/-- A rank above one inside a block is at least a step of the block above it. -/
theorem step_add_le_units (hlow : exponent = 0 ∨ fractionSize ≤ significand)
    (hhigh : significand < 2 * fractionSize) (hother : exponent * fractionSize + significand < other) :
    significand * (den * 2 ^ exponent) + den * 2 ^ exponent ≤ unitsOfRank other * den := by
  have hunits : (significand + 1) * 2 ^ exponent ≤ unitsOfRank other := by
    rw [← unitsOfRank_block (hlow.imp_right Nat.le_succ_of_le) hhigh]
    exact unitsOfRank_strictMono.monotone hother
  calc significand * (den * 2 ^ exponent) + den * 2 ^ exponent
      = (significand + 1) * 2 ^ exponent * den := by ring
    _ ≤ unitsOfRank other * den := Nat.mul_le_mul_right den hunits

end

/-- The scaled quotient of a ratio is a significand of the block of its exponent. -/
theorem scaled_bounds (num : Nat) {den : Nat} (hden : 0 < den) :
    let exponent := (num / den).log2 - 52
    (exponent = 0 ∨ fractionSize * (den * 2 ^ exponent) ≤ num) ∧
      num ≤ 2 * fractionSize * (den * 2 ^ exponent) := by
  intro exponent
  have hscale (k : Nat) : 2 ^ (exponent + k) * den = 2 ^ k * (den * 2 ^ exponent) := by
    rw [Nat.pow_add]
    ring
  constructor
  · rcases Nat.eq_zero_or_pos exponent with hzero | hpos
    · exact .inl hzero
    · right
      have hne : num / den ≠ 0 := by
        intro hzero
        simp [exponent, hzero] at hpos
      have hlog : exponent + 52 = (num / den).log2 := by omega
      calc fractionSize * (den * 2 ^ exponent) = 2 ^ (num / den).log2 * den := by
            rw [← hlog, hscale]; rfl
        _ ≤ num / den * den := Nat.mul_le_mul_right _ (Nat.log2_self_le hne)
        _ ≤ num := Nat.div_mul_le_self num den
  · have hquotient : num / den < 2 ^ (exponent + 53) :=
      Nat.lt_log2_self.trans_le (Nat.pow_le_pow_right (by decide) (by omega))
    calc num ≤ 2 ^ (exponent + 53) * den := ((Nat.div_lt_iff_lt_mul hden).mp hquotient).le
      _ = 2 * fractionSize * (den * 2 ^ exponent) := hscale 53

/-- A rank is nearest to a ratio if it is so in units of 2 ^ -1074. -/
theorem isNearestRank_of_units {rank num den : Nat} (hden : 0 < den)
    (hbelow : ∀ other, other < rank →
      (unitsOfRank other + unitsOfRank rank) * den ≤ 2 * (num * unitsPerOne))
    (habove : ∀ other, rank < other →
      2 * (num * unitsPerOne) ≤ (unitsOfRank rank + unitsOfRank other) * den)
    (heven : ∀ other, other ≠ rank →
      (unitsOfRank other + unitsOfRank rank) * den = 2 * (num * unitsPerOne) → rank % 2 = 0) :
    IsNearestRank rank (num / den) := by
  have hone := cast_unitsPerOne_pos
  have hpos : (0 : ℚ) < den * unitsPerOne := mul_pos (Nat.cast_pos.mpr hden) hone
  have hsum (a b : Nat) : (rankValue a + rankValue b) * (den * unitsPerOne) =
      ((unitsOfRank a + unitsOfRank b) * den : Nat) := by
    push_cast
    rw [rankValue, rankValue]
    field_simp
  have hratio : 2 * ((num : ℚ) / den) * (den * unitsPerOne) = (2 * (num * unitsPerOne) : Nat) := by
    push_cast
    field_simp
  refine .of_middles (fun other hlt => ?_) (fun other hgt => ?_) fun other hne heq => ?_
  · rw [← mul_le_mul_iff_left₀ hpos, hsum, hratio]
    exact Nat.cast_le.mpr (hbelow other hlt)
  · rw [← mul_le_mul_iff_left₀ hpos, hsum, hratio]
    exact Nat.cast_le.mpr (habove other hgt)
  · refine heven other hne ?_
    rw [← mul_left_inj' hpos.ne', hsum, hratio] at heq
    exact Nat.cast_injective heq

/-- The quotient of a ratio by the step of a block lies in the block and is rounded to a significand. -/
structure RoundsTo (units den exponent significand : Nat) : Prop where
  start_le : exponent = 0 ∨ fractionSize * (den * 2 ^ exponent) ≤ units
  le_end : units ≤ 2 * fractionSize * (den * 2 ^ exponent)
  low : exponent = 0 ∨ fractionSize ≤ significand
  high : significand ≤ 2 * fractionSize
  le_up : 2 * units ≤ 2 * (significand * (den * 2 ^ exponent)) + den * 2 ^ exponent
  down_le : 2 * (significand * (den * 2 ^ exponent)) ≤ 2 * units + den * 2 ^ exponent
  even : 2 * units = 2 * (significand * (den * 2 ^ exponent)) + den * 2 ^ exponent ∨
    2 * (significand * (den * 2 ^ exponent)) = 2 * units + den * 2 ^ exponent → significand % 2 = 0

namespace RoundsTo

theorem scaled (units : Nat) {den : Nat} (hden : 0 < den) :
    let exponent := (units / den).log2 - 52
    RoundsTo units den exponent (divideToNearest units (den * 2 ^ exponent)) := by
  intro exponent
  obtain ⟨hstart, hend⟩ := scaled_bounds units hden
  have hstep : 0 < den * 2 ^ exponent := Nat.mul_pos hden (Nat.two_pow_pos _)
  obtain ⟨hup, hdown, htie⟩ := divideToNearest_spec units hstep
  exact ⟨hstart, hend, hstart.imp_right (le_divideToNearest hstep), divideToNearest_le hstep hend, hup,
    hdown, htie⟩

variable {units den exponent significand other : Nat}

theorem unitsOfRank_mul (h : RoundsTo units den exponent significand) :
    unitsOfRank (exponent * fractionSize + significand) * den = significand * (den * 2 ^ exponent) := by
  rw [unitsOfRank_block h.low h.high]
  ring

/-- A lower rank is a whole step away, or the rank is where its block begins. -/
theorem below (h : RoundsTo units den exponent significand)
    (hlt : other < exponent * fractionSize + significand) :
    unitsOfRank other * den ≤ significand * (den * 2 ^ exponent) ∧
      (unitsOfRank other * den + den * 2 ^ exponent ≤ significand * (den * 2 ^ exponent) ∨
        significand * (den * 2 ^ exponent) ≤ units ∧ significand % 2 = 0) := by
  refine ⟨h.unitsOfRank_mul ▸ Nat.mul_le_mul_right den (unitsOfRank_strictMono hlt).le, ?_⟩
  by_cases hinside : exponent = 0 ∨ fractionSize < significand
  · exact .inl (units_add_step_le den hinside h.high hlt)
  · rw [not_or, Nat.not_lt] at hinside
    have hfirst : significand = fractionSize :=
      Nat.le_antisymm hinside.2 (h.low.resolve_left hinside.1)
    exact .inr ⟨hfirst ▸ h.start_le.resolve_left hinside.1, hfirst ▸ rfl⟩

/-- A higher rank is a whole step away, or the rank is where its block ends. -/
theorem above (h : RoundsTo units den exponent significand)
    (hgt : exponent * fractionSize + significand < other) :
    significand * (den * 2 ^ exponent) ≤ unitsOfRank other * den ∧
      (significand * (den * 2 ^ exponent) + den * 2 ^ exponent ≤ unitsOfRank other * den ∨
        units ≤ significand * (den * 2 ^ exponent) ∧ significand % 2 = 0) := by
  refine ⟨h.unitsOfRank_mul ▸ Nat.mul_le_mul_right den (unitsOfRank_strictMono hgt).le, ?_⟩
  rcases Nat.lt_or_eq_of_le h.high with hinside | hlast
  · exact .inl (step_add_le_units den h.low hinside hgt)
  · exact .inr ⟨hlast ▸ h.le_end, by omega⟩

/-- What a quotient is rounded to in its block is nearest on the whole ladder. -/
theorem isNearestRank {num : Nat} (h : RoundsTo (num * unitsPerOne) den exponent significand)
    (hden : 0 < den) : IsNearestRank (exponent * fractionSize + significand) (num / den) := by
  have hparity : (exponent * fractionSize + significand) % 2 = significand % 2 := by
    simp only [fractionSize]
    omega
  have hup := h.le_up
  have hdown := h.down_le
  refine isNearestRank_of_units hden (fun other hlt => ?_) (fun other hgt => ?_) fun other hne heq => ?_
  · rw [Nat.add_mul, h.unitsOfRank_mul]
    have := h.below hlt
    omega
  · rw [Nat.add_mul, h.unitsOfRank_mul]
    have := h.above hgt
    omega
  · rw [Nat.add_mul, h.unitsOfRank_mul] at heq
    have htie := h.even
    rw [hparity]
    rcases Nat.lt_or_gt_of_ne hne with hlt | hgt
    · have := h.below hlt
      omega
    · have := h.above hgt
      omega

end RoundsTo

/-- **Ratios are rounded to the nearest rank.** -/
theorem isNearestRank_rankOfRatio (num : Nat) {den : Nat} (hden : 0 < den) :
    IsNearestRank (rankOfRatio num den) (num / den) :=
  (RoundsTo.scaled (num * unitsPerOne) hden).isNearestRank hden

/-- Every number that is not negative has a nearest rank. -/
theorem exists_isNearestRank {q : ℚ} (h : 0 ≤ q) : ∃ rank, IsNearestRank rank q := by
  refine ⟨rankOfRatio q.num.toNat q.den, ?_⟩
  have hnearest := isNearestRank_rankOfRatio q.num.toNat q.den_pos
  have hnum : ((q.num.toNat : Nat) : ℚ) = q.num := by
    rw [← Int.cast_natCast, Int.toNat_of_nonneg (Rat.num_nonneg.mpr h)]
  rwa [hnum, Rat.num_div_den] at hnearest

/-! ## Nearest numbers -/

/-- The number has the sign of `q`, any sign for zero, and the rank nearest to its magnitude. -/
structure IsNearestTo (x : Binary64) (q : ℚ) : Prop where
  rank : IsNearestRank x.rank |q|
  negative : q ≠ 0 → x.negative = decide (q < 0)

/-- Numbers are rounded to a finite one if they are below the bound. -/
theorem exists_isNearestTo_iff {q : ℚ} : (∃ x : Binary64, x.IsNearestTo q) ↔ |q| < finiteBound := by
  constructor
  · rintro ⟨x, hx⟩
    exact hx.rank.lt_rankLimit_iff.mp x.finite
  · intro h
    obtain ⟨rank, hrank⟩ := exists_isNearestRank (abs_nonneg q)
    exact ⟨⟨decide (q < 0), rank, hrank.lt_rankLimit_iff.mpr h⟩, hrank, fun _ => rfl⟩

theorem ofRank?_eq_some_iff {negative : Bool} {rank : Nat} {x : Binary64} :
    ofRank? negative rank = some x ↔ x.negative = negative ∧ x.rank = rank := by
  rw [ofRank?]
  split
  · next h =>
    rw [Option.some_inj]
    constructor
    · rintro rfl
      exact ⟨rfl, rfl⟩
    · rintro ⟨rfl, rfl⟩
      rfl
  · next h =>
    refine ⟨fun h => (nomatch h), fun ⟨_, hrank⟩ => absurd (hrank ▸ x.finite) h⟩

theorem ofRank?_eq_none {negative : Bool} {rank : Nat} (h : ¬ rank < rankLimit) :
    ofRank? negative rank = none := by
  rw [ofRank?, dif_neg (show ¬ rank < 0x7FF0000000000000 from h)]

/-! ## Decimals -/

/-- Powers of ten above 10 ^ 310 exceed the finite numbers. -/
theorem finiteBound_lt_zpow {exponent : Int} (h : 310 < exponent) : finiteBound < 10 ^ exponent := by
  have hpower : (2 : ℚ) ^ 1024 ≤ 10 ^ 311 := by
    exact_mod_cast (by decide +kernel : (2 : Nat) ^ 1024 ≤ 10 ^ 311)
  calc finiteBound < 2 ^ 1024 := sub_lt_self _ (pow_pos two_pos 970)
    _ ≤ 10 ^ (311 : Int) := hpower
    _ ≤ 10 ^ exponent := zpow_le_zpow_right₀ (by norm_num) h

theorem rankValue_one : rankValue 1 = (2 ^ 1074)⁻¹ := by
  rw [rankValue, cast_unitsPerOne, ← one_div]
  rfl

/-- Decimals with an exponent far below their digits are below half the smallest number. -/
theorem two_mul_decimal_le {coefficient : Nat} {exponent : Int}
    (h : exponent < -(coefficient.log2 + 400 : Int)) :
    2 * ((coefficient : ℚ) * 10 ^ exponent) ≤ rankValue 1 := by
  have hcoefficient : (coefficient : ℚ) ≤ 2 ^ (coefficient.log2 + 1) := by
    exact_mod_cast (Nat.lt_log2_self (n := coefficient)).le
  have hexponent : (10 : ℚ) ^ exponent ≤ (10 ^ (coefficient.log2 + 401))⁻¹ := by
    rw [← zpow_natCast, ← zpow_neg]
    exact zpow_le_zpow_right₀ (by norm_num) (by push_cast; omega)
  generalize coefficient.log2 = length at *
  have hpower : (2 : ℚ) ^ 1076 ≤ 10 ^ 401 := by
    exact_mod_cast (by decide +kernel : (2 : Nat) ^ 1076 ≤ 10 ^ 401)
  have hlength : (2 : ℚ) ^ (length + 1076) ≤ 10 ^ (length + 401) := by
    rw [pow_add, pow_add]
    exact mul_le_mul (pow_le_pow_left₀ zero_le_two (by norm_num) length) hpower (by positivity)
      (by positivity)
  calc 2 * ((coefficient : ℚ) * 10 ^ exponent)
      ≤ 2 * (2 ^ (length + 1) * (10 ^ (length + 401))⁻¹) := by
        refine mul_le_mul_of_nonneg_left ?_ zero_le_two
        exact mul_le_mul hcoefficient hexponent (by positivity) (by positivity)
    _ ≤ 2 * (2 ^ (length + 1) * (2 ^ (length + 1076))⁻¹) := by
        refine mul_le_mul_of_nonneg_left (mul_le_mul_of_nonneg_left ?_ (by positivity)) zero_le_two
        exact inv_anti₀ (by positivity) hlength
    _ = rankValue 1 := by
        rw [rankValue_one, ← mul_assoc, ← pow_succ', show length + 1076 = length + 1 + 1 + 1074 by omega,
          pow_add 2 (length + 1 + 1), mul_inv, ← mul_assoc, mul_inv_cancel₀ (by positivity), one_mul]

/-- A decimal is read as the number of the rank nearest to it. -/
theorem ofDecimal?_eq {negative : Bool} {coefficient : Nat} {exponent : Int} {rank : Nat}
    (h : IsNearestRank rank (coefficient * 10 ^ exponent)) :
    ofDecimal? negative coefficient exponent = ofRank? negative rank := by
  rw [ofDecimal?]
  by_cases hzero : coefficient = 0
  · have hsmall : 2 * ((coefficient : ℚ) * 10 ^ exponent) ≤ rankValue 1 := by
      rw [hzero, Nat.cast_zero, zero_mul, mul_zero, ← rankValue_zero]
      exact rankValue_strictMono.monotone (Nat.zero_le 1)
    obtain rfl : rank = 0 := h.unique (IsNearestRank.zero_iff.mpr hsmall)
    rw [if_pos hzero]
    rfl
  rw [if_neg hzero]
  by_cases hlarge : 310 < exponent
  · have hone : (1 : ℚ) ≤ coefficient := Nat.one_le_cast.mpr (Nat.one_le_iff_ne_zero.mpr hzero)
    have hfinite : ¬ rank < rankLimit := by
      rw [h.lt_rankLimit_iff, not_lt]
      exact (finiteBound_lt_zpow hlarge).le.trans
        (le_mul_of_one_le_left (by positivity) hone)
    rw [if_pos hlarge, ofRank?_eq_none hfinite]
  rw [if_neg hlarge]
  by_cases hsmall : exponent < -(coefficient.log2 + 400 : Int)
  · obtain rfl : rank = 0 := h.unique (IsNearestRank.zero_iff.mpr (two_mul_decimal_le hsmall))
    rw [if_pos hsmall]
    rfl
  rw [if_neg hsmall]
  by_cases hwhole : 0 ≤ exponent
  · obtain ⟨power, rfl⟩ := Int.eq_ofNat_of_zero_le hwhole
    have hvalue : ((coefficient * 10 ^ power : Nat) : ℚ) / (1 : Nat) =
        coefficient * 10 ^ (power : Int) := by
      simp
    have hrank := (hvalue ▸ isNearestRank_rankOfRatio (coefficient * 10 ^ power) Nat.one_pos).unique h
    rw [if_pos hwhole, ofRatio?, Int.toNat_natCast, Nat.pow_eq, hrank]
  · obtain ⟨power, hpower⟩ := Int.eq_ofNat_of_zero_le (show 0 ≤ -exponent by omega)
    obtain rfl : exponent = -power := by omega
    have hvalue : (coefficient : ℚ) / (10 ^ power : Nat) = coefficient * 10 ^ (-power : Int) := by
      simp [div_eq_mul_inv]
    have hden : 0 < 10 ^ power := Nat.pow_pos (by decide)
    have hrank := (hvalue ▸ isNearestRank_rankOfRatio coefficient hden).unique h
    rw [if_neg hwhole, ofRatio?, neg_neg, Int.toNat_natCast, Nat.pow_eq, hrank]

/-- **Decimals are read as the nearest number**, if that is finite. -/
theorem ofDecimal?_eq_some_iff {negative : Bool} {coefficient : Nat} {exponent : Int} {x : Binary64} :
    ofDecimal? negative coefficient exponent = some x ↔
      x.negative = negative ∧ IsNearestRank x.rank (coefficient * 10 ^ exponent) := by
  have hdecimal : (0 : ℚ) ≤ coefficient * 10 ^ exponent := by positivity
  obtain ⟨rank, hrank⟩ := exists_isNearestRank hdecimal
  rw [ofDecimal?_eq hrank, ofRank?_eq_some_iff]
  refine and_congr_right fun _ => ⟨?_, fun h => h.unique hrank⟩
  rintro rfl
  exact hrank

end Binary64
end RequestQuery
