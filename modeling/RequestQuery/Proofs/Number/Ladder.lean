import Mathlib.Algebra.Order.Field.Basic
import Mathlib.Data.Rat.Cast.Order
import Mathlib.Order.Monotone.Basic
import Mathlib.Tactic.Linarith
import Mathlib.Tactic.Positivity
import Mathlib.Tactic.Ring
import RequestQuery.Number.Binary64

/-! # The ladder of binary64 numbers

The ladder climbs in blocks of 2 ^ 52 ranks: within a block a rank stands for a
multiple of one power of two, and each block has twice the step of the one below
it (`unitsOfRank_block`).  So the numbers of the ranks increase, and every rank
lies below all higher ones.

A rank is nearest to a number if no other rank is nearer, and if it is even
where another is as near.  There is at most one such rank (`IsNearestRank.unique`),
and it is the rank of a finite number exactly for numbers below
2 ^ 1024 - 2 ^ 970, half a step above the largest one (`IsNearestRank.lt_rankLimit_iff`).
-/
namespace RequestQuery
namespace Binary64

/-! ## Blocks -/

theorem exists_block (rank : Nat) : ∃ exponent significand,
    rank = exponent * fractionSize + significand ∧
      (exponent = 0 ∨ fractionSize ≤ significand) ∧ significand < 2 * fractionSize := by
  by_cases hsmall : rank < fractionSize
  · exact ⟨0, rank, by omega, .inl rfl, by omega⟩
  · refine ⟨rank / fractionSize - 1, rank % fractionSize + fractionSize, ?_, .inr ?_, ?_⟩
    · simp only [fractionSize] at *
      omega
    · omega
    · simp only [fractionSize] at *
      omega

/-- A block ends where the next one begins. -/
theorem unitsOfRank_block {exponent significand : Nat}
    (hlow : exponent = 0 ∨ fractionSize ≤ significand) (hhigh : significand ≤ 2 * fractionSize) :
    unitsOfRank (exponent * fractionSize + significand) = significand * 2 ^ exponent := by
  rw [unitsOfRank]
  rcases Nat.lt_or_ge significand fractionSize with hsmall | hlarge
  · obtain rfl : exponent = 0 := by omega
    rw [if_pos (by omega)]
    simp
  · have hplace : ¬ exponent * fractionSize + significand < fractionSize := by omega
    rw [if_neg hplace]
    rcases Nat.lt_or_eq_of_le hhigh with hinside | rfl
    · have hdiv : (exponent * fractionSize + significand) / fractionSize = exponent + 1 := by
        simp only [fractionSize] at *
        omega
      have hmod : (exponent * fractionSize + significand) % fractionSize + fractionSize = significand := by
        simp only [fractionSize] at *
        omega
      rw [hdiv, hmod, Nat.add_sub_cancel]
      rfl
    · have hdiv : (exponent * fractionSize + 2 * fractionSize) / fractionSize = exponent + 2 := by
        simp only [fractionSize]
        omega
      have hmod : (exponent * fractionSize + 2 * fractionSize) % fractionSize = 0 := by
        simp only [fractionSize]
        omega
      rw [hdiv, hmod, Nat.zero_add, show exponent + 2 - 1 = exponent + 1 from rfl]
      change fractionSize * 2 ^ (exponent + 1) = _
      rw [Nat.pow_succ]
      ring

theorem unitsOfRank_lt_succ (rank : Nat) : unitsOfRank rank < unitsOfRank (rank + 1) := by
  obtain ⟨exponent, significand, rfl, hlow, hhigh⟩ := exists_block rank
  rw [Nat.add_assoc, unitsOfRank_block hlow hhigh.le,
    unitsOfRank_block (hlow.imp_right Nat.le_succ_of_le) hhigh]
  exact Nat.mul_lt_mul_of_pos_right (Nat.lt_succ_self _) (Nat.two_pow_pos _)

theorem unitsOfRank_strictMono : StrictMono unitsOfRank :=
  strictMono_nat_of_lt_succ unitsOfRank_lt_succ

/-! ## Values -/

theorem unitsPerOne_eq : unitsPerOne = 2 ^ 1074 := by
  decide +kernel

theorem unitsPerOne_pos : 0 < unitsPerOne := by
  decide +kernel

theorem cast_unitsPerOne : (unitsPerOne : ℚ) = 2 ^ 1074 := by
  rw [unitsPerOne_eq, Nat.cast_pow, Nat.cast_ofNat]

theorem cast_unitsPerOne_pos : (0 : ℚ) < unitsPerOne := Nat.cast_pos.mpr unitsPerOne_pos

/-- The number of a rank. -/
def rankValue (rank : Nat) : ℚ :=
  unitsOfRank rank / unitsPerOne

/-- The number that a binary64 number stands for. -/
def toRat (x : Binary64) : ℚ :=
  if x.negative then -rankValue x.rank else rankValue x.rank

theorem rankValue_strictMono : StrictMono rankValue := fun _ _ h =>
  div_lt_div_of_pos_right (Nat.cast_lt.mpr (unitsOfRank_strictMono h)) cast_unitsPerOne_pos

@[simp] theorem rankValue_zero : rankValue 0 = 0 := by
  have hunits : unitsOfRank 0 = 0 := if_pos (by decide)
  rw [rankValue, hunits, Nat.cast_zero, zero_div]

/-- The number of a rank inside its block. -/
theorem rankValue_block {exponent significand : Nat}
    (hlow : exponent = 0 ∨ fractionSize ≤ significand) (hhigh : significand ≤ 2 * fractionSize) :
    rankValue (exponent * fractionSize + significand) = significand * 2 ^ exponent / unitsPerOne := by
  rw [rankValue, unitsOfRank_block hlow hhigh]
  push_cast
  rfl

/-- From 2 ^ 52 on, whole numbers of 53 binary digits and zeros are numbers of ranks. -/
theorem rankValue_wholeNumber {significand : Nat} (hlow : fractionSize ≤ significand)
    (hhigh : significand ≤ 2 * fractionSize) (k : Nat) :
    rankValue ((k + 1074) * fractionSize + significand) = significand * 2 ^ k := by
  have hone := cast_unitsPerOne_pos
  rw [rankValue_block (.inr hlow) hhigh, pow_add 2 k, ← cast_unitsPerOne, ← mul_assoc,
    mul_div_cancel_right₀ _ hone.ne']

theorem rankValue_rankLimit : rankValue rankLimit = 2 ^ 1024 := by
  have hblock : rankLimit = (971 + 1074) * fractionSize + 2 * fractionSize := by decide
  have hsize : ((2 * fractionSize : Nat) : ℚ) = 2 ^ 53 := by norm_num [fractionSize]
  rw [hblock, rankValue_wholeNumber (by decide) le_rfl, hsize, ← pow_add]

theorem rankValue_last : rankValue (rankLimit - 1) = 2 ^ 1024 - 2 ^ 971 := by
  have hblock : rankLimit - 1 = (971 + 1074) * fractionSize + (2 * fractionSize - 1) := by decide
  have hsize : ((2 * fractionSize - 1 : Nat) : ℚ) = 2 ^ 53 - 1 := by norm_num [fractionSize]
  rw [hblock, rankValue_wholeNumber (by decide) (by decide), hsize, sub_mul, one_mul, ← pow_add]

/-- The middle between the largest finite number and the next rank. -/
def finiteBound : ℚ := 2 ^ 1024 - 2 ^ 970

theorem two_pow_lt_finiteBound : 2 ^ 64 < finiteBound := by
  rw [finiteBound, lt_sub_iff_add_lt]
  exact_mod_cast (by decide +kernel : (2 : Nat) ^ 64 + 2 ^ 970 < 2 ^ 1024)

theorem rankValue_last_add : rankValue (rankLimit - 1) + rankValue rankLimit = 2 * finiteBound := by
  have hhalf : (2 : ℚ) ^ 971 = 2 * 2 ^ 970 := pow_succ' 2 970
  rw [rankValue_last, rankValue_rankLimit, finiteBound, hhalf, mul_sub, two_mul (2 ^ 1024 : ℚ),
    sub_add_eq_add_sub]

/-! ## Nearest ranks -/

/-- No rank is nearer to the number, and the rank is even if another one is as near. -/
structure IsNearestRank (rank : Nat) (q : ℚ) : Prop where
  nearest : ∀ other, |rankValue rank - q| ≤ |rankValue other - q|
  even : ∀ other, other ≠ rank → |rankValue other - q| = |rankValue rank - q| → rank % 2 = 0

section
variable {a b q : ℚ}

/-- The higher of two numbers is the nearer one from their middle on. -/
theorem abs_sub_le_iff_add_le (h : a < b) : |b - q| ≤ |a - q| ↔ a + b ≤ 2 * q := by
  rw [← sq_le_sq]
  constructor
  · intro hle
    nlinarith
  · intro hle
    nlinarith

/-- The lower of two numbers is the nearer one up to their middle. -/
theorem abs_sub_le_iff_le_add (h : a < b) : |a - q| ≤ |b - q| ↔ 2 * q ≤ a + b := by
  rw [← sq_le_sq]
  constructor
  · intro hle
    nlinarith
  · intro hle
    nlinarith

end

namespace IsNearestRank

variable {rank other : Nat} {q : ℚ}

theorem add_le (h : IsNearestRank rank q) (hother : other < rank) :
    rankValue other + rankValue rank ≤ 2 * q :=
  (abs_sub_le_iff_add_le (rankValue_strictMono hother)).mp (h.nearest other)

theorem le_add (h : IsNearestRank rank q) (hother : rank < other) :
    2 * q ≤ rankValue rank + rankValue other :=
  (abs_sub_le_iff_le_add (rankValue_strictMono hother)).mp (h.nearest other)

/-- A rank with a number in the middle between it and a higher one is even. -/
theorem even_of_eq_add (h : IsNearestRank rank q) (hother : rank < other)
    (heq : 2 * q = rankValue rank + rankValue other) : rank % 2 = 0 := by
  refine h.even other hother.ne' (le_antisymm ?_ (h.nearest other))
  exact (abs_sub_le_iff_add_le (rankValue_strictMono hother)).mpr heq.ge

/-- A rank is nearest if the number lies between the middles to its neighbours, and on one of them only
for an even rank. -/
theorem of_middles (hbelow : ∀ other, other < rank → rankValue other + rankValue rank ≤ 2 * q)
    (habove : ∀ other, rank < other → 2 * q ≤ rankValue rank + rankValue other)
    (heven : ∀ other, other ≠ rank → rankValue other + rankValue rank = 2 * q → rank % 2 = 0) :
    IsNearestRank rank q := by
  refine ⟨fun other => ?_, fun other hne heq => heven other hne ?_⟩
  · rcases lt_trichotomy other rank with hlt | rfl | hgt
    · exact (abs_sub_le_iff_add_le (rankValue_strictMono hlt)).mpr (hbelow other hlt)
    · exact le_rfl
    · exact (abs_sub_le_iff_le_add (rankValue_strictMono hgt)).mpr (habove other hgt)
  · rcases Nat.lt_or_gt_of_ne hne with hlt | hgt
    · exact le_antisymm (hbelow other hlt)
        ((abs_sub_le_iff_le_add (rankValue_strictMono hlt)).mp heq.le)
    · refine le_antisymm ?_ ((add_comm _ _).trans_ge (habove other hgt))
      exact (add_comm _ _).trans_le ((abs_sub_le_iff_add_le (rankValue_strictMono hgt)).mp heq.le)

theorem zero_iff {q : ℚ} : IsNearestRank 0 q ↔ 2 * q ≤ rankValue 1 := by
  constructor
  · intro h
    simpa using h.le_add Nat.one_pos
  · intro h
    refine of_middles (fun other hlt => absurd hlt (Nat.not_lt_zero _)) (fun other hgt => ?_)
      fun other hne heq => rfl
    rw [rankValue_zero, zero_add]
    exact h.trans (rankValue_strictMono.monotone hgt)

/-- Two nearest ranks would both be even, and the number nearer to an odd rank between them. -/
theorem not_lt {rank' : Nat} (h : IsNearestRank rank q) (h' : IsNearestRank rank' q) :
    ¬ rank < rank' := by
  intro hlt
  have hmiddle : 2 * q = rankValue rank + rankValue rank' := le_antisymm (h.le_add hlt) (h'.add_le hlt)
  have heven : rank % 2 = 0 := h.even_of_eq_add hlt hmiddle
  have heven' : rank' % 2 = 0 := by
    refine h'.even rank hlt.ne (le_antisymm ?_ (h'.nearest rank))
    exact (abs_sub_le_iff_le_add (rankValue_strictMono hlt)).mpr hmiddle.le
  have hbetween := h'.add_le (show rank + 1 < rank' by omega)
  have hstep := rankValue_strictMono (Nat.lt_succ_self rank)
  rw [hmiddle] at hbetween
  exact absurd hbetween (not_le.mpr (add_lt_add_left hstep _))

/-- There is at most one nearest rank. -/
theorem unique {rank' : Nat} (h : IsNearestRank rank q) (h' : IsNearestRank rank' q) :
    rank = rank' :=
  Nat.le_antisymm (Nat.le_of_not_lt (h'.not_lt h)) (Nat.le_of_not_lt (h.not_lt h'))

/-- The finite ranks are those that numbers below the bound are rounded to. -/
theorem lt_rankLimit_iff (h : IsNearestRank rank q) : rank < rankLimit ↔ q < finiteBound := by
  have hmiddle := rankValue_last_add
  constructor
  · intro hlt
    have hlast : rankValue rank ≤ rankValue (rankLimit - 1) :=
      rankValue_strictMono.monotone (Nat.le_sub_one_of_lt hlt)
    have hadd := h.le_add hlt
    refine lt_of_le_of_ne (by linarith) fun heq => ?_
    -- the last finite rank is odd, so the middle above it goes to the next rank
    obtain rfl : rank = rankLimit - 1 :=
      rankValue_strictMono.injective (le_antisymm hlast (by linarith))
    have hodd := h.even_of_eq_add hlt (by rw [hmiddle, heq])
    simp [rankLimit] at hodd
  · intro hsmall
    by_contra hge
    have hlimit : rankLimit ≤ rank := Nat.le_of_not_lt hge
    have hbelow : rankLimit - 1 < rank := lt_of_lt_of_le (Nat.sub_one_lt (by decide)) hlimit
    have hadd := h.add_le hbelow
    have := rankValue_strictMono.monotone hlimit
    linarith

end IsNearestRank
end Binary64
end RequestQuery
