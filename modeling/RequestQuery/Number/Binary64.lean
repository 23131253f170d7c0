/-! # Binary floating point numbers of 64 bits

The finite numbers of one sign form a ladder: rank 0 is zero, rank 1 the
smallest number above it, and each rank is the bit pattern of its number.
Counted in units of 2 ^ -1074 every number is a whole number, so rounding,
comparing and rescaling are exact arithmetic of natural numbers.  A ratio is
rounded to the nearest rank; of two equally near ones the even rank is taken.
-/
namespace RequestQuery

/-- A finite number of the binary64 format: its sign, and the rank of its magnitude. -/
structure Binary64 where
  negative : Bool
  rank : Nat
  finite : rank < 0x7FF0000000000000
  deriving DecidableEq, Repr

namespace Binary64

/-! ## Ranks and units -/

/-- The bits of a significand below its leading one. -/
def fractionSize : Nat := 0x10000000000000

/-- The first rank that is not a finite number. -/
def rankLimit : Nat := 0x7FF0000000000000

/-- The number of a rank in units of 2 ^ -1074. -/
def unitsOfRank (rank : Nat) : Nat :=
  if rank < fractionSize then rank
  else (rank % fractionSize + fractionSize) * Nat.pow 2 (rank / fractionSize - 1)

/-- How many units make one. -/
def unitsPerOne : Nat := Nat.pow 2 1074

/-- The quotient of two natural numbers, rounded to the nearest; a half goes to the even one. -/
def divideToNearest (num den : Nat) : Nat :=
  let quotient := num / den
  let twice := 2 * (num % den)
  if den < twice || (twice == den && quotient % 2 == 1) then quotient + 1 else quotient

/-- The rank nearest to `num / den`.  It may lie beyond the finite ones. -/
def rankOfRatio (num den : Nat) : Nat :=
  let units := num * unitsPerOne
  let exponent := (units / den).log2 - 52
  exponent * fractionSize + divideToNearest units (den * Nat.pow 2 exponent)

/-! ## Numbers -/

/-- The number of a sign and a rank, unless the rank is not finite. -/
def ofRank? (negative : Bool) (rank : Nat) : Option Binary64 :=
  if h : rank < 0x7FF0000000000000 then some ⟨negative, rank, h⟩ else none

/-- The number nearest to a ratio, unless it is too large. -/
def ofRatio? (negative : Bool) (num den : Nat) : Option Binary64 :=
  ofRank? negative (rankOfRatio num den)

/-- The magnitude in units of 2 ^ -1074. -/
def units (x : Binary64) : Nat :=
  unitsOfRank x.rank

/-- The zero of a sign. -/
def zero (negative : Bool) : Binary64 := ⟨negative, 0, by decide⟩

/-- The bit pattern: the sign bit above the rank. -/
def bits (x : Binary64) : Nat :=
  (if x.negative then 0x8000000000000000 else 0) + x.rank

/-- The number nearest to `coefficient * 10 ^ exponent`, unless it is too large.  Exponents far out
of range are settled without computing the power. -/
def ofDecimal? (negative : Bool) (coefficient : Nat) (exponent : Int) : Option Binary64 :=
  if coefficient = 0 then some (zero negative)
  else if 310 < exponent then none
  else if exponent < -(coefficient.log2 + 400 : Int) then some (zero negative)
  else if 0 ≤ exponent then ofRatio? negative (coefficient * Nat.pow 10 exponent.toNat) 1
  else ofRatio? negative coefficient (Nat.pow 10 (-exponent).toNat)

/-- The number nearest to an integer that fits in 64 bits.  Larger ones are rounded alike and stop at
the largest finite number. -/
def ofInt (i : Int) : Binary64 :=
  match ofRatio? (i < 0) i.natAbs 1 with
  | some x => x
  | none => ⟨i < 0, 0x7FEFFFFFFFFFFFFF, by decide⟩

/-! ## Scaling by powers of ten -/

/-- The rounded product of a magnitude and 10 ^ `power`, where the power is rounded first. -/
def timesPower? (x : Binary64) (power : Nat) : Option Binary64 :=
  ofRatio? x.negative (x.units * unitsOfRank (rankOfRatio (Nat.pow 10 power) 1)) (unitsPerOne * unitsPerOne)

/-- The rounded quotient of a magnitude by 10 ^ `power`, where the power is rounded first. -/
def overPower? (x : Binary64) (power : Nat) : Option Binary64 :=
  ofRatio? x.negative x.units (unitsOfRank (rankOfRatio (Nat.pow 10 power) 1))

/-- `x / 10 ^ power`, divided by 10 ^ 308 as often as the power exceeds it.  A zero stays what it is. -/
def scaleDown? (x : Binary64) (power : Nat) : Option Binary64 :=
  if power ≤ 308 then x.overPower? power
  else if x.rank = 0 then some x
  else (x.overPower? 308).bind fun y => y.scaleDown? (power - 308)
termination_by power

/-- A whole number times a power of ten in steps: the whole number is rounded, then the product or
quotient with the power.  No step may overflow. -/
def scaled? (negative : Bool) (coefficient : Nat) (exponent : Int) : Option Binary64 :=
  let whole := ofInt coefficient
  let magnitude := if 0 ≤ exponent then
      if exponent ≤ 308 then whole.timesPower? exponent.toNat
      else if whole.rank = 0 then some whole else none
    else whole.scaleDown? (-exponent).toNat
  magnitude.map fun x => { x with negative := negative }

end Binary64
end RequestQuery
