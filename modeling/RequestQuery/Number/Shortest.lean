import RequestQuery.Number.Binary64
import RequestQuery.Text.Digits

/-! # Shortest decimal texts

A binary64 number is written with the fewest decimal digits that read back as
the same number, and of those with the digits nearest to it.  The decimals that
read back are those between the midpoints to the neighbouring ranks, the
midpoints included when the rank is even.  What remains is a matter of layout,
and a layout says where positional notation ends.
-/
namespace RequestQuery

/-- The decimal number `digits * 10 ^ exponent` with a sign. -/
structure Decimal where
  negative : Bool
  digits : Nat
  exponent : Int
  deriving DecidableEq, Repr

namespace Decimal

/-! ## The fewest digits -/

/-- The position of the leading digit of `units / 2 ^ 1074`: the power of ten just below it. -/
def leadingPower (units : Nat) : Int :=
  let whole := units / Binary64.unitsPerOne
  if whole = 0 then
    match (List.range 330).find? fun k => Binary64.unitsPerOne ≤ units * Nat.pow 10 k with
    | some k => -(k : Int)
    | none => -330
  else ((Text.decimal whole).length : Int) - 1

/-- Whether `coefficient * 10 ^ exponent` reads back as the number of this rank. -/
def readsBack (rank coefficient : Nat) (exponent : Int) : Bool :=
  let low := Binary64.unitsOfRank (rank - 1) + Binary64.unitsOfRank rank
  let high := Binary64.unitsOfRank rank + Binary64.unitsOfRank (rank + 1)
  let doubled := 2 * coefficient * Binary64.unitsPerOne * Nat.pow 10 exponent.toNat
  let scale := Nat.pow 10 (-exponent).toNat
  if rank % 2 == 0 then low * scale ≤ doubled && doubled ≤ high * scale
  else low * scale < doubled && doubled < high * scale

/-- The decimal with digits down to the power `exponent` that is nearest to the number of this rank
among those that read back.  Only the two neighbours on the decimal grid can be. -/
def onGrid? (rank : Nat) (exponent : Int) : Option Nat :=
  let num := Binary64.unitsOfRank rank * Nat.pow 10 (-exponent).toNat
  let den := Binary64.unitsPerOne * Nat.pow 10 exponent.toNat
  let below := num / den
  let nearest := Binary64.divideToNearest num den
  let other := if nearest = below then below + 1 else below
  if readsBack rank nearest exponent then some nearest
  else if readsBack rank other exponent then some other
  else none

/-- The shortest decimal that reads back as the number, the nearest one of that length. -/
def ofBinary64 (x : Binary64) : Decimal :=
  if x.rank = 0 then ⟨x.negative, 0, 0⟩
  else
    let leading := leadingPower x.units
    let grids := (List.range 17).map fun n : Nat => leading - (n : Int)
    match grids.findSome? fun exponent => (onGrid? x.rank exponent).map (·, exponent) with
    | some (coefficient, exponent) => ⟨x.negative, coefficient, exponent⟩
    | none => ⟨x.negative, 0, 0⟩

/-! ## Layouts -/

/-- How many zeros stand at the end of a run of digits. -/
def trailingZeros (digits : List Char) : Nat :=
  (digits.reverse.takeWhile (· == '0')).length

/-- The digits without zeros at their end, and the power of ten of the last one. -/
def significant (d : Decimal) : List Char × Int :=
  let digits := Text.decimal d.digits
  if d.digits = 0 then (['0'], 0)
  else
    let zeros := trailingZeros digits
    (digits.take (digits.length - zeros), d.exponent + zeros)

/-- Positional notation, with as many zeros as it takes and no point in whole numbers. -/
def positional (digits : List Char) (exponent : Int) : List Char :=
  let point : Int := digits.length + exponent
  if 0 ≤ exponent then digits ++ List.replicate exponent.toNat '0'
  else if 0 < point then digits.take point.toNat ++ '.' :: digits.drop point.toNat
  else '0' :: '.' :: (List.replicate (-point).toNat '0' ++ digits)

/-- One digit before the point and a signed exponent. -/
def scientific (digits : List Char) (exponent : Int) : List Char :=
  let power : Int := digits.length + exponent - 1
  let mantissa := match digits with
    | [] => []
    | [d] => [d]
    | d :: rest => d :: '.' :: rest
  mantissa ++ 'e' :: (if 0 ≤ power then '+' :: Text.signedDecimal power else Text.signedDecimal power)

/-- The text of a number inside a document: positional from 10 ^ -5 up to below 10 ^ 16, a whole number
with one zero behind its point, scientific outside that range. -/
def documentText (d : Decimal) : List Char :=
  let (digits, exponent) := d.significant
  let power : Int := digits.length + exponent - 1
  let unsigned :=
    if -5 ≤ power && power < 16 then
      if 0 ≤ exponent then positional digits exponent ++ ['.', '0'] else positional digits exponent
    else scientific digits exponent
  if d.negative then '-' :: unsigned else unsigned

/-- The text of a number used as a setting: always positional. -/
def settingText (d : Decimal) : List Char :=
  let (digits, exponent) := d.significant
  let unsigned := positional digits exponent
  if d.negative then '-' :: unsigned else unsigned

end Decimal
end RequestQuery
