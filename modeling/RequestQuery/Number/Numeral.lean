import RequestQuery.Number.Binary64
import RequestQuery.Text.Digits
import RequestQuery.Text.Blank

/-! # Numerals

A numeral of a request is an optional sign, digits with at most one point among
them and at least one digit in all, and an optional power of ten.  Written
without point and power it denotes an integer, which is kept exactly when it
fits in 64 bits; every other numeral denotes the nearest binary64 number, and
no number at all when that would not be finite.
-/
namespace RequestQuery

/-- The parts of a numeral, as they are written. -/
structure Numeral where
  negative : Bool
  whole : List Char
  fraction : List Char
  /-- Whether there is nothing but a sign and digits. -/
  plain : Bool
  power : Int
  deriving DecidableEq, Repr

namespace Numeral

/-- Splits an optional sign off. -/
def sign : List Char → Bool × List Char
  | '-' :: rest => (true, rest)
  | '+' :: rest => (false, rest)
  | rest => (false, rest)

theorem length_sign (s : List Char) : (sign s).2.length ≤ s.length := by
  unfold sign
  split
  · exact Nat.le_add_right ..
  · exact Nat.le_add_right ..
  · exact Nat.le_refl _

/-- Reads the power of ten at the end of a numeral: nothing, or a marker and a signed whole number. -/
def readPower? : List Char → Option (Bool × Int)
  | [] => some (false, 0)
  | c :: rest =>
    if c = 'e' || c = 'E' then
      let (negative, digits) := sign rest
      if digits.isEmpty || !digits.all Char.isDigit then none
      else
        let value : Int := Text.valueOf digits
        some (true, if negative then -value else value)
    else none

/-- Reads a numeral that takes up the whole text. -/
def read? (s : List Char) : Option Numeral :=
  let (negative, unsigned) := sign s
  let (whole, afterWhole) := Text.digits unsigned
  let (pointed, fraction, rest) := match afterWhole with
    | '.' :: more => let (fraction, rest) := Text.digits more; (true, fraction, rest)
    | rest => (false, [], rest)
  if whole.isEmpty && fraction.isEmpty then none
  else (readPower? rest).map fun (powered, power) =>
    { negative, whole, fraction, plain := !pointed && !powered, power }

/-- The digits as one whole number. -/
def coefficient (n : Numeral) : Nat :=
  Text.valueOf (n.whole ++ n.fraction)

/-- The power of ten that the whole number of all digits is to be scaled by. -/
def exponent (n : Numeral) : Int :=
  n.power - n.fraction.length

/-- The integer that a plain numeral denotes. -/
def integer (n : Numeral) : Int :=
  if n.negative then -(n.coefficient : Int) else n.coefficient

end Numeral

/-- A number given in a request. -/
inductive Number where
  | integer (value : Int)
  | real (value : Binary64)
  deriving DecidableEq, Repr

namespace Number

/-- The number a numeral denotes: an integer of 64 bits exactly, anything else as the nearest binary64
number, if that is finite. -/
def ofNumeral? (n : Numeral) : Option Number :=
  if n.plain && fitsInt64 n.integer then some (.integer n.integer)
  else (Binary64.ofDecimal? n.negative n.coefficient n.exponent).map .real

/-- Reads a number, blanks around it allowed. -/
def read? (s : String) : Option Number :=
  (Numeral.read? (Text.trimChars s.toList)).bind ofNumeral?

end Number
end RequestQuery
