import RequestQuery.Calendar.Read
import RequestQuery.Proofs.Text.Digits

/-! # Numeric fields read back

A number in two places is written with both and read back from them, whatever
follows (`scanField?_twoDigits`).  A year has four places, and no more digits are
taken; with a sign all digits are taken, so that no digit may follow
(`scanField?_yearDigits`).
-/
namespace RequestQuery

namespace Date

/-- A year without a sign has four digits. -/
theorem yearDigits_of_unsigned {year : Int} (hlow : 0 ≤ year) (hhigh : year ≤ 9999) :
    yearDigits year = Text.padLeft 4 '0' (Text.decimal year.natAbs) := by
  rw [yearDigits, if_neg (by omega), if_neg (by omega)]

theorem yearDigits_of_neg {year : Int} (h : year < 0) :
    yearDigits year = '-' :: Text.padLeft 4 '0' (Text.decimal year.natAbs) := by
  rw [yearDigits, if_pos h]

theorem yearDigits_of_long {year : Int} (h : 9999 < year) :
    yearDigits year = '+' :: Text.padLeft 4 '0' (Text.decimal year.natAbs) := by
  rw [yearDigits, if_neg (by omega), if_pos h]

end Date

namespace Pattern

/-! ## Writing -/

theorem writeTwo_zero {n : Nat} (h : n < 100) : writeTwo .zero n = Date.twoDigits n := by
  rw [Date.twoDigits, Text.padLeft_two_decimal h]
  unfold writeTwo
  cases n / 10 <;> rfl

theorem writeYear_zero (year : Int) : writeYear .zero year = Date.yearDigits year := by
  by_cases hunsigned : 0 ≤ year ∧ year ≤ 9999
  · rw [Date.yearDigits_of_unsigned hunsigned.1 hunsigned.2, writeYear, if_pos (by simpa using hunsigned)]
    rfl
  · rw [writeYear, if_neg (by simpa using hunsigned), signed]
    by_cases hneg : year < 0
    · rw [Date.yearDigits_of_neg hneg, if_pos hneg]
    · rw [Date.yearDigits_of_long (by omega), if_neg hneg]

/-! ## Reading -/

/-- A number is read whole where it fills all places, or no digit follows it, if it fits in 64 bits. -/
theorem scanNumber?_append {most : Nat} {digits rest : List Char} (hne : digits ≠ [])
    (hdigits : ∀ c ∈ digits, c.isDigit = true) (hlength : digits.length ≤ most)
    (hend : digits.length = most ∨ Text.EndsRun Char.isDigit rest) :
    scanNumber? most (digits ++ rest) =
      if 0x8000000000000000 ≤ Text.valueOf digits then none else some ((Text.valueOf digits : Int), rest) := by
  have hempty : digits.isEmpty = false := List.isEmpty_eq_false_iff.mpr hne
  have hrun := Text.digitRun_append hdigits hlength hend
  simp [scanNumber?, hrun, hempty]

/-- The number in some places is read back if it fits in 64 bits. -/
theorem scanNumber?_padLeft {most width n : Nat} {rest : List Char}
    (hlength : (Text.padLeft width '0' (Text.decimal n)).length ≤ most)
    (hend : (Text.padLeft width '0' (Text.decimal n)).length = most ∨ Text.EndsRun Char.isDigit rest) :
    scanNumber? most (Text.padLeft width '0' (Text.decimal n) ++ rest) =
      if 0x8000000000000000 ≤ n then none else some ((n : Int), rest) := by
  rw [scanNumber?_append (Text.padLeft_decimal_ne_nil width n) (fun _ => Text.isDigit_of_mem_padLeft) hlength
    hend, Text.valueOf_padLeft]

/-- A field that begins with a digit has no sign. -/
theorem scanField?_cons_digit (field : NumericField) {c : Char} (h : c.isDigit = true) (s : List Char) :
    scanField? field (c :: s) = scanNumber? ((placesOf field).getD (c :: s).length) (c :: s) := by
  have htrim : Text.trimStart (c :: s) = c :: s := by
    rw [Text.trimStart, List.dropWhile_cons_of_neg (by simp [Text.isBlank_of_isDigit h])]
  simp only [scanField?, htrim]
  split
  · next heq =>
    cases heq
    exact absurd h (by decide)
  · next heq =>
    cases heq
    exact absurd h (by decide)
  · rfl

theorem scanField?_padLeft (field : NumericField) (width n : Nat) (rest : List Char) :
    scanField? field (Text.padLeft width '0' (Text.decimal n) ++ rest) =
      scanNumber? ((placesOf field).getD (Text.padLeft width '0' (Text.decimal n) ++ rest).length)
        (Text.padLeft width '0' (Text.decimal n) ++ rest) := by
  obtain ⟨c, more, hs⟩ := List.exists_cons_of_ne_nil (Text.padLeft_decimal_ne_nil width n)
  have hc : c.isDigit = true := Text.isDigit_of_mem_padLeft (hs ▸ List.mem_cons_self)
  rw [hs, List.cons_append, scanField?_cons_digit field hc]

/-- A number below 100 is read back from its two places. -/
theorem scanField?_twoDigits {field : NumericField} (hplaces : placesOf field = some 2) {n : Nat}
    (h : n < 100) (rest : List Char) :
    scanField? field (Date.twoDigits n ++ rest) = some ((n : Int), rest) := by
  have hlength : (Text.padLeft 2 '0' (Text.decimal n)).length = 2 := Text.length_padLeft_decimal h
  rw [Date.twoDigits, scanField?_padLeft, hplaces, Option.getD_some,
    scanNumber?_padLeft hlength.le (.inl hlength), if_neg (by omega)]

theorem scanField?_year_minus (s : List Char) :
    scanField? .year ('-' :: s) =
      (scanNumber? s.length s).map fun (value, rest) => (-value, rest) := rfl

theorem scanField?_year_plus (s : List Char) :
    scanField? .year ('+' :: s) = scanNumber? s.length s := rfl

/-- A year is read back if it fits in 64 bits and no digit follows it. -/
theorem scanField?_yearDigits (year : Int) {rest : List Char} (hrest : Text.EndsRun Char.isDigit rest) :
    scanField? .year (Date.yearDigits year ++ rest) =
      if 0x8000000000000000 ≤ year.natAbs then none else some (year, rest) := by
  let digits := Text.padLeft 4 '0' (Text.decimal year.natAbs)
  have hsigned : scanNumber? (digits ++ rest).length (digits ++ rest) =
      if 0x8000000000000000 ≤ year.natAbs then none else some ((year.natAbs : Int), rest) :=
    scanNumber?_padLeft (by simp [digits]) (.inr hrest)
  by_cases hneg : year < 0
  · rw [Date.yearDigits_of_neg hneg, List.cons_append, scanField?_year_minus, hsigned]
    split
    · rfl
    · rw [Option.map_some, Int.ofNat_natAbs_of_nonpos (Int.le_of_lt hneg)]
      show some (- -year, rest) = _
      rw [Int.neg_neg]
  · have habs : (year.natAbs : Int) = year := Int.natAbs_of_nonneg (Int.not_lt.mp hneg)
    by_cases hlong : 9999 < year
    · rw [Date.yearDigits_of_long hlong, List.cons_append, scanField?_year_plus, hsigned, habs]
    · -- Without a sign the four places are all that is read.
      have hsmall : year.natAbs < 10000 := by omega
      have hlength : digits.length = 4 := Text.length_padLeft_decimal hsmall
      rw [Date.yearDigits_of_unsigned (Int.not_lt.mp hneg) (Int.not_lt.mp hlong), scanField?_padLeft,
        placesOf, Option.getD_some, scanNumber?_padLeft hlength.le (.inl hlength), habs]

end Pattern
end RequestQuery
