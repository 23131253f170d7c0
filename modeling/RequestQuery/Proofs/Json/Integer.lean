import RequestQuery.Json.Printer
import RequestQuery.Json.Reader
import RequestQuery.Proofs.Text.Digits

/-! # Reading integers back

An integer is written as its decimal digits without a superfluous zero, so that
the reader takes all of them and nothing else for its numeral
(`readToken?_signedDecimal`).  The numeral denotes the integer again if it fits
in 64 bits, with a sign or without one (`number?_numeralOf`).
-/
namespace RequestQuery

namespace Text

/-- A number above zero does not begin with a zero. -/
theorem head_decimal {n : Nat} (h : 0 < n) :
    ∃ d : Fin 9, ∃ rest, decimal n = digitChar (d + 1) :: rest := by
  rw [decimal]
  split
  · next hn => exact ⟨⟨n - 1, by omega⟩, [], by rw [Nat.sub_add_cancel h]⟩
  · next hn =>
    obtain ⟨d, rest, hd⟩ := head_decimal (n := n / 10) (by omega)
    exact ⟨d, rest ++ [digitChar (n % 10)], by rw [hd, List.cons_append]⟩

theorem decimal_zero : decimal 0 = ['0'] := by
  rw [decimal]
  rfl

theorem digits_decimal (n : Nat) : digits (decimal n) = (decimal n, []) := by
  have h : ∀ c ∈ decimal n, c.isDigit = true := fun c hc => isDigit_of_mem_decimal hc
  rw [digits, List.takeWhile_eq_self_iff.mpr h, List.dropWhile_eq_nil_iff.mpr h]

end Text

namespace Json

/-- The numeral that an integer is read back as. -/
def numeralOf (i : Int) : Numeral where
  negative := i < 0
  whole := Text.decimal i.natAbs
  fraction := []
  plain := true
  power := 0

/-! ## From digits to a numeral -/

theorem readWhole?_decimal (n : Nat) : readWhole? (Text.decimal n) = some (Text.decimal n, []) := by
  rcases Nat.eq_zero_or_pos n with rfl | h
  · rw [Text.decimal_zero]
    rfl
  · obtain ⟨d, rest, hd⟩ := Text.head_decimal h
    have hzero : ∀ d : Fin 9, Text.digitChar (d + 1) ≠ '0' := by decide
    rw [readWhole?]
    · rw [Text.digits_decimal, if_neg (by simp [Text.decimal_ne_nil])]
    · intro rest' h'
      rw [hd] at h'
      exact hzero d (List.cons.inj h').1

theorem minus_decimal (n : Nat) : minus (Text.decimal n) = (false, Text.decimal n) := by
  have h : ∀ c ∈ Text.decimal n, c ≠ '-' := by
    rintro c hc rfl
    exact absurd (Text.isDigit_of_mem_decimal hc) (by decide)
  cases hs : Text.decimal n with
  | nil => rfl
  | cons c rest =>
    rw [minus]
    rintro rest' h'
    exact h c (hs ▸ List.mem_cons_self) (List.cons.inj h').1

theorem readNumeral?_signedDecimal (i : Int) :
    readNumeral? (Text.signedDecimal i) = some (numeralOf i, []) := by
  cases i with
  | ofNat n =>
    simp only [readNumeral?, Text.signedDecimal, minus_decimal, readWhole?_decimal,
      readFraction?, readPower?, Option.bind_eq_bind, Option.bind_some]
    simp [numeralOf]
  | negSucc n =>
    simp only [readNumeral?, Text.signedDecimal, minus, readWhole?_decimal,
      readFraction?, readPower?, Option.bind_eq_bind, Option.bind_some]
    simp [numeralOf]

/-! ## The token of an integer -/

theorem isNumeralChar_of_mem_signedDecimal {i : Int} {c : Char} (h : c ∈ Text.signedDecimal i) :
    isNumeralChar c = true := by
  cases i with
  | ofNat n => simp [isNumeralChar, Text.isDigit_of_mem_decimal h]
  | negSucc n =>
    rcases List.mem_cons.mp h with rfl | h
    · decide
    · simp [isNumeralChar, Text.isDigit_of_mem_decimal h]

theorem signedDecimal_ne_nil (i : Int) : Text.signedDecimal i ≠ [] := by
  cases i with
  | ofNat n => exact Text.decimal_ne_nil n
  | negSucc n => exact List.cons_ne_nil _ _

/-- What begins like a numeral is read as one. -/
theorem readToken?_cons_numeralChar {c : Char} (hc : isNumeralChar c = true)
    (s : List Text.Symbol) :
    readToken? (some c :: s) =
      (readNumeral? (Text.charsWhile isNumeralChar (some c :: s)).1).map fun (value, rest) =>
        (.numeral value, rest.map some ++ (Text.charsWhile isNumeralChar (some c :: s)).2) := by
  rw [readToken?]
  · exact List.cons_ne_nil _ _
  all_goals
    rintro rest h
    cases h
    exact absurd hc (by decide)

/-- An integer is read up to where its numeral ends. -/
theorem readToken?_signedDecimal (i : Int) {rest : List Char} (h : Text.EndsRun isNumeralChar rest) :
    readToken? ((Text.signedDecimal i ++ rest).map some) =
      some (.numeral (numeralOf i), rest.map some) := by
  have hall : ∀ d ∈ Text.signedDecimal i, isNumeralChar d = true := fun _ =>
    isNumeralChar_of_mem_signedDecimal
  have hsplit : Text.charsWhile isNumeralChar ((Text.signedDecimal i ++ rest).map some) =
      (Text.signedDecimal i, rest.map some) := by
    rw [Text.charsWhile_map_some, List.takeWhile_append_of_pos hall,
      List.dropWhile_append_of_pos hall, h.takeWhile, h.dropWhile, List.append_nil]
  have hread := readNumeral?_signedDecimal i
  obtain ⟨first, more, hs⟩ := List.exists_cons_of_ne_nil (signedDecimal_ne_nil i)
  rw [hs] at hall hsplit hread ⊢
  rw [List.cons_append, List.map_cons] at hsplit ⊢
  rw [readToken?_cons_numeralChar (hall first List.mem_cons_self), hsplit, hread]
  rfl

/-! ## From a numeral to the integer -/

theorem le_valueFrom (start : Nat) (digits : List Char) : start ≤ Text.valueFrom start digits := by
  induction digits generalizing start with
  | nil => exact Nat.le_refl _
  | cons c rest ih =>
    have := ih (10 * start + Text.digitValue c)
    simp only [Text.valueFrom, List.foldl_cons] at this ⊢
    omega

/-- Digits are taken into a coefficient as long as the whole number fits in 64 bits. -/
theorem takeDigits_of_valueFrom_lt {start : Nat} {digits : List Char}
    (h : Text.valueFrom start digits < 0x10000000000000000) :
    takeDigits start digits = (Text.valueFrom start digits, []) := by
  induction digits generalizing start with
  | nil => rfl
  | cons c rest ih =>
    have hle : 10 * start + Text.digitValue c ≤ Text.valueFrom start (c :: rest) :=
      le_valueFrom _ rest
    rw [takeDigits, if_pos (Nat.lt_of_le_of_lt hle h)]
    exact ih h

theorem number?_numeralOf {i : Int} (hlow : -0x8000000000000000 ≤ i)
    (hhigh : i < 0x10000000000000000) :
    number? (numeralOf i) = some (.integer i) := by
  have hvalue : Text.valueFrom 0 (Text.decimal i.natAbs) = i.natAbs := Text.valueOf_decimal _
  have hdigits : takeDigits 0 (numeralOf i).whole = (i.natAbs, []) := by
    have hfits : Text.valueFrom 0 (Text.decimal i.natAbs) < 0x10000000000000000 := by omega
    have := takeDigits_of_valueFrom_lt hfits
    rwa [hvalue] at this
  have hcases : number? (numeralOf i) = if 0 ≤ i then some (.integer i.natAbs)
      else if ¬i = 0 ∧ i.natAbs ≤ 0x8000000000000000 then some (.integer (-(i.natAbs : Int)))
      else (Binary64.scaled? (decide (i < 0)) (takeDigits i.natAbs []).1 0).map .real := by
    unfold number?
    rw [hdigits]
    simp [numeralOf]
  rw [hcases]
  split
  · next h => rw [Int.natAbs_of_nonneg h]
  · next h => rw [if_pos (by omega), Int.ofNat_natAbs_of_nonpos (by omega), Int.neg_neg]

end Json
end RequestQuery
