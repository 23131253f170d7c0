import RequestQuery.Proofs.Distinct.Source
import RequestQuery.Proofs.Number.WholeNumber
import RequestQuery.Proofs.Sql.Numeric
import RequestQuery.Proofs.Text.Digits

/-! # Integers as places

The integers of a document go from -2 ^ 63 to 2 ^ 64 - 1.  A cursor at one that
fits in 64 bits with a sign is compared with by itself, a cursor at a larger one
by the nearest binary64 number.  That is the integer if it is a multiple of 2048,
and otherwise as much as 1024 beside it, where the rows of other integers may
lie (`Cursor.placesExactly_iff`).
-/
namespace RequestQuery
namespace Cursor

variable {n m : Int}

/-! ## Bound numbers -/

/-- The number that a cursor at an integer is compared with by. -/
def boundNumber (n : Int) : ℚ :=
  if fitsInt64 n then n else (Binary64.ofInt n).toRat

theorem number?_numberValue (n : Int) :
    (Datum.ofSqlValue (numberValue (.integer n))).number? = some (boundNumber n) := by
  rw [numberValue, boundNumber]
  split
  · rfl
  · rfl

theorem numberValue_of_le (hlow : -2 ^ 63 ≤ n) (hsmall : n ≤ 2 ^ 63 - 1) :
    numberValue (.integer n) = .bigInt n :=
  if_pos (fitsInt64_iff.mpr ⟨hlow, hsmall⟩)

theorem numberValue_of_lt (hlarge : 2 ^ 63 - 1 < n) :
    numberValue (.integer n) = .double (Binary64.ofInt n) :=
  if_neg fun h => absurd (fitsInt64_iff.mp h).2 (not_le.mpr hlarge)

theorem boundNumber_of_le (hlow : -2 ^ 63 ≤ n) (hsmall : n ≤ 2 ^ 63 - 1) : boundNumber n = n :=
  if_pos (fitsInt64_iff.mpr ⟨hlow, hsmall⟩)

theorem boundNumber_of_lt (hlarge : 2 ^ 63 - 1 < n) : boundNumber n = (Binary64.ofInt n).toRat :=
  if_neg fun h => absurd (fitsInt64_iff.mp h).2 (not_le.mpr hlarge)

/-- The larger integers are whole numbers of 64 binary digits, of which binary64 keeps 53. -/
theorem exists_isNearestTo_ofInt (hlarge : 2 ^ 63 - 1 < n) (hhigh : n ≤ 2 ^ 64 - 1) :
    ∃ k : Nat, n = k ∧ Binary64.fractionSize * 2 ^ 11 ≤ k ∧ k ≤ 2 * Binary64.fractionSize * 2 ^ 11 ∧
      (Binary64.ofInt n).IsNearestTo k := by
  obtain ⟨k, rfl⟩ := Int.eq_ofNat_of_zero_le (show 0 ≤ n by omega)
  have hfinite : |((k : Int) : ℚ)| < Binary64.finiteBound := by
    refine lt_trans ?_ Binary64.two_pow_lt_finiteBound
    rw [Int.cast_natCast, Nat.abs_cast]
    exact_mod_cast (by omega : k < 2 ^ 64)
  simp only [Binary64.fractionSize]
  exact ⟨k, rfl, by omega, by omega, Binary64.isNearestTo_ofInt hfinite⟩

theorem boundNumber_eq_iff (hlow : -2 ^ 63 ≤ n) (hhigh : n ≤ 2 ^ 64 - 1) :
    boundNumber n = n ↔ n ≤ 2 ^ 63 - 1 ∨ 2048 ∣ n := by
  rcases lt_or_ge (2 ^ 63 - 1) n with hlarge | hsmall
  · rw [boundNumber_of_lt hlarge, or_iff_right (not_le.mpr hlarge)]
    obtain ⟨k, rfl, hstart, hend, hnearest⟩ := exists_isNearestTo_ofInt hlarge hhigh
    rw [Int.cast_natCast, hnearest.toRat_eq_iff, Nat.abs_cast,
      Binary64.exists_rankValue_eq_iff hstart hend]
    exact Int.natCast_dvd_natCast.symm
  · exact iff_of_true (boundNumber_of_le hlow hsmall) (.inl hsmall)

theorem abs_boundNumber_sub_le (hlow : -2 ^ 63 ≤ n) (hhigh : n ≤ 2 ^ 64 - 1) :
    |boundNumber n - n| ≤ 1024 := by
  rcases lt_or_ge (2 ^ 63 - 1) n with hlarge | hsmall
  · rw [boundNumber_of_lt hlarge]
    obtain ⟨k, rfl, hstart, hend, hnearest⟩ := exists_isNearestTo_ofInt hlarge hhigh
    have hhalf := hnearest.two_mul_abs_sub_le hstart hend
    rw [Int.cast_natCast]
    linarith
  · rw [boundNumber_of_le hlow hsmall, sub_self, abs_zero]
    norm_num

/-- Integers are compared with by the same value only if they are the same, or if both are beyond 64
bits with a sign and one of them is not bound exactly. -/
theorem eq_or_of_numberValue_eq (hlow : -2 ^ 63 ≤ n) (hhigh : n ≤ 2 ^ 64 - 1) (hlow' : -2 ^ 63 ≤ m)
    (hhigh' : m ≤ 2 ^ 64 - 1) (h : numberValue (.integer m) = numberValue (.integer n)) :
    m = n ∨ 2 ^ 63 ≤ m ∧ 2 ^ 63 ≤ n ∧ ¬ (2048 ∣ m ∧ 2048 ∣ n) := by
  have hbound : boundNumber m = boundNumber n := by
    rw [← Option.some_inj, ← number?_numberValue, h, number?_numberValue]
  rcases lt_or_ge (2 ^ 63 - 1) m with hm | hm
  · rcases lt_or_ge (2 ^ 63 - 1) n with hn | hn
    · by_cases hdvd : 2048 ∣ m ∧ 2048 ∣ n
      · rw [(boundNumber_eq_iff hlow' hhigh').mpr (.inr hdvd.1),
          (boundNumber_eq_iff hlow hhigh).mpr (.inr hdvd.2)] at hbound
        exact .inl (Int.cast_injective hbound)
      · exact .inr ⟨by omega, by omega, hdvd⟩
    · rw [numberValue_of_lt hm, numberValue_of_le hlow hn] at h
      cases h
  · rcases lt_or_ge (2 ^ 63 - 1) n with hn | hn
    · rw [numberValue_of_le hlow' hm, numberValue_of_lt hn] at h
      cases h
    · rw [boundNumber_of_le hlow' hm, boundNumber_of_le hlow hn] at hbound
      exact .inl (Int.cast_injective hbound)

/-! ## Conditions at integers -/

section
variable {E : Engine} {value : Expr} {row : Row}

/-- Behind a cursor are the integers above its bound number. -/
theorem condition_ofInt_after (hE : E.ComparesNumbers) (hvalue : value.eval E row = .int m) :
    ∃ place, condition ⟨.ofInt n, true⟩ value = .ok place ∧ (place.Holds E row ↔ boundNumber n < m) := by
  refine ⟨value.compareTo .greater (numberValue (.integer n)),
    condition_eq_ok.mpr ⟨_, rfl, rfl⟩, ?_⟩
  have hle := hE (a := .int m) rfl (number?_numberValue n)
  rw [Expr.holds_compareTo, hvalue, ← not_le, ← hle]
  simp [Engine.relates]

/-- Before a cursor are the integers below its bound number. -/
theorem condition_ofInt_before (hE : E.ComparesNumbers) (hvalue : value.eval E row = .int m) :
    ∃ place, condition ⟨.ofInt n, false⟩ value = .ok place ∧
      (place.Holds E row ↔ m < boundNumber n) := by
  refine ⟨.either (value.compareTo .less (numberValue (.integer n))) (.isNull value),
    condition_eq_ok.mpr ⟨_, rfl, rfl⟩, ?_⟩
  have hle := hE (b := .int m) (number?_numberValue n) rfl
  rw [Expr.holds_either, Expr.holds_compareTo, Expr.holds_isNull, hvalue, ← not_le, ← hle]
  simp [Engine.relates]

end

/-- The value bound for the integer stands for just that integer. -/
def BindsExactly (n : Int) : Prop :=
  ∀ forward, ∃ v, (⟨.ofInt n, forward⟩ : Cursor).sqlValue = .ok (some v) ∧
    (Datum.ofSqlValue v).number? = some (n : ℚ)

/-- Where rows hold integers of 64 bits without a sign, the conditions of the cursors at the integer
hold just in the rows behind it and just in those before it. -/
def PlacesExactly (E : Engine) (n : Int) : Prop :=
  ∀ (value : Expr) (row : Row) (m : Int), fitsWord64 m = true → value.eval E row = .int m →
    (∃ place, condition ⟨.ofInt n, true⟩ value = .ok place ∧ (place.Holds E row ↔ n < m)) ∧
    ∃ place, condition ⟨.ofInt n, false⟩ value = .ok place ∧ (place.Holds E row ↔ m < n)

theorem bindsExactly_iff : BindsExactly n ↔ boundNumber n = n := by
  constructor
  · intro h
    obtain ⟨v, hv, hnumber⟩ := h true
    cases hv
    exact Option.some_inj.mp ((number?_numberValue n).symm.trans hnumber)
  · intro h forward
    exact ⟨_, rfl, h ▸ number?_numberValue n⟩

theorem placesExactly_of_bindsExactly {E : Engine} (hE : E.ComparesNumbers) (h : BindsExactly n) :
    PlacesExactly E n := by
  intro value row m _ hvalue
  rw [bindsExactly_iff] at h
  obtain ⟨after, hafter, hbehind⟩ := condition_ofInt_after (n := n) hE hvalue
  obtain ⟨before, hbefore, hfront⟩ := condition_ofInt_before (n := n) hE hvalue
  rw [h, Int.cast_lt] at hbehind hfront
  exact ⟨⟨after, hafter, hbehind⟩, before, hbefore, hfront⟩

/-- A cursor beside its integer takes the row of that integer to be behind it or before it. -/
theorem PlacesExactly.bindsExactly {E : Engine} (hE : E.ComparesNumbers) (hn : fitsWord64 n = true)
    (h : PlacesExactly E n) : BindsExactly n := by
  have hvalue : (Expr.column none "id").eval E (fun _ _ => .int n) = .int n := rfl
  obtain ⟨⟨after, hafter, hbehind⟩, before, hbefore, hfront⟩ := h _ _ n hn hvalue
  obtain ⟨after', hafter', hbound⟩ := condition_ofInt_after (n := n) hE hvalue
  obtain ⟨before', hbefore', hbound'⟩ := condition_ofInt_before (n := n) hE hvalue
  obtain rfl := Except.ok.inj (hafter.symm.trans hafter')
  obtain rfl := Except.ok.inj (hbefore.symm.trans hbefore')
  rw [bindsExactly_iff]
  refine le_antisymm (not_lt.mp fun hlt => ?_) (not_lt.mp fun hlt => ?_)
  · exact lt_irrefl n (hfront.mp (hbound'.mpr hlt))
  · exact lt_irrefl n (hbehind.mp (hbound.mpr hlt))

/-- **Cursors at integers beyond 64 bits with a sign are rounded.**  A cursor binds the integer that it
is at, and finds the rows behind it and before it, exactly if the integer fits in 64 bits with a sign or
is a multiple of 2048.  Otherwise it is at most 1024 beside it.  Two integers are bound as one value
only if both are beyond 64 bits with a sign and one at least is no such multiple. -/
theorem placesExactly_iff {E : Engine} (hE : E.ComparesNumbers) (hlow : -2 ^ 63 ≤ n)
    (hhigh : n ≤ 2 ^ 64 - 1) :
    (BindsExactly n ↔ n ≤ 2 ^ 63 - 1 ∨ 2048 ∣ n) ∧
      (PlacesExactly E n ↔ n ≤ 2 ^ 63 - 1 ∨ 2048 ∣ n) ∧
      (∃ v b, (∀ forward, (⟨.ofInt n, forward⟩ : Cursor).sqlValue = .ok (some v)) ∧
        (Datum.ofSqlValue v).number? = some b ∧ |b - n| ≤ 1024) ∧
      ∀ m, -2 ^ 63 ≤ m → m ≤ 2 ^ 64 - 1 →
        (⟨.ofInt m, true⟩ : Cursor).sqlValue = (⟨.ofInt n, true⟩ : Cursor).sqlValue →
          m = n ∨ 2 ^ 63 ≤ m ∧ 2 ^ 63 ≤ n ∧ ¬ (2048 ∣ m ∧ 2048 ∣ n) := by
  have hbinds : BindsExactly n ↔ n ≤ 2 ^ 63 - 1 ∨ 2048 ∣ n := by
    rw [bindsExactly_iff, boundNumber_eq_iff hlow hhigh]
  refine ⟨hbinds, ⟨fun h => ?_, fun h => ?_⟩, ?_, fun m hlow' hhigh' h => ?_⟩
  · rcases lt_or_ge (2 ^ 63 - 1) n with hlarge | hsmall
    · have hword : fitsWord64 n = true := fitsWord64_iff.mpr ⟨by omega, hhigh⟩
      exact hbinds.mp (h.bindsExactly hE hword)
    · exact .inl hsmall
  · exact placesExactly_of_bindsExactly hE (hbinds.mpr h)
  · exact ⟨_, _, fun _ => rfl, number?_numberValue n, abs_boundNumber_sub_le hlow hhigh⟩
  · exact eq_or_of_numberValue_eq hlow hhigh hlow' hhigh' (Option.some_inj.mp (Except.ok.inj h))

/-- The first integer that does not fit, and the next one that is bound exactly. -/
theorem placesExactly_multiple :
    let E := Engine.numeric .mysql fun _ _ x _ => x
    E.ComparesNumbers ∧ PlacesExactly E (2 ^ 63) ∧ ¬ PlacesExactly E (2 ^ 63 + 1) ∧
      PlacesExactly E (2 ^ 63 + 2048) := by
  intro E
  have hE : E.ComparesNumbers := Engine.numeric_comparesNumbers
  obtain ⟨-, hfirst, -⟩ := placesExactly_iff hE (n := 2 ^ 63) (by decide) (by decide)
  obtain ⟨-, hbeside, -⟩ := placesExactly_iff hE (n := 2 ^ 63 + 1) (by decide) (by decide)
  obtain ⟨-, hnext, -⟩ := placesExactly_iff hE (n := 2 ^ 63 + 2048) (by decide) (by decide)
  exact ⟨hE, hfirst.mpr (by decide), fun h => absurd (hbeside.mp h) (by decide), hnext.mpr (by decide)⟩

/-- The integer behind 2 ^ 63 is bound as 2 ^ 63 is, and its row is shown again behind its own cursor. -/
theorem not_bindsExactly_large :
    let E := Engine.numeric .mysql fun _ _ x _ => x
    let n := 9223372036854775809
    ¬ BindsExactly n ∧
      (⟨.ofInt n, true⟩ : Cursor).sqlValue = (⟨.ofInt 9223372036854775808, true⟩ : Cursor).sqlValue ∧
      ∃ place, condition ⟨.ofInt n, true⟩ (.column none "id") = .ok place ∧
        place.Holds E fun _ _ => .int n := by
  intro E n
  have hsame : numberValue (.integer n) = numberValue (.integer 9223372036854775808) := by
    decide +kernel
  have hlower : boundNumber n = (9223372036854775808 : Int) := by
    rw [← Option.some_inj, ← number?_numberValue, hsame, number?_numberValue,
      (boundNumber_eq_iff (by decide) (by decide)).mpr (.inr (by decide))]
  have hE : E.ComparesNumbers := Engine.numeric_comparesNumbers
  have hvalue : (Expr.column none "id").eval E (fun _ _ => .int n) = .int n := rfl
  obtain ⟨place, hplace, hholds⟩ := condition_ofInt_after (n := n) hE hvalue
  refine ⟨?_, congrArg (fun v => Except.ok (some v)) hsame, place, hplace, hholds.mpr ?_⟩
  · rw [bindsExactly_iff, hlower, Int.cast_inj]
    decide
  · rw [hlower, Int.cast_lt]
    decide

end Cursor
end RequestQuery
