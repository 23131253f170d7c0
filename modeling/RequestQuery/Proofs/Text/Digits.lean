import Mathlib.Algebra.Group.Int.Defs
import Mathlib.Data.List.TakeWhile
import Mathlib.Tactic.Ring
import RequestQuery.Text.Blank
import RequestQuery.Text.Digits

/-! # Runs of digits

Zeros in front of a number do not change it (`valueOf_padLeft`), and a number
below a power of ten fits that many places (`length_padLeft_decimal`), as what is
written in them stays below it (`valueOf_lt_pow_length`).  A run of
digits is found whole where it fills all places, or where no digit follows it
(`digitRun_append`, `digits_append`).
-/
namespace RequestQuery
namespace Text

/-! ## Digits as characters -/

theorem toNat_bounds_of_isDigit {c : Char} (h : c.isDigit = true) : 48 ≤ c.toNat ∧ c.toNat ≤ 57 := by
  simpa [Char.isDigit, UInt32.le_iff_toNat_le] using h

theorem isBlank_of_isDigit {c : Char} (h : c.isDigit = true) : isBlank c = false := by
  have hrange := toNat_bounds_of_isDigit h
  simp only [isBlank, Bool.or_eq_false_iff, Bool.and_eq_false_iff, decide_eq_false_iff_not,
    beq_eq_false_iff_ne]
  omega

/-! ## Numbers in a number of places -/

theorem isDigit_of_mem_padLeft {width n : Nat} {c : Char} (h : c ∈ padLeft width '0' (decimal n)) :
    c.isDigit = true := by
  rcases List.mem_append.mp h with h | h
  · rw [List.eq_of_mem_replicate h]
    decide
  · exact isDigit_of_mem_decimal h

theorem padLeft_decimal_ne_nil (width n : Nat) : padLeft width '0' (decimal n) ≠ [] :=
  List.append_ne_nil_of_right_ne_nil _ (decimal_ne_nil n)

/-- Zeros in front of a number do not change it. -/
theorem valueOf_padLeft (width n : Nat) : valueOf (padLeft width '0' (decimal n)) = n := by
  have hzeros (k : Nat) : valueFrom 0 (List.replicate k '0' ++ decimal n) = valueFrom 0 (decimal n) := by
    induction k with
    | zero => rfl
    | succ k ih => exact ih
  exact (hzeros _).trans (valueOf_decimal n)

theorem length_decimal_le {n k : Nat} (h : n < Nat.pow 10 (k + 1)) : (decimal n).length ≤ k + 1 := by
  induction k generalizing n with
  | zero =>
    have hsmall : n < 10 := h
    rw [decimal, if_pos hsmall]
    exact Nat.le_refl 1
  | succ k ih =>
    rw [decimal]
    split
    · exact Nat.succ_le_succ (Nat.zero_le _)
    · have hshort : n / 10 < Nat.pow 10 (k + 1) :=
        Nat.div_lt_of_lt_mul ((Nat.mul_comm _ _).trans_gt h)
      rw [List.length_append]
      exact Nat.succ_le_succ (ih hshort)

/-- A number of so many digits is below that power of ten. -/
theorem lt_of_length_decimal_le {n k : Nat} (h : (decimal n).length ≤ k + 1) : n < Nat.pow 10 (k + 1) := by
  induction k generalizing n with
  | zero =>
    rw [decimal] at h
    split at h
    · next hsmall => exact hsmall
    · have hne := List.length_pos_iff.mpr (decimal_ne_nil (n / 10))
      rw [List.length_append, List.length_singleton] at h
      omega
  | succ k ih =>
    rw [decimal] at h
    split at h
    · next hsmall => exact hsmall.trans_le (Nat.le_self_pow (Nat.succ_ne_zero _) 10)
    · rw [List.length_append] at h
      have hshort : n / 10 < Nat.pow 10 (k + 1) := ih (Nat.le_of_succ_le_succ h)
      exact (Nat.div_lt_iff_lt_mul (by decide)).mp hshort

theorem length_decimal_le_iff {n k : Nat} : (decimal n).length ≤ k + 1 ↔ n < Nat.pow 10 (k + 1) :=
  ⟨lt_of_length_decimal_le, length_decimal_le⟩

/-- A number has so many digits if it lies between two powers of ten. -/
theorem length_decimal_eq_iff {n k : Nat} :
    (decimal n).length = k + 2 ↔ Nat.pow 10 (k + 1) ≤ n ∧ n < Nat.pow 10 (k + 2) := by
  rw [← Nat.not_lt, ← length_decimal_le_iff, ← length_decimal_le_iff]
  omega

/-- A number below a power of ten fills as many places. -/
theorem length_padLeft_decimal {n k : Nat} (h : n < Nat.pow 10 (k + 1)) :
    (padLeft (k + 1) '0' (decimal n)).length = k + 1 := by
  have := length_decimal_le h
  rw [padLeft, List.length_append, List.length_replicate]
  omega

theorem decimal_of_lt {n : Nat} (h : n < 10) : decimal n = [digitChar n] := by
  rw [decimal, if_pos h]

/-- Two places hold the tens and the ones. -/
theorem padLeft_two_decimal {n : Nat} (h : n < 100) :
    padLeft 2 '0' (decimal n) = [digitChar (n / 10), digitChar (n % 10)] := by
  by_cases hsmall : n < 10
  · rw [decimal_of_lt hsmall, Nat.div_eq_of_lt hsmall, Nat.mod_eq_of_lt hsmall]
    rfl
  · rw [decimal, if_neg hsmall, decimal_of_lt (by omega)]
    rfl

/-! ## Finding runs -/

/-- A run of characters ends before a text that is empty or begins with a character that does not
belong to the run. -/
def EndsRun (p : Char → Bool) (rest : List Char) : Prop := ∀ c ∈ rest.head?, p c = false

namespace EndsRun

variable {p : Char → Bool} {rest : List Char}

theorem takeWhile (h : EndsRun p rest) : rest.takeWhile p = [] := by
  cases rest with
  | nil => rfl
  | cons c more => rw [List.takeWhile_cons_of_neg (by simp [h c rfl])]

theorem dropWhile (h : EndsRun p rest) : rest.dropWhile p = rest := by
  cases rest with
  | nil => rfl
  | cons c more => rw [List.dropWhile_cons_of_neg (by simp [h c rfl])]

theorem take (h : EndsRun p rest) (k : Nat) : EndsRun p (rest.take k) := by
  intro c hc
  rw [List.head?_take] at hc
  split at hc
  · cases hc
  · exact h c hc

end EndsRun

/-- A run of digits is found where it fills all places or is followed by no digit. -/
theorem digitRun_append {most : Nat} {run rest : List Char} (hrun : ∀ c ∈ run, c.isDigit = true)
    (hlength : run.length ≤ most) (hend : run.length = most ∨ EndsRun Char.isDigit rest) :
    digitRun most (run ++ rest) = (run, rest) := by
  have hstop : (rest.take (most - run.length)).takeWhile Char.isDigit = [] := by
    rcases hend with hfull | hrest
    · rw [hfull, Nat.sub_self, List.take_zero, List.takeWhile_nil]
    · exact (hrest.take _).takeWhile
  have hfound : ((run ++ rest).take most).takeWhile Char.isDigit = run := by
    rw [List.take_append, List.take_of_length_le hlength, List.takeWhile_append_of_pos hrun, hstop,
      List.append_nil]
  rw [digitRun, hfound, List.drop_left]

theorem digits_append {run rest : List Char} (hrun : ∀ c ∈ run, c.isDigit = true)
    (hrest : EndsRun Char.isDigit rest) : digits (run ++ rest) = (run, rest) := by
  rw [digits, List.takeWhile_append_of_pos hrun, List.dropWhile_append_of_pos hrun, hrest.takeWhile,
    hrest.dropWhile, List.append_nil]

theorem exists_of_digits_eq {s run rest : List Char} (h : digits s = (run, rest)) :
    s = run ++ rest ∧ ∀ c ∈ run, c.isDigit = true := by
  cases h
  exact ⟨List.takeWhile_append_dropWhile.symm, List.all_eq_true.mp List.all_takeWhile⟩

/-! ## Digits behind digits -/

theorem valueFrom_eq (start : Nat) (s : List Char) :
    valueFrom start s = start * 10 ^ s.length + valueOf s := by
  induction s generalizing start with
  | nil => simp [valueFrom, valueOf]
  | cons c s ih =>
    have hcons (k : Nat) : valueFrom k (c :: s) = valueFrom (10 * k + digitValue c) s := rfl
    rw [valueOf, hcons, hcons, ih, ih (10 * 0 + digitValue c), List.length_cons, Nat.pow_succ]
    ring

/-- Digits behind others shift these by their number of places. -/
theorem valueOf_append (s t : List Char) :
    valueOf (s ++ t) = valueOf s * 10 ^ t.length + valueOf t := by
  rw [← valueFrom_eq, valueOf, valueFrom, List.foldl_append]
  rfl

/-- Digits stay below the power of ten of their number of places. -/
theorem valueOf_lt_pow_length {s : List Char} (h : ∀ c ∈ s, c.isDigit = true) :
    valueOf s < 10 ^ s.length := by
  induction s with
  | nil => exact Nat.zero_lt_one
  | cons c s ih =>
    obtain ⟨hc, hs⟩ := List.forall_mem_cons.mp h
    have hdigit : digitValue c ≤ 9 := by
      have := toNat_bounds_of_isDigit hc
      rw [digitValue, show '0'.toNat = 48 from rfl]
      omega
    have hfirst : valueOf [c] = digitValue c := Nat.zero_add _
    have hplaces := Nat.mul_le_mul_right (10 ^ s.length) hdigit
    rw [← List.singleton_append, valueOf_append, hfirst, List.length_append, List.length_singleton,
      Nat.pow_add, Nat.pow_one]
    have := ih hs
    omega

/-! ## Texts of integers -/

theorem readInt?_of_isDigit {s : List Char} (hne : s ≠ []) (h : ∀ c ∈ s, c.isDigit = true) :
    readInt? s = some (valueOf s : Int) := by
  obtain ⟨c, rest, rfl⟩ := List.exists_cons_of_ne_nil hne
  have hc := h c List.mem_cons_self
  have hall : (c :: rest).all Char.isDigit = true := List.all_eq_true.mpr h
  rw [readInt?]
  case x | x_1 =>
    -- a sign is no digit
    rintro _ hsign
    rw [(List.cons.inj hsign).1] at hc
    exact absurd hc (by decide)
  rw [hall]
  rfl

/-- What follows a minus sign counts below zero. -/
theorem readInt?_minus {s : List Char} (hne : s ≠ []) (h : ∀ c ∈ s, c.isDigit = true) :
    readInt? ('-' :: s) = some (-(valueOf s : Int)) := by
  have hempty : s.isEmpty = false := List.isEmpty_eq_false_iff.mpr hne
  have hall : s.all Char.isDigit = true := List.all_eq_true.mpr h
  simp only [readInt?, hempty, hall, Bool.not_true, Bool.or_self, if_neg Bool.false_ne_true, if_pos]

/-- An integer is read back as it was written. -/
theorem readInt?_signedDecimal (i : Int) : readInt? (signedDecimal i) = some i := by
  have hdigits (n : Nat) : ∀ c ∈ decimal n, c.isDigit = true := fun _ => isDigit_of_mem_decimal
  cases i with
  | ofNat n => rw [signedDecimal, readInt?_of_isDigit (decimal_ne_nil n) (hdigits n), valueOf_decimal,
      Int.ofNat_eq_natCast]
  | negSucc n => rw [signedDecimal, readInt?_minus (decimal_ne_nil _) (hdigits _), valueOf_decimal,
      Int.negSucc_eq, Int.natCast_succ]

end Text

/-! ## Machine widths -/

theorem fitsInt64_iff {i : Int} : fitsInt64 i = true ↔ -2 ^ 63 ≤ i ∧ i ≤ 2 ^ 63 - 1 := by
  simp [fitsInt64]

theorem fitsWord64_iff {i : Int} : fitsWord64 i = true ↔ 0 ≤ i ∧ i ≤ 2 ^ 64 - 1 := by
  simp [fitsWord64]

end RequestQuery
