/-! # Decimal digits

Whole numbers are written with ASCII digits only.  `decimal` writes a number
without leading zeros, `valueOf` reads a run of digits with any number of them,
and `valueOf_decimal` says that reading gives back what was written.
-/
namespace RequestQuery
namespace Text

/-- The number a digit stands for. -/
def digitValue (c : Char) : Nat :=
  c.toNat - '0'.toNat

/-- The digit that stands for a number below ten. -/
def digitChar (d : Nat) : Char :=
  Char.ofNat ('0'.toNat + d)

theorem digitValue_digitChar : ∀ {d : Nat}, d < 10 → digitValue (digitChar d) = d := by
  decide

theorem isDigit_digitChar : ∀ {d : Nat}, d < 10 → (digitChar d).isDigit = true := by
  decide

/-- The number written by a run of digits, read as continuing the number `start`. -/
def valueFrom (start : Nat) (digits : List Char) : Nat :=
  digits.foldl (fun n c => 10 * n + digitValue c) start

/-- The number written by a run of digits. -/
def valueOf (digits : List Char) : Nat :=
  valueFrom 0 digits

/-- The digits of a number, without leading zeros. -/
def decimal (n : Nat) : List Char :=
  if n < 10 then [digitChar n] else decimal (n / 10) ++ [digitChar (n % 10)]

theorem valueOf_decimal (n : Nat) : valueOf (decimal n) = n := by
  rw [decimal]
  split
  · next h => simp [valueOf, valueFrom, digitValue_digitChar h]
  · have ih := valueOf_decimal (n / 10)
    simp only [valueOf, valueFrom, List.foldl_append, List.foldl_cons, List.foldl_nil] at ih ⊢
    rw [ih, digitValue_digitChar (by omega)]
    omega

theorem isDigit_of_mem_decimal {n : Nat} {c : Char} (h : c ∈ decimal n) : c.isDigit = true := by
  rw [decimal] at h
  split at h
  · next hn =>
    rw [List.mem_singleton] at h
    rw [h]
    exact isDigit_digitChar hn
  · rcases List.mem_append.mp h with h | h
    · exact isDigit_of_mem_decimal h
    · rw [List.mem_singleton] at h
      rw [h]
      exact isDigit_digitChar (Nat.mod_lt _ (by decide))
termination_by n

theorem decimal_ne_nil (n : Nat) : decimal n ≠ [] := by
  rw [decimal]
  split <;> simp

/-- The text of a number. -/
def showNat (n : Nat) : String :=
  String.ofList (decimal n)

/-- The digits of an integer, a minus sign before a negative one. -/
def signedDecimal : Int → List Char
  | .ofNat n => decimal n
  | .negSucc n => '-' :: decimal (n + 1)

/-- The text of an integer. -/
def showInt (i : Int) : String :=
  String.ofList (signedDecimal i)

/-- A text filled up on its left to a width. -/
def padLeft (width : Nat) (fill : Char) (s : List Char) : List Char :=
  List.replicate (width - s.length) fill ++ s

/-- The leading run of at most `most` digits, and what follows it. -/
def digitRun (most : Nat) (s : List Char) : List Char × List Char :=
  let run := (s.take most).takeWhile Char.isDigit
  (run, s.drop run.length)

/-- The leading run of digits, and what follows it. -/
def digits (s : List Char) : List Char × List Char :=
  (s.takeWhile Char.isDigit, s.dropWhile Char.isDigit)

theorem length_digits (s : List Char) : (digits s).1.length + (digits s).2.length = s.length := by
  rw [digits, ← List.length_append, List.takeWhile_append_dropWhile]

/-- Reads a text of digits, an optional sign before them. -/
def readInt? (s : List Char) : Option Int :=
  let (negative, unsigned) := match s with
    | '-' :: rest => (true, rest)
    | '+' :: rest => (false, rest)
    | rest => (false, rest)
  if unsigned.isEmpty || !unsigned.all Char.isDigit then none
  else some (if negative then -(valueOf unsigned : Int) else valueOf unsigned)

/-- Reads a text of digits, an optional plus sign before them. -/
def readNat? (s : List Char) : Option Nat :=
  let unsigned := match s with
    | '+' :: rest => rest
    | rest => rest
  if unsigned.isEmpty || !unsigned.all Char.isDigit then none else some (valueOf unsigned)

end Text

/-! ## Machine widths -/

/-- The integers that fit in 64 bits with a sign. -/
def fitsInt64 (i : Int) : Bool :=
  -9223372036854775808 ≤ i && i ≤ 9223372036854775807

/-- The integers that fit in 64 bits without a sign. -/
def fitsWord64 (i : Int) : Bool :=
  0 ≤ i && i ≤ 18446744073709551615

end RequestQuery
