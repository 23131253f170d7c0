import RequestQuery.Number.Numeral
import RequestQuery.Text.Split
import RequestQuery.Text.Utf8

/-! # Document tokens

A document is a sequence of brackets, marks, words, numerals and quoted texts
with blanks between them.  The tokens keep what is written: a numeral is not
yet a number, and an escaped code unit inside a text is not yet a character.
Bytes that are part of no character are found only inside quoted texts.
-/
namespace RequestQuery
namespace Json

/-- One element of a quoted text. -/
inductive Letter where
  | char (c : Char)
  /-- A code unit given by its number. -/
  | unit (code : Nat)
  /-- A byte that is part of no character. -/
  | stray
  deriving DecidableEq, Repr

/-- An element of a document. -/
inductive Token where
  | openArray
  | closeArray
  | openObject
  | closeObject
  | comma
  | colon
  | null
  | bool (value : Bool)
  | numeral (value : Numeral)
  | text (letters : List Letter)
  deriving DecidableEq, Repr

/-! ## Quoted texts -/

/-- The value of a hexadecimal digit. -/
def hexValue? (c : Char) : Option Nat :=
  if '0' ≤ c && c ≤ '9' then some (c.toNat - '0'.toNat)
  else if 'a' ≤ c && c ≤ 'f' then some (c.toNat - 'a'.toNat + 10)
  else if 'A' ≤ c && c ≤ 'F' then some (c.toNat - 'A'.toNat + 10)
  else none

/-- The value of four hexadecimal digits. -/
def hexUnit? (a b c d : Char) : Option Nat := do
  return (((← hexValue? a) * 16 + (← hexValue? b)) * 16 + (← hexValue? c)) * 16 + (← hexValue? d)

/-- The character that stands behind a backslash for another one. -/
def unescape? : Char → Option Char
  | '"' => some '"'
  | '\\' => some '\\'
  | '/' => some '/'
  | 'b' => some '\x08'
  | 'f' => some '\x0c'
  | 'n' => some '\n'
  | 'r' => some '\r'
  | 't' => some '\t'
  | _ => none

/-- Reads a quoted text behind its opening quote, up to the closing one.  Characters below the space
must be escaped. -/
def readText? : List Text.Symbol → Option (List Letter × List Text.Symbol)
  | [] => none
  | some '"' :: rest => some ([], rest)
  | some '\\' :: some 'u' :: some a :: some b :: some c :: some d :: rest =>
    (hexUnit? a b c d).bind fun code => (readText? rest).map fun more => (.unit code :: more.1, more.2)
  | some '\\' :: some c :: rest =>
    (unescape? c).bind fun c => (readText? rest).map fun more => (.char c :: more.1, more.2)
  | some '\\' :: _ => none
  | none :: rest => (readText? rest).map fun more => (.stray :: more.1, more.2)
  | some c :: rest =>
    if c.toNat < 0x20 then none
    else (readText? rest).map fun more => (.char c :: more.1, more.2)

theorem length_lt_of_readText? {s : List Text.Symbol} {found : List Letter × List Text.Symbol}
    (h : readText? s = some found) : found.2.length < s.length := by
  fun_induction readText? s generalizing found with
  | case1 => cases h
  | case2 => cases h; exact Nat.lt_add_one _
  | case3 a b c d rest ih =>
    obtain ⟨_, -, h⟩ := Option.bind_eq_some_iff.mp h
    obtain ⟨more, read, rfl⟩ := Option.map_eq_some_iff.mp h
    have := ih read
    simp only [List.length_cons]
    omega
  | case4 c rest _ ih =>
    obtain ⟨_, -, h⟩ := Option.bind_eq_some_iff.mp h
    obtain ⟨more, read, rfl⟩ := Option.map_eq_some_iff.mp h
    have := ih read
    simp only [List.length_cons]
    omega
  | case5 => cases h
  | case6 rest ih =>
    obtain ⟨more, read, rfl⟩ := Option.map_eq_some_iff.mp h
    have := ih read
    exact Nat.lt_succ_of_lt this
  | case7 => cases h
  | case8 c rest _ _ _ _ _ ih =>
    obtain ⟨more, read, rfl⟩ := Option.map_eq_some_iff.mp h
    have := ih read
    exact Nat.lt_succ_of_lt this

/-! ## Numerals -/

/-- Reads the digits of a whole part: a single zero, or digits that do not begin with one. -/
def readWhole? (s : List Char) : Option (List Char × List Char) :=
  match s with
  | '0' :: rest =>
    if (rest.head?.map Char.isDigit).getD false then none else some (['0'], rest)
  | _ =>
    let run := Text.digits s
    if run.1.isEmpty then none else some run

theorem length_lt_of_readWhole? {s : List Char} {found : List Char × List Char}
    (h : readWhole? s = some found) : found.2.length < s.length := by
  unfold readWhole? at h
  split at h
  · split at h
    · cases h
    · cases h
      exact Nat.lt_add_one _
  · have total := Text.length_digits s
    dsimp only at h
    split at h
    · cases h
    · next nonempty =>
      cases h
      have := List.length_pos_iff.mpr (mt List.isEmpty_iff.mpr nonempty)
      omega

/-- Reads the fraction, if there is one: a point and at least one digit. -/
def readFraction? : List Char → Option (Option (List Char) × List Char)
  | '.' :: rest =>
    let run := Text.digits rest
    if run.1.isEmpty then none else some (some run.1, run.2)
  | rest => some (none, rest)

theorem length_le_of_readFraction? {s : List Char} {found : Option (List Char) × List Char}
    (h : readFraction? s = some found) : found.2.length ≤ s.length := by
  unfold readFraction? at h
  split at h
  · next rest =>
    have total := Text.length_digits rest
    dsimp only at h
    split at h
    · cases h
    · cases h
      simp only [List.length_cons]
      omega
  · cases h
    exact Nat.le_refl _

/-- Reads the power of ten, if there is one: a marker, an optional sign and at least one digit. -/
def readPower? : List Char → Option (Option Int × List Char)
  | [] => some (none, [])
  | c :: rest =>
    if c = 'e' || c = 'E' then
      let signed := Numeral.sign rest
      let run := Text.digits signed.2
      if run.1.isEmpty then none
      else
        let value : Int := Text.valueOf run.1
        some (some (if signed.1 then -value else value), run.2)
    else some (none, c :: rest)

theorem length_le_of_readPower? {s : List Char} {found : Option Int × List Char}
    (h : readPower? s = some found) : found.2.length ≤ s.length := by
  unfold readPower? at h
  split at h
  · cases h
    exact Nat.le_refl _
  · next c rest =>
    have total := Text.length_digits (Numeral.sign rest).2
    have signed := Numeral.length_sign rest
    split at h
    · dsimp only at h
      split at h
      · cases h
      · cases h
        simp only [List.length_cons]
        omega
    · cases h
      exact Nat.le_refl _

/-- Splits an optional minus sign off. -/
def minus : List Char → Bool × List Char
  | '-' :: rest => (true, rest)
  | rest => (false, rest)

theorem length_minus (s : List Char) : (minus s).2.length ≤ s.length := by
  unfold minus
  split
  · exact Nat.le_add_right ..
  · exact Nat.le_refl _

/-- Reads a numeral as documents write it: no plus sign, no superfluous leading zero, digits on both
sides of the point. -/
def readNumeral? (s : List Char) : Option (Numeral × List Char) := do
  let signed := minus s
  let (whole, rest) ← readWhole? signed.2
  let (fraction, rest) ← readFraction? rest
  let (power, rest) ← readPower? rest
  return (⟨signed.1, whole, fraction.getD [], fraction.isNone && power.isNone, power.getD 0⟩, rest)

theorem length_lt_of_readNumeral? {s : List Char} {found : Numeral × List Char}
    (h : readNumeral? s = some found) : found.2.length < s.length := by
  obtain ⟨whole, readWhole, h⟩ := Option.bind_eq_some_iff.mp h
  obtain ⟨fraction, readFraction, h⟩ := Option.bind_eq_some_iff.mp h
  obtain ⟨power, readPower, h⟩ := Option.bind_eq_some_iff.mp h
  cases h
  have := length_minus s
  have := length_lt_of_readWhole? readWhole
  have := length_le_of_readFraction? readFraction
  have := length_le_of_readPower? readPower
  simp only
  omega

/-- The characters that numerals are made of. -/
def isNumeralChar (c : Char) : Bool :=
  c.isDigit || c == '-' || c == '+' || c == '.' || c == 'e' || c == 'E'

/-! ## Token by token -/

/-- The blanks between tokens. -/
def isGap (c : Char) : Bool :=
  c == ' ' || c == '\n' || c == '\t' || c == '\r'

/-- Reads the token at the front. -/
def readToken? (s : List Text.Symbol) : Option (Token × List Text.Symbol) :=
  match s with
  | [] => none
  | some '[' :: rest => some (.openArray, rest)
  | some ']' :: rest => some (.closeArray, rest)
  | some '\x7b' :: rest => some (.openObject, rest)
  | some '\x7d' :: rest => some (.closeObject, rest)
  | some ',' :: rest => some (.comma, rest)
  | some ':' :: rest => some (.colon, rest)
  | some '"' :: rest => (readText? rest).map fun (letters, rest) => (.text letters, rest)
  | some 'n' :: rest => (Text.after? [some 'u', some 'l', some 'l'] rest).map (Token.null, ·)
  | some 't' :: rest => (Text.after? [some 'r', some 'u', some 'e'] rest).map (Token.bool true, ·)
  | some 'f' :: rest =>
    (Text.after? [some 'a', some 'l', some 's', some 'e'] rest).map (Token.bool false, ·)
  | _ =>
    let split := Text.charsWhile isNumeralChar s
    (readNumeral? split.1).map fun (value, rest) => (.numeral value, rest.map some ++ split.2)

theorem length_lt_of_readToken? {s : List Text.Symbol} {found : Token × List Text.Symbol}
    (h : readToken? s = some found) : found.2.length < s.length := by
  unfold readToken? at h
  split at h
  case h_1 => cases h
  case h_8 =>
    obtain ⟨more, read, rfl⟩ := Option.map_eq_some_iff.mp h
    have := length_lt_of_readText? read
    exact Nat.lt_succ_of_lt this
  case h_9 | h_10 | h_11 =>
    obtain ⟨more, read, rfl⟩ := Option.map_eq_some_iff.mp h
    exact Nat.lt_succ_of_le (Text.length_le_of_after? read)
  case h_12 =>
    obtain ⟨more, read, rfl⟩ := Option.map_eq_some_iff.mp h
    have := length_lt_of_readNumeral? read
    have := Text.length_charsWhile isNumeralChar s
    simp only [List.length_append, List.length_map]
    omega
  all_goals
    cases h
    exact Nat.lt_add_one _

/-- The tokens of a document. -/
def tokens? (s : List Text.Symbol) : Option (List Token) :=
  match s with
  | [] => some []
  | x :: xs =>
    if x.any isGap then tokens? xs
    else match _h : readToken? (x :: xs) with
      | none => none
      | some (token, rest) => (tokens? rest).map (token :: ·)
termination_by s.length
decreasing_by
  · exact Nat.lt_add_one _
  · exact length_lt_of_readToken? _h

end Json
end RequestQuery
