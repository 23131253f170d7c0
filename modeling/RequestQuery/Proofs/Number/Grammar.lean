import Mathlib.Algebra.Order.Field.Basic
import Mathlib.Data.Rat.Cast.Order
import Mathlib.Tactic.FieldSimp
import Mathlib.Tactic.Ring
import RequestQuery.Number.Numeral
import RequestQuery.Proofs.Text.Digits

/-! # The grammar of numerals

A numeral is an optional sign, a mantissa and an optional power of ten.  The
mantissa is a run of digits, a run of digits and a point with any digits behind
it, or a point and a run of digits.  The grammar says what texts have this form
and what number each part denotes; it does not say how to find the parts.

Reading finds them.  It reads exactly the texts of the grammar, and the numeral
that it reads has the number the text denotes (`denotes_iff`); where there are
only a sign and digits it is an integer (`denotesInteger_iff`).
-/
namespace RequestQuery
namespace Numeral

/-! ## The grammar -/

/-- A text of digits only, with one digit at least. -/
structure IsDigits (s : List Char) : Prop where
  ne_nil : s ≠ []
  isDigit : ∀ c ∈ s, c.isDigit = true

/-- A sign or none, and whether it is a minus. -/
inductive Sign : List Char → Bool → Prop
  | absent : Sign [] false
  | plus : Sign ['+'] false
  | minus : Sign ['-'] true

/-- A number with a sign in front. -/
def signed {α : Type} [Neg α] (negative : Bool) (value : α) : α :=
  if negative then -value else value

/-- The digits of a numeral and the point among them, and the number they denote. -/
inductive Mantissa : List Char → ℚ → Prop
  | whole {w : List Char} : IsDigits w → Mantissa w (Text.valueOf w)
  | pointed {w f : List Char} : IsDigits w → (∀ c ∈ f, c.isDigit = true) →
      Mantissa (w ++ '.' :: f) (Text.valueOf w + Text.valueOf f / 10 ^ f.length)
  | fraction {f : List Char} : IsDigits f → Mantissa ('.' :: f) (Text.valueOf f / 10 ^ f.length)

/-- The power of ten behind a numeral, zero if there is none. -/
inductive Power : List Char → Int → Prop
  | absent : Power [] 0
  | present {marker : Char} {sign digits : List Char} {negative : Bool} :
      marker = 'e' ∨ marker = 'E' → Sign sign negative → IsDigits digits →
      Power (marker :: (sign ++ digits)) (signed negative (Text.valueOf digits))

/-- The text is a numeral, and this is the number it denotes. -/
inductive Denotes : List Char → ℚ → Prop
  | intro {sign mantissa power : List Char} {negative : Bool} {q : ℚ} {e : Int} :
      Sign sign negative → Mantissa mantissa q → Power power e →
      Denotes (sign ++ (mantissa ++ power)) (signed negative (q * 10 ^ e))

/-- The text is a numeral of a sign and digits only, and this is the integer it denotes. -/
inductive DenotesInteger : List Char → Int → Prop
  | intro {sign digits : List Char} {negative : Bool} :
      Sign sign negative → IsDigits digits →
      DenotesInteger (sign ++ digits) (signed negative (Text.valueOf digits))

/-! ## Reading the parts -/

/-- No sign is at the beginning of the text. -/
def Unsigned (s : List Char) : Prop := ∀ c ∈ s.head?, c ≠ '-' ∧ c ≠ '+'

theorem unsigned_cons_of_isDigit {c : Char} (h : c.isDigit = true) (s : List Char) :
    Unsigned (c :: s) := by
  intro c' hc
  obtain rfl : c = c' := Option.some_inj.mp hc
  constructor
  · rintro rfl
    cases h
  · rintro rfl
    cases h

theorem IsDigits.unsigned_append {d : List Char} (h : IsDigits d) (s : List Char) :
    Unsigned (d ++ s) := by
  obtain ⟨c, d, rfl⟩ := List.exists_cons_of_ne_nil h.ne_nil
  exact unsigned_cons_of_isDigit (h.isDigit c List.mem_cons_self) (d ++ s)

/-- A sign is found where no other one follows it. -/
theorem sign_append {s rest : List Char} {negative : Bool} (h : Sign s negative)
    (hrest : Unsigned rest) : sign (s ++ rest) = (negative, rest) := by
  cases h with
  | plus | minus => rfl
  | absent =>
    rw [List.nil_append]
    unfold sign
    split
    · exact absurd rfl (hrest '-' rfl).1
    · exact absurd rfl (hrest '+' rfl).2
    · rfl

theorem exists_of_sign_eq {u rest : List Char} {negative : Bool} (h : sign u = (negative, rest)) :
    ∃ s, Sign s negative ∧ u = s ++ rest := by
  unfold sign at h
  split at h
  · cases h
    exact ⟨['-'], .minus, rfl⟩
  · cases h
    exact ⟨['+'], .plus, rfl⟩
  · cases h
    exact ⟨[], .absent, rfl⟩

theorem isDigits_iff {d : List Char} : IsDigits d ↔ ¬ (d.isEmpty || !d.all Char.isDigit) = true := by
  rw [Bool.or_eq_true, List.isEmpty_iff, Bool.not_eq_true', ← Bool.not_eq_true, List.all_eq_true,
    not_or, not_not]
  exact ⟨fun h => ⟨h.ne_nil, h.isDigit⟩, fun ⟨hne, hdigits⟩ => ⟨hne, hdigits⟩⟩

instance (d : List Char) : Decidable (IsDigits d) := decidable_of_iff _ isDigits_iff.symm

/-- A power of ten is read as such, and the end of the text as none. -/
theorem readPower?_eq_some_iff {p : List Char} {powered : Bool} {e : Int} :
    readPower? p = some (powered, e) ↔ Power p e ∧ powered = !p.isEmpty := by
  constructor
  · intro h
    cases p with
    | nil =>
      cases h
      exact ⟨.absent, rfl⟩
    | cons c rest =>
      rcases hsign : sign rest with ⟨negative, digits⟩
      obtain ⟨s, hs, rfl⟩ := exists_of_sign_eq hsign
      rw [readPower?, hsign] at h
      split at h
      · next hmarker =>
        dsimp only at h
        split at h
        · cases h
        · next hd =>
          cases h
          exact ⟨.present (by simpa using hmarker) hs (isDigits_iff.mpr hd), rfl⟩
      · cases h
  · rintro ⟨h, rfl⟩
    cases h with
    | absent => rfl
    | present hmarker hs hd =>
      have hsign := sign_append hs (hd.unsigned_append [])
      rw [List.append_nil] at hsign
      rw [readPower?, if_pos (by simpa using hmarker), hsign]
      exact if_neg (isDigits_iff.mp hd)

/-! ## Reading numerals -/

/-- A text and the numeral whose parts it is made of. -/
inductive Spells : List Char → Numeral → Prop
  | whole {s w p : List Char} {negative : Bool} {e : Int} : Sign s negative → IsDigits w → Power p e →
      Spells (s ++ (w ++ p)) ⟨negative, w, [], p.isEmpty, e⟩
  | pointed {s w f p : List Char} {negative : Bool} {e : Int} : Sign s negative →
      (∀ c ∈ w, c.isDigit = true) → (∀ c ∈ f, c.isDigit = true) → w ≠ [] ∨ f ≠ [] → Power p e →
      Spells (s ++ (w ++ '.' :: (f ++ p))) ⟨negative, w, f, false, e⟩

theorem Power.endsRun {p : List Char} {e : Int} (h : Power p e) : Text.EndsRun Char.isDigit p := by
  cases h with
  | absent => exact fun c hc => nomatch hc
  | present hmarker =>
    intro c hc
    obtain rfl := Option.some_inj.mp hc
    rcases hmarker with rfl | rfl
    · rfl
    · rfl

section
variable {u unsigned whole rest : List Char} {negative : Bool}

theorem read?_of_point {fraction more : List Char} (hsign : sign u = (negative, unsigned))
    (hwhole : Text.digits unsigned = (whole, '.' :: more))
    (hfraction : Text.digits more = (fraction, rest)) :
    read? u = if whole.isEmpty && fraction.isEmpty then none
      else (readPower? rest).map fun (_, power) => ⟨negative, whole, fraction, false, power⟩ := by
  simp only [read?, hsign, hwhole, hfraction, Bool.not_true, Bool.false_and]

theorem read?_of_no_point (hsign : sign u = (negative, unsigned))
    (hwhole : Text.digits unsigned = (whole, rest)) (hrest : rest.head? ≠ some '.') :
    read? u = if whole.isEmpty then none
      else (readPower? rest).map fun (powered, power) => ⟨negative, whole, [], !powered, power⟩ := by
  simp only [read?, hsign, hwhole]
  split
  · exact absurd rfl hrest
  · simp only [List.isEmpty_nil, Bool.and_true, Bool.not_false, Bool.true_and]

end

theorem Power.head?_ne_point {p : List Char} {e : Int} (h : Power p e) : p.head? ≠ some '.' := by
  cases h with
  | absent => simp
  | present hmarker =>
    rcases hmarker with rfl | rfl
    · simp
    · simp

theorem unsigned_mantissa {w : List Char} (h : ∀ c ∈ w, c.isDigit = true) (rest : List Char) :
    Unsigned (w ++ '.' :: rest) := by
  cases w with
  | nil =>
    intro c hc
    obtain rfl := Option.some_inj.mp hc
    decide
  | cons c w => exact unsigned_cons_of_isDigit (h c List.mem_cons_self) _

theorem endsRun_point (rest : List Char) : Text.EndsRun Char.isDigit ('.' :: rest) := by
  intro c hc
  obtain rfl := Option.some_inj.mp hc
  rfl

/-- Exactly the texts made of the parts of a numeral are read as it. -/
theorem read?_eq_some_iff {u : List Char} {n : Numeral} : read? u = some n ↔ Spells u n := by
  constructor
  · intro h
    rcases hsign : sign u with ⟨negative, unsigned⟩
    obtain ⟨s, hs, rfl⟩ := exists_of_sign_eq hsign
    rcases hwhole : Text.digits unsigned with ⟨w, rest⟩
    obtain ⟨rfl, hw⟩ := Text.exists_of_digits_eq hwhole
    by_cases hpoint : rest.head? = some '.'
    · obtain ⟨more, rfl⟩ := List.head?_eq_some_iff.mp hpoint
      rcases hfraction : Text.digits more with ⟨f, rest⟩
      obtain ⟨rfl, hf⟩ := Text.exists_of_digits_eq hfraction
      rw [read?_of_point hsign hwhole hfraction] at h
      split at h
      · cases h
      · next hne =>
        obtain ⟨⟨powered, e⟩, hpower, rfl⟩ := Option.map_eq_some_iff.mp h
        have hparts : w ≠ [] ∨ f ≠ [] := by
          rwa [Bool.and_eq_true, List.isEmpty_iff, List.isEmpty_iff, not_and_or] at hne
        exact .pointed hs hw hf hparts (readPower?_eq_some_iff.mp hpower).1
    · rw [read?_of_no_point hsign hwhole hpoint] at h
      split at h
      · cases h
      · next hne =>
        obtain ⟨⟨powered, e⟩, hpower, rfl⟩ := Option.map_eq_some_iff.mp h
        obtain ⟨hp, rfl⟩ := readPower?_eq_some_iff.mp hpower
        have hdigits : IsDigits w := ⟨fun hnil => hne (List.isEmpty_iff.mpr hnil), hw⟩
        simpa using Spells.whole hs hdigits hp
  · intro h
    cases h with
    | @whole s w p negative e hs hw hp =>
      have hsign := sign_append hs (hw.unsigned_append p)
      have hpower := readPower?_eq_some_iff.mpr ⟨hp, rfl⟩
      rw [read?_of_no_point hsign (Text.digits_append hw.isDigit hp.endsRun) hp.head?_ne_point,
        if_neg (by simp [hw.ne_nil]), hpower]
      simp
    | @pointed s w f p negative e hs hw hf hne hp =>
      have hsign := sign_append hs (unsigned_mantissa hw (f ++ p))
      have hpower := readPower?_eq_some_iff.mpr ⟨hp, rfl⟩
      have hparts : ¬ (w.isEmpty && f.isEmpty) = true := by
        rwa [Bool.and_eq_true, List.isEmpty_iff, List.isEmpty_iff, not_and_or]
      rw [read?_of_point hsign (Text.digits_append hw (endsRun_point _)) (Text.digits_append hf hp.endsRun),
        if_neg hparts, hpower, Option.map_some]

/-! ## The numbers of numerals -/

/-- The number of a numeral. -/
def value (n : Numeral) : ℚ :=
  signed n.negative ((n.coefficient : ℚ) * 10 ^ n.exponent)

theorem value_whole (negative plain : Bool) (w : List Char) (e : Int) :
    value ⟨negative, w, [], plain, e⟩ = signed negative ((Text.valueOf w : ℚ) * 10 ^ e) := by
  simp [value, coefficient, exponent]

theorem value_pointed (negative plain : Bool) (w f : List Char) (e : Int) :
    value ⟨negative, w, f, plain, e⟩ =
      signed negative ((Text.valueOf w + Text.valueOf f / 10 ^ f.length : ℚ) * 10 ^ e) := by
  have hten : (10 : ℚ) ≠ 0 := by norm_num
  have hshift : (10 : ℚ) ^ f.length ≠ 0 := pow_ne_zero _ hten
  rw [value, coefficient, exponent, Text.valueOf_append, zpow_sub₀ hten, zpow_natCast]
  congr 1
  push_cast
  field_simp

theorem Spells.denotes {u : List Char} {n : Numeral} (h : Spells u n) : Denotes u n.value := by
  cases h with
  | whole hs hw hp =>
    rw [value_whole]
    exact .intro hs (.whole hw) hp
  | @pointed s w f p negative e hs hw hf hne hp =>
    have hassoc : s ++ (w ++ '.' :: (f ++ p)) = s ++ ((w ++ '.' :: f) ++ p) := by simp
    rw [value_pointed, hassoc]
    refine .intro hs ?_ hp
    by_cases hnil : w = []
    · subst hnil
      simpa [Text.valueOf, Text.valueFrom] using Mantissa.fraction ⟨hne.resolve_left (· rfl), hf⟩
    · exact .pointed ⟨hnil, hw⟩ hf

/-- Exactly the texts of the grammar are read, and what is read has the number that they denote. -/
theorem denotes_iff {u : List Char} {q : ℚ} : Denotes u q ↔ ∃ n, read? u = some n ∧ n.value = q := by
  constructor
  · intro h
    cases h with
    | @intro s m p negative q e hs hm hp =>
      cases hm with
      | whole hw => exact ⟨_, read?_eq_some_iff.mpr (.whole hs hw hp), value_whole ..⟩
      | @pointed w f hw hf =>
        rw [List.append_assoc, List.cons_append]
        exact ⟨_, read?_eq_some_iff.mpr (.pointed hs hw.isDigit hf (.inl hw.ne_nil) hp), value_pointed ..⟩
      | @fraction f hf =>
        have hread := read?_eq_some_iff.mpr
          (.pointed hs (w := []) (by simp) hf.isDigit (.inr hf.ne_nil) hp)
        refine ⟨_, hread, ?_⟩
        rw [value_pointed]
        simp [Text.valueOf, Text.valueFrom]
  · rintro ⟨n, hread, rfl⟩
    exact (read?_eq_some_iff.mp hread).denotes

theorem denotesInteger_iff {u : List Char} {i : Int} :
    DenotesInteger u i ↔ ∃ n, read? u = some n ∧ n.plain = true ∧ n.integer = i := by
  constructor
  · intro h
    cases h with
    | @intro s d negative hs hd =>
      have hread := read?_eq_some_iff.mpr (.whole hs hd .absent)
      rw [List.append_nil] at hread
      exact ⟨_, hread, rfl, by simp [integer, coefficient, signed]⟩
  · rintro ⟨n, hread, hplain, rfl⟩
    have hspells := read?_eq_some_iff.mp hread
    cases hspells with
    | @whole s w p negative e hs hw hp =>
      obtain rfl := List.isEmpty_iff.mp hplain
      rw [List.append_nil]
      simpa [integer, coefficient, signed] using DenotesInteger.intro hs hw
    | pointed => cases hplain

/-! ## Texts of numerals -/

theorem DenotesInteger.denotes {u : List Char} {i : Int} (h : DenotesInteger u i) : Denotes u i := by
  cases h with
  | @intro s d negative hs hd =>
    have hdenotes := Denotes.intro hs (.whole hd) .absent
    cases negative with
    | true | false => simpa [signed] using hdenotes

/-- A text denotes one number at most. -/
theorem Denotes.unique {u : List Char} {q r : ℚ} (h : Denotes u q) (h' : Denotes u r) : q = r := by
  obtain ⟨n, hn, rfl⟩ := denotes_iff.mp h
  obtain ⟨n', hn', rfl⟩ := denotes_iff.mp h'
  rw [Option.some_inj.mp (hn.symm.trans hn')]

/-- A numeral is negative exactly if a minus is its first character. -/
theorem negative_iff {u : List Char} {n : Numeral} (h : read? u = some n) :
    n.negative = true ↔ u.head? = some '-' := by
  have hsign {s rest : List Char} {negative : Bool} (hs : Sign s negative) (hrest : Unsigned rest) :
      negative = true ↔ (s ++ rest).head? = some '-' := by
    cases hs with
    | plus | minus => simp
    | absent => simpa using fun hminus => (hrest '-' hminus).1 rfl
  cases read?_eq_some_iff.mp h with
  | @whole s w p negative e hs hw hp => exact hsign hs (hw.unsigned_append p)
  | @pointed s w f p negative e hs hw hf hne hp => exact hsign hs (unsigned_mantissa hw (f ++ p))

/-- The characters that numerals are written with. -/
def IsMark (c : Char) : Prop := c.isDigit = true ∨ c ∈ ['+', '-', '.', 'e', 'E']

theorem IsDigits.isMark {d : List Char} (h : IsDigits d) : ∀ c ∈ d, IsMark c :=
  fun c hc => .inl (h.isDigit c hc)

theorem IsDigits.exists_isDigit {d : List Char} (h : IsDigits d) : ∃ c ∈ d, c.isDigit = true := by
  obtain ⟨c, hc⟩ := List.exists_mem_of_ne_nil d h.ne_nil
  exact ⟨c, hc, h.isDigit c hc⟩

theorem Sign.isMark {s : List Char} {negative : Bool} (h : Sign s negative) : ∀ c ∈ s, IsMark c := by
  cases h with
  | absent => exact fun c hc => nomatch hc
  | plus | minus =>
    intro c hc
    exact .inr (by simp [List.mem_singleton.mp hc])

theorem Power.isMark {p : List Char} {e : Int} (h : Power p e) : ∀ c ∈ p, IsMark c := by
  cases h with
  | absent => exact fun c hc => nomatch hc
  | present hmarker hs hd =>
    rw [List.forall_mem_cons, List.forall_mem_append]
    refine ⟨.inr ?_, hs.isMark, hd.isMark⟩
    rcases hmarker with rfl | rfl
    · decide
    · decide

theorem Mantissa.isMark {m : List Char} {q : ℚ} (h : Mantissa m q) : ∀ c ∈ m, IsMark c := by
  have hpoint : IsMark '.' := .inr (by decide)
  cases h with
  | whole hw => exact hw.isMark
  | pointed hw hf =>
    rw [List.forall_mem_append, List.forall_mem_cons]
    exact ⟨hw.isMark, hpoint, fun c hc => .inl (hf c hc)⟩
  | fraction hf => exact List.forall_mem_cons.mpr ⟨hpoint, hf.isMark⟩

theorem Mantissa.exists_isDigit {m : List Char} {q : ℚ} (h : Mantissa m q) :
    ∃ c ∈ m, c.isDigit = true := by
  cases h with
  | whole hw => exact hw.exists_isDigit
  | pointed hw hf =>
    obtain ⟨c, hc, hdigit⟩ := hw.exists_isDigit
    exact ⟨c, List.mem_append_left _ hc, hdigit⟩
  | fraction hf =>
    obtain ⟨c, hc, hdigit⟩ := hf.exists_isDigit
    exact ⟨c, List.mem_cons_of_mem _ hc, hdigit⟩

/-- A numeral has a digit, and beside digits only signs, points and markers of powers. -/
theorem Denotes.exists_isDigit {u : List Char} {q : ℚ} (h : Denotes u q) :
    (∃ c ∈ u, c.isDigit = true) ∧ ∀ c ∈ u, IsMark c := by
  cases h with
  | intro hs hm hp =>
    obtain ⟨c, hc, hdigit⟩ := hm.exists_isDigit
    refine ⟨⟨c, List.mem_append_right _ (List.mem_append_left _ hc), hdigit⟩, ?_⟩
    rw [List.forall_mem_append, List.forall_mem_append]
    exact ⟨hs.isMark, hm.isMark, hp.isMark⟩

end Numeral
end RequestQuery
