import RequestQuery.Proofs.Calendar.DatePattern
import RequestQuery.Proofs.Number.Grammar
import RequestQuery.Proofs.Text.Trim

/-! # Dates that are spelled out

What is entered need not look like what a pattern writes: a number may have blanks in
front of it and fewer digits than it has places, and a year with a sign any number of
them.  A text spells out the values of the parts of a pattern if their numbers stand
in it, in the order of the pattern and with its separators between them
(`DatePattern.Spells`); whether there is such a date is no matter here.

Reading by the pattern finds the values that are spelled out (`Pattern.fields?_of_spells`),
and whatever is read was spelled out (`Pattern.spells_of_fields?`).  What the pattern
writes is one way to spell out a date (`DatePattern.spells_written`).
-/
namespace RequestQuery

open Numeral (IsDigits)

/-! ## Numbers as they are entered -/

namespace DatePart

/-- The number of digits that a part may have without a sign. -/
def places : DatePart → Nat
  | day | month => 2
  | year => 4

/-- A number as it may be entered for a part, and the value that it denotes: digits, no more of them than
the part has places, or for a year a sign and any number of digits; blanks may stand in front. -/
inductive Spells : DatePart → List Char → Int → Prop
  | unsigned {part : DatePart} {blanks digits : List Char} (hblanks : Text.IsBlankText blanks)
      (hdigits : IsDigits digits) (hplaces : digits.length ≤ part.places) :
      Spells part (blanks ++ digits) (Text.valueOf digits)
  | plus {blanks digits : List Char} (hblanks : Text.IsBlankText blanks) (hdigits : IsDigits digits) :
      Spells year (blanks ++ '+' :: digits) (Text.valueOf digits)
  | minus {blanks digits : List Char} (hblanks : Text.IsBlankText blanks) (hdigits : IsDigits digits) :
      Spells year (blanks ++ '-' :: digits) (-Text.valueOf digits)

theorem placesOf_field (part : DatePart) : Pattern.placesOf part.field = some part.places := by
  cases part <;> rfl

theorem isDigits_padLeft (width n : Nat) : IsDigits (Text.padLeft width '0' (Text.decimal n)) :=
  ⟨Text.padLeft_decimal_ne_nil width n, fun _ => Text.isDigit_of_mem_padLeft⟩

/-- A number that fits the places of a part spells itself out. -/
theorem spells_padLeft (part : DatePart) {width n : Nat}
    (hplaces : (Text.padLeft width '0' (Text.decimal n)).length ≤ part.places) :
    part.Spells (Text.padLeft width '0' (Text.decimal n)) n := by
  have h := Spells.unsigned (List.forall_mem_nil _) (isDigits_padLeft width n) hplaces
  rwa [Text.valueOf_padLeft, List.nil_append] at h

theorem spells_twoDigits {part : DatePart} {n : Nat} (h : n < 100) :
    part.Spells (Date.twoDigits n) n := by
  have hlength : (Text.padLeft 2 '0' (Text.decimal n)).length = 2 := Text.length_padLeft_decimal h
  refine spells_padLeft part (hlength.trans_le ?_)
  cases part <;> decide

theorem spells_yearDigits (y : Int) : year.Spells (Date.yearDigits y) y := by
  have hdigits := isDigits_padLeft 4 y.natAbs
  by_cases hneg : y < 0
  · have h := Spells.minus (List.forall_mem_nil _) hdigits
    rw [Text.valueOf_padLeft, Int.ofNat_natAbs_of_nonpos (Int.le_of_lt hneg), Int.neg_neg] at h
    rwa [Date.yearDigits_of_neg hneg]
  · have habs : (y.natAbs : Int) = y := Int.natAbs_of_nonneg (Int.not_lt.mp hneg)
    by_cases hlong : 9999 < y
    · have h := Spells.plus (List.forall_mem_nil _) hdigits
      rw [Text.valueOf_padLeft, habs] at h
      rwa [Date.yearDigits_of_long hlong]
    · have hsmall : y.natAbs < 10000 := by omega
      have h := spells_padLeft year (Text.length_padLeft_decimal hsmall).le
      rw [habs] at h
      rwa [Date.yearDigits_of_unsigned (Int.not_lt.mp hneg) (Int.not_lt.mp hlong)]

/-- What is written for a part spells out its value. -/
theorem spells_written (y : Int) {m d : Nat} (hmonth : m < 100) (hday : d < 100) (part : DatePart) :
    part.Spells (part.written y m d) (part.value y m d) := by
  cases part with
  | day => exact spells_twoDigits hday
  | month => exact spells_twoDigits hmonth
  | year => exact spells_yearDigits y

end DatePart

namespace Pattern

variable {s rest blanks : List Char} {most : Nat} {value : Int}

/-- What is read as a number is a run of digits. -/
theorem exists_of_scanNumber? (h : scanNumber? most s = some (value, rest)) :
    ∃ digits, IsDigits digits ∧ digits.length ≤ most ∧ s = digits ++ rest ∧ value = Text.valueOf digits := by
  rw [scanNumber?, Option.ite_none_left_eq_some] at h
  obtain ⟨hvalue, h⟩ := h
  cases h
  rw [Bool.or_eq_true, not_or] at hvalue
  have hbegins : (Text.digitRun most s).1 <+: s := (List.takeWhile_prefix _).trans (List.take_prefix most s)
  refine ⟨(Text.digitRun most s).1, ⟨by simpa using hvalue.1, ?_⟩, ?_, ?_, rfl⟩
  · exact List.all_eq_true.mp List.all_takeWhile
  · exact (List.takeWhile_prefix _).length_le.trans (List.length_take_le most s)
  · exact (List.prefix_iff_eq_append.mp hbegins).symm

/-- Blanks in front of a field do not count. -/
theorem scanField?_append_left (field : NumericField) (hblanks : Text.IsBlankText blanks) (s : List Char) :
    scanField? field (blanks ++ s) = scanField? field s := by
  have htrim : Text.trimStart (blanks ++ s) = Text.trimStart s := List.dropWhile_append_of_pos hblanks
  simp only [scanField?, htrim]

/-- A number that is entered is read, if it fits in 64 bits and no digit follows it. -/
theorem scanField?_of_spells {part : DatePart} {number : List Char} (h : part.Spells number value)
    (hrest : Text.EndsRun Char.isDigit rest) :
    scanField? part.field (number ++ rest) =
      if 0x8000000000000000 ≤ value.natAbs then none else some (value, rest) := by
  have hsigned {digits : List Char} (hdigits : IsDigits digits) :
      scanNumber? (digits ++ rest).length (digits ++ rest) =
        if 0x8000000000000000 ≤ Text.valueOf digits then none
        else some ((Text.valueOf digits : Int), rest) :=
    scanNumber?_append hdigits.ne_nil hdigits.isDigit (by simp) (.inr hrest)
  cases h with
  | unsigned hblanks hdigits hplaces =>
    obtain ⟨c, more, rfl⟩ := List.exists_cons_of_ne_nil hdigits.ne_nil
    rw [List.append_assoc, scanField?_append_left _ hblanks, List.cons_append,
      scanField?_cons_digit _ (hdigits.isDigit c List.mem_cons_self), DatePart.placesOf_field, Option.getD_some,
      ← List.cons_append, scanNumber?_append hdigits.ne_nil hdigits.isDigit hplaces (.inr hrest),
      Int.natAbs_natCast]
  | plus hblanks hdigits =>
    rw [List.append_assoc, scanField?_append_left _ hblanks, List.cons_append, DatePart.field,
      scanField?_year_plus, hsigned hdigits, Int.natAbs_natCast]
  | minus hblanks hdigits =>
    rw [List.append_assoc, scanField?_append_left _ hblanks, List.cons_append, DatePart.field,
      scanField?_year_minus, hsigned hdigits, Int.natAbs_neg, Int.natAbs_natCast]
    split <;> rfl

theorem eq_year_of_maySign {part : DatePart} (h : maySign part.field = true) : part = .year := by
  cases part with
  | year => rfl
  | day | month => cases h

/-- What is read for a part is a number as it may be entered. -/
theorem exists_spells_of_scanField? {part : DatePart} (h : scanField? part.field s = some (value, rest)) :
    ∃ number, part.Spells number value ∧ s = number ++ rest := by
  have hblanks : Text.IsBlankText (s.takeWhile Text.isBlank) := List.all_eq_true.mp List.all_takeWhile
  have hs : s = s.takeWhile Text.isBlank ++ Text.trimStart s := List.takeWhile_append_dropWhile.symm
  simp only [scanField?, DatePart.placesOf_field, Option.getD_some] at h
  generalize s.takeWhile Text.isBlank = blanks at hblanks hs
  split at h
  · next signed hpart hminus =>
    obtain rfl := eq_year_of_maySign hpart
    obtain ⟨⟨n, rest'⟩, hscan, heq⟩ := Option.map_eq_some_iff.mp h
    cases heq
    obtain ⟨digits, hdigits, -, rfl, rfl⟩ := exists_of_scanNumber? hscan
    exact ⟨_, .minus hblanks hdigits, by rw [hs, hminus, List.append_assoc, List.cons_append]⟩
  · next signed hpart hplus =>
    obtain rfl := eq_year_of_maySign hpart
    obtain ⟨digits, hdigits, -, rfl, rfl⟩ := exists_of_scanNumber? h
    exact ⟨_, .plus hblanks hdigits, by rw [hs, hplus, List.append_assoc, List.cons_append]⟩
  · obtain ⟨digits, hdigits, hplaces, hunsigned, rfl⟩ := exists_of_scanNumber? h
    exact ⟨_, .unsigned hblanks hdigits hplaces, by rw [hs, hunsigned, List.append_assoc]⟩

end Pattern

/-! ## Texts with a number for each part -/

namespace DatePattern

/-- The text behind the first number: separators, and numbers that denote the values of the parts. -/
inductive SpellsRest (value : DatePart → Int) : List (Separator × DatePart) → List Char → Prop
  | nil : SpellsRest value [] []
  | cons {sep : Separator} {part : DatePart} {rest : List (Separator × DatePart)} {number more : List Char}
      (hnumber : part.Spells number (value part)) (hmore : SpellsRest value rest more) :
      SpellsRest value ((sep, part) :: rest) (sep.text ++ (number ++ more))

/-- The text spells out the values of the parts: their numbers stand in it in the order of the pattern,
with the separators between them. -/
def Spells (p : DatePattern) (value : DatePart → Int) (s : String) : Prop :=
  ∃ number more, s.toList = number ++ more ∧ p.first.Spells number (value p.first) ∧
    SpellsRest value p.rest more

/-- No digit follows a number: there is a separator or nothing at all. -/
theorem SpellsRest.endsRun {value : DatePart → Int} {rest : List (Separator × DatePart)} {s : List Char}
    (h : SpellsRest value rest s) : Text.EndsRun Char.isDigit s := by
  intro c hc
  cases h with
  | nil => cases hc
  | @cons sep =>
    obtain ⟨text, hne, hplain⟩ := sep
    obtain ⟨c', text, rfl⟩ := List.exists_cons_of_ne_nil hne
    cases hc
    exact (hplain _ List.mem_cons_self).2.1

/-- What a pattern writes spells out the date, whether or not there is one. -/
theorem spells_written (p : DatePattern) (year : Int) {month day : Nat} (hmonth : month < 100)
    (hday : day < 100) : p.Spells (DatePart.value year month day) (p.written year month day) := by
  have hrest (rest : List (Separator × DatePart)) :
      SpellsRest (DatePart.value year month day) rest (restWritten year month day rest) := by
    induction rest with
    | nil => exact .nil
    | cons entry rest ih => exact .cons (DatePart.spells_written year hmonth hday entry.2) ih
  refine ⟨_, _, ?_, DatePart.spells_written year hmonth hday p.first, hrest p.rest⟩
  rw [written, String.toList_ofList]

end DatePattern

/-! ## Reading what is spelled out -/

namespace Pattern

section
variable {year : Int} {month day : Nat}

/-- A part is read from a number that denotes it, whatever was read before. -/
theorem scanItem?_of_spells {part : DatePart} {number rest : List Char}
    (h : part.Spells number (part.value year month day)) (hrest : Text.EndsRun Char.isDigit rest)
    (f : DateFields) :
    scanItem? (zeroed part.field) (number ++ rest) f = (readPart year month day f part).map (·, rest) := by
  have hscan := scanField?_of_spells h hrest
  by_cases hlarge : 0x8000000000000000 ≤ (part.value year month day).natAbs
  · -- Such a number does not fit in 64 bits, and is none that a part can be set to.
    have hnot : ¬ part.InRange year month day := by
      rw [DatePart.InRange]
      cases part <;> simp only [DatePart.least, DatePart.greatest] <;> omega
    rw [if_pos hlarge] at hscan
    simp only [zeroed, scanItem?, scanNumeric?, hscan, readPart_of_not_inRange hnot]
    rfl
  · rw [if_neg hlarge] at hscan
    simp only [zeroed, scanItem?, scanNumeric?, hscan, Option.bind_eq_bind, Option.bind_some]
    rw [readPart]
    cases (setNumeric part.field (part.value year month day) f).toOption <;> rfl

theorem scan?_of_spellsRest {rest : List (Separator × DatePart)} {s : List Char}
    (h : DatePattern.SpellsRest (DatePart.value year month day) rest s) (f : DateFields) :
    scan? (DatePattern.restItems rest) s f = (rest.map Prod.snd).foldlM (readPart year month day) f := by
  induction h generalizing f with
  | nil => rfl
  | @cons sep part rest number more hnumber hmore ih =>
    rw [DatePattern.restItems, scan?_cons (scanItem?_literal sep.text _ f), Option.bind_some,
      scan?_cons (scanItem?_of_spells hnumber hmore.endsRun f), List.map_cons, List.foldlM_cons]
    exact congrArg _ (funext ih)

/-- **What is spelled out is read part by part**, whether or not there is such a date. -/
theorem fields?_of_spells {p : DatePattern} {s : String} (h : p.Spells (DatePart.value year month day) s) :
    fields? p.text s.toList = p.parts.foldlM (readPart year month day) ({} : DateFields) := by
  obtain ⟨number, more, hs, hnumber, hmore⟩ := h
  rw [fields?, read?_text, hs, Option.bind_eq_bind, Option.bind_some, DatePattern.items,
    scan?_cons (scanItem?_of_spells hnumber hmore.endsRun {}), DatePattern.parts, List.foldlM_cons]
  exact congrArg _ (funext (scan?_of_spellsRest hmore))

end

end Pattern

/-! ## What was read was spelled out -/

namespace DateFields

/-- The parts that were known are still known. -/
def Extends (g f : DateFields) : Prop :=
  ∀ (part : DatePart) (value : Int), part.get f = some value → part.get g = some value

theorem Extends.refl (f : DateFields) : f.Extends f := fun _ _ => id

theorem Extends.trans {f g h : DateFields} (hgh : h.Extends g) (hfg : g.Extends f) : h.Extends f :=
  fun part value hvalue => hgh part value (hfg part value hvalue)

end DateFields

namespace DatePart

theorem get_put_self (part : DatePart) (f : DateFields) (value : Option Int) :
    part.get (part.put f value) = value := by
  cases part <;> rfl

theorem get_put_of_ne {part other : DatePart} (h : other ≠ part) (f : DateFields) (value : Option Int) :
    other.get (part.put f value) = other.get f := by
  cases part <;> cases other <;> first | rfl | exact absurd rfl h

end DatePart

namespace Pattern

variable {f g : DateFields} {s : List Char}

/-- Setting a part makes it known and forgets nothing. -/
theorem get_of_setNumeric {part : DatePart} {value : Int}
    (h : (setNumeric part.field value f).toOption = some g) : part.get g = some value ∧ g.Extends f := by
  rw [setNumeric_part] at h
  obtain ⟨_, kept, hwithin, hagree, rfl⟩ := DateFields.exists_of_set h
  obtain rfl := DateFields.within_eq_ok hwithin
  obtain ⟨rfl, hold⟩ := DateFields.agree_eq_ok hagree
  refine ⟨part.get_put_self f _, fun other value hvalue => ?_⟩
  by_cases hsame : other = part
  · subst hsame
    rw [DatePart.get_put_self, hold value hvalue]
  · rwa [DatePart.get_put_of_ne hsame]

theorem exists_of_scanItem?_part {part : DatePart} {rest : List Char}
    (h : scanItem? (zeroed part.field) s f = some (g, rest)) :
    ∃ number value, part.Spells number value ∧ s = number ++ rest ∧ part.get g = some value ∧
      g.Extends f := by
  obtain ⟨⟨value, _⟩, hscan, h⟩ := Option.bind_eq_some_iff.mp h
  obtain ⟨_, hset, heq⟩ := Option.bind_eq_some_iff.mp h
  cases heq
  obtain ⟨number, hnumber, hs⟩ := exists_spells_of_scanField? hscan
  exact ⟨number, value, hnumber, hs, get_of_setNumeric hset⟩

theorem exists_of_scan?_cons {item : PatternItem} {rest : Pattern}
    (h : scan? (item :: rest) s f = some g) :
    ∃ f' s', scanItem? item s f = some (f', s') ∧ scan? rest s' f' = some g := by
  obtain ⟨⟨f', s'⟩, hitem, hrest⟩ := Option.bind_eq_some_iff.mp h
  exact ⟨f', s', hitem, hrest⟩

theorem eq_of_scan?_nil (h : scan? [] s f = some g) : s = [] ∧ f = g := by
  simpa [scan?] using h

variable {value : DatePart → Int}

/-- What is read behind the first part was spelled out, by whatever values the parts have in the end. -/
theorem spellsRest_of_scan? {rest : List (Separator × DatePart)}
    (h : scan? (DatePattern.restItems rest) s f = some g)
    (hvalue : ∀ (part : DatePart) (v : Int), part.get g = some v → v = value part) :
    DatePattern.SpellsRest value rest s ∧ g.Extends f := by
  induction rest generalizing s f with
  | nil =>
    obtain ⟨rfl, rfl⟩ := eq_of_scan?_nil h
    exact ⟨.nil, .refl f⟩
  | cons entry rest ih =>
    obtain ⟨sep, part⟩ := entry
    obtain ⟨_, _, hsep, hparts⟩ := exists_of_scan?_cons h
    obtain ⟨unread, hafter, heq⟩ := Option.map_eq_some_iff.mp hsep
    cases heq
    obtain ⟨f', s', hpart, hrest⟩ := exists_of_scan?_cons hparts
    obtain ⟨number, v, hnumber, hunread, hget, hextends⟩ := exists_of_scanItem?_part hpart
    obtain ⟨hmore, hextends'⟩ := ih hrest
    rw [hvalue part v (hextends' part v hget)] at hnumber
    rw [Text.after?_eq_some hafter, hunread]
    exact ⟨.cons hnumber hmore, hextends'.trans hextends⟩

/-- **What is read was spelled out.** -/
theorem spells_of_fields? {p : DatePattern} {s : String} (h : fields? p.text s.toList = some g)
    (hvalue : ∀ (part : DatePart) (v : Int), part.get g = some v → v = value part) : p.Spells value s := by
  rw [fields?, read?_text, Option.bind_eq_bind, Option.bind_some, DatePattern.items] at h
  obtain ⟨f, more, hfirst, hrest⟩ := exists_of_scan?_cons h
  obtain ⟨number, v, hnumber, hs, hget, -⟩ := exists_of_scanItem?_part hfirst
  obtain ⟨hmore, hextends⟩ := spellsRest_of_scan? hrest hvalue
  rw [hvalue p.first v (hextends p.first v hget)] at hnumber
  exact ⟨number, more, hs, hnumber, hmore⟩

end Pattern
end RequestQuery
