import RequestQuery.Calendar.Read

/-! # Dates that begin with the year

All usual forms of a date begin with the year and a dash, and so do the formats
in which dates are stored.  The year takes a character at least, so that the dash
is not the first one: what has no dash behind its first character is no such
date, whether it is read by a pattern (`DateTime.readLenient?_eq_none`) or in one
of the usual forms (`DateTime.readIso?_eq_none`).  In the empty text no pattern
finds a year, and so none finds a date (`Date.readStrict?_empty`).
-/
namespace RequestQuery

/-! ## What is left of a text -/

theorem Text.tail_suffix_tail {s t : List Char} (h : s <:+ t) : s.tail <:+ t.tail := by
  obtain ⟨front, rfl⟩ := h
  cases front with
  | nil => exact List.suffix_rfl
  | cons c front => exact (List.tail_suffix s).trans (List.suffix_append front s)

/-- Trimming leaves nothing behind the first character that was not there. -/
theorem Text.mem_tail_of_mem_tail_trimChars {s : List Char} {c : Char} (h : c ∈ (trimChars s).tail) :
    c ∈ s.tail := by
  obtain ⟨t, ht, -⟩ := dropEndWhile_append isBlank (s.dropWhile isBlank)
  have hsuffix : (s.dropWhile isBlank).tail <:+ s.tail := tail_suffix_tail (List.dropWhile_suffix _)
  refine hsuffix.subset ?_
  rw [ht]
  cases hkept : dropEndWhile isBlank (s.dropWhile isBlank) with
  | nil =>
    rw [trimChars, stripWhile, hkept] at h
    cases h
  | cons d kept =>
    rw [trimChars, stripWhile, hkept] at h
    exact List.mem_append_left t h

namespace Pattern

variable {s rest : List Char} {value : Int}

/-- A run of digits that is not empty leaves less. -/
theorem digitRun_suffix {most : Nat} (h : (Text.digitRun most s).1 ≠ []) :
    (Text.digitRun most s).2 <:+ s.tail := by
  obtain ⟨c, run, hrun⟩ := List.exists_cons_of_ne_nil h
  rw [show (Text.digitRun most s).2 = s.drop (Text.digitRun most s).1.length from rfl, hrun,
    List.length_cons, ← List.drop_tail]
  exact List.drop_suffix _ _

theorem scanNumber?_suffix {most : Nat} (h : scanNumber? most s = some (value, rest)) :
    rest <:+ s.tail := by
  rw [scanNumber?, Option.ite_none_left_eq_some] at h
  obtain ⟨hvalue, h⟩ := h
  cases h
  refine digitRun_suffix fun hempty => hvalue ?_
  rw [hempty]
  rfl

theorem scanExactly?_suffix {width : Nat} (h : scanExactly? (width + 1) s = some (value, rest)) :
    rest <:+ s.tail := by
  rw [scanExactly?, Option.ite_none_right_eq_some] at h
  obtain ⟨hwidth, h⟩ := h
  cases h
  refine digitRun_suffix fun hempty => ?_
  rw [hempty] at hwidth
  cases hwidth

theorem scanField?_year_suffix (h : scanField? .year s = some (value, rest)) : rest <:+ s.tail := by
  refine List.IsSuffix.trans ?_ (Text.tail_suffix_tail (List.dropWhile_suffix Text.isBlank))
  simp only [scanField?, Text.trimStart] at h
  split at h
  · next signed _ hs =>
    rw [hs]
    obtain ⟨⟨n, rest'⟩, hscan, hrest⟩ := Option.map_eq_some_iff.mp h
    cases hrest
    exact (scanNumber?_suffix hscan).trans (List.tail_suffix signed)
  · next signed _ hs =>
    rw [hs]
    exact (scanNumber?_suffix h).trans (List.tail_suffix signed)
  · exact scanNumber?_suffix h

/-- No dash follows if there is none behind the first character. -/
theorem after?_dash_eq_none (hdash : '-' ∉ s.tail) (hrest : rest <:+ s.tail) :
    Text.after? ['-'] rest = none := by
  cases hafter : Text.after? ['-'] rest with
  | none => rfl
  | some more =>
    have hmem : '-' ∈ rest := Text.after?_eq_some hafter ▸ List.mem_cons_self
    exact absurd (hrest.subset hmem) hdash

/-! ## Reading by a pattern -/

theorem scan?_year_dash_eq_none (hdash : '-' ∉ s.tail) (items : Pattern) (f : DateFields) :
    scan? (zeroed .year :: mark '-' :: items) s f = none := by
  simp only [scan?, scanItem?, scanNumeric?, zeroed, mark, Option.bind_eq_bind]
  cases hscan : scanField? .year s with
  | none => rfl
  | some found =>
    obtain ⟨value, rest⟩ := found
    have hafter := after?_dash_eq_none hdash (scanField?_year_suffix hscan)
    cases hset : (setNumeric .year value f).toOption with
    | none => simp [hset]
    | some f' => simp [hset, hafter]

/-- Whether a pattern begins with a year and a dash. -/
def beginsWithYear (pattern : String) : Bool :=
  (read? pattern.toList).map (List.take 2) = some [zeroed .year, mark '-']

theorem fields?_eq_none {pattern : String} (hpattern : beginsWithYear pattern = true)
    (hdash : '-' ∉ s.tail) : fields? pattern s = none := by
  rw [beginsWithYear, decide_eq_true_eq, Option.map_eq_some_iff] at hpattern
  obtain ⟨items, hread, htake⟩ := hpattern
  rw [fields?, hread, Option.bind_eq_bind, Option.bind_some, ← List.take_append_drop 2 items, htake]
  exact scan?_year_dash_eq_none hdash (items.drop 2) {}

theorem beginsWithYear_of_mem_isoPatterns {pattern : String}
    (h : pattern ∈ "%Y-%m-%d" :: DateTime.isoPatterns) : beginsWithYear pattern = true := by
  have hall : ("%Y-%m-%d" :: DateTime.isoPatterns).all beginsWithYear = true := by decide +kernel
  exact List.all_eq_true.mp hall pattern h

end Pattern

namespace DateTime

variable {s : String}

theorem readLenient?_eq_none {pattern : String} (hpattern : Pattern.beginsWithYear pattern = true)
    (hdash : '-' ∉ s.toList.tail) : readLenient? s pattern = none := by
  rw [readLenient?, Pattern.fields?_eq_none hpattern hdash]
  rfl

theorem readInternet?_eq_none {s : List Char} (hdash : '-' ∉ s.tail) : readInternet? s = none := by
  have hscan : scanInternet? s = none := by
    refine Option.bind_eq_none_iff.mpr fun (_, rest) hyear => ?_
    have hafter := Pattern.after?_dash_eq_none hdash (Pattern.scanExactly?_suffix hyear)
    exact Option.bind_eq_none_iff.mpr fun more hmore => nomatch hafter.symm.trans hmore
  rw [readInternet?, hscan]
  rfl

/-- **A text without a dash behind its first character has none of the usual forms.** -/
theorem readIso?_eq_none (hdash : '-' ∉ s.toList.tail) : readIso? s = none := by
  have htrim : '-' ∉ (Text.trimChars s.toList).tail := mt Text.mem_tail_of_mem_tail_trimChars hdash
  have hforms : isoPatterns.findSome? (fun pattern => readBy? pattern (Text.trimChars s.toList)) = none := by
    refine List.findSome?_eq_none_iff.mpr fun pattern hmem => ?_
    have hpattern := Pattern.beginsWithYear_of_mem_isoPatterns (List.mem_cons_of_mem _ hmem)
    rw [readBy?, Pattern.fields?_eq_none hpattern htrim, Option.bind_none]
  have hdate := Pattern.fields?_eq_none (Pattern.beginsWithYear_of_mem_isoPatterns List.mem_cons_self) htrim
  rw [readIso?, readInternet?_eq_none htrim, hforms, hdate]
  rfl

end DateTime
/-! ## The empty text -/

/-- Fields in which nothing of a year is known. -/
structure DateFields.Yearless (f : DateFields) : Prop where
  year : f.year = none
  century : f.century = none
  yearOfCentury : f.yearOfCentury = none
  isoYear : f.isoYear = none
  isoYearOfCentury : f.isoYearOfCentury = none

/-- Without a year there is no date, not even the first of a month. -/
theorem DateFields.Yearless.dateOrFirst?_eq_none {f : DateFields} (h : f.Yearless) :
    f.dateOrFirst? = none := by
  have hdate {f : DateFields} (h : f.Yearless) : f.date = .error .incomplete := by
    have hfull : f.fullYear = .ok none := by
      rw [fullYear, h.year, h.century, h.yearOfCentury]
      rfl
    rw [date, hfull, fullIsoYear_of_none h.isoYear h.isoYearOfCentury]
    rfl
  have hset : f.setDay 1 = (agree f.day 1).map fun day => { f with day } := rfl
  simp only [dateOrFirst?, hdate h, hset]
  cases agree f.day 1 with
  | error fault => rfl
  | ok day =>
    have hfirst : ({ f with day } : DateFields).Yearless :=
      ⟨h.year, h.century, h.yearOfCentury, h.isoYear, h.isoYearOfCentury⟩
    exact congrArg Except.toOption (hdate hfirst)

/-- Setting the nanoseconds changes nothing else. -/
theorem DateFields.exists_of_setNanosecond {f g : DateFields} {value : Int}
    (h : (f.setNanosecond value).toOption = some g) : ∃ kept, g = { f with nanosecond := kept } := by
  obtain ⟨_, kept, -, -, hg⟩ := exists_of_set h
  exact ⟨kept, hg⟩

namespace Pattern

theorem scanExactly?_nil {width : Nat} {value : Int} {rest : List Char}
    (h : scanExactly? width [] = some (value, rest)) : rest = [] := by
  rw [scanExactly?, Option.ite_none_right_eq_some] at h
  obtain ⟨-, h⟩ := h
  cases h
  exact List.drop_nil

theorem scanField?_nil (field : NumericField) : scanField? field [] = none := by
  cases field <;> rfl

/-- What reads nothing leaves nothing, and learns nothing of a year. -/
theorem scanItem?_nil {item : PatternItem} {f f' : DateFields} {rest : List Char}
    (h : scanItem? item [] f = some (f', rest)) : rest = [] ∧ (f.Yearless → f'.Yearless) := by
  cases item with
  | literal text =>
    obtain ⟨_, hafter, heq⟩ := Option.map_eq_some_iff.mp h
    cases heq
    exact ⟨(List.append_eq_nil_iff.mp (Text.after?_eq_some hafter).symm).2, id⟩
  | gap text =>
    cases h
    exact ⟨rfl, id⟩
  | numeric field padding =>
    rw [scanItem?, scanNumeric?, scanField?_nil] at h
    cases h
  | fixed field =>
    cases field with
    | fraction | pointedFraction width | zoneName =>
      cases h
      exact ⟨rfl, id⟩
    | bareFraction width =>
      obtain ⟨⟨nanosecond, rest'⟩, hscan, h⟩ := Option.bind_eq_some_iff.mp h
      obtain ⟨g, hset, h⟩ := Option.bind_eq_some_iff.mp h
      cases h
      obtain ⟨⟨value, rest'⟩, hexact, heq⟩ := Option.map_eq_some_iff.mp hscan
      cases heq
      obtain ⟨kept, rfl⟩ := DateFields.exists_of_setNanosecond hset
      exact ⟨scanExactly?_nil hexact, fun hf => ⟨hf.year, hf.century, hf.yearOfCentury, hf.isoYear, hf.isoYearOfCentury⟩⟩
    | _ => cases h

theorem scan?_nil {items : Pattern} {f g : DateFields} (hf : f.Yearless) (h : scan? items [] f = some g) :
    g.Yearless := by
  induction items generalizing f with
  | nil =>
    cases h
    exact hf
  | cons item items ih =>
    obtain ⟨⟨f', rest⟩, hitem, hrest⟩ := Option.bind_eq_some_iff.mp h
    obtain ⟨rfl, hkept⟩ := scanItem?_nil hitem
    exact ih (hkept hf) hrest

end Pattern

/-- **The empty text is no date**, by whatever pattern. -/
theorem Date.readStrict?_empty (pattern : String) : readStrict? "" pattern = none := by
  refine Option.bind_eq_none_iff.mpr fun f hf => ?_
  obtain ⟨items, -, hscan⟩ := Option.bind_eq_some_iff.mp hf
  have hyearless := Pattern.scan?_nil ⟨rfl, rfl, rfl, rfl, rfl⟩ hscan
  rw [hyearless.dateOrFirst?_eq_none]
  rfl

end RequestQuery
