import RequestQuery.Proofs.Calendar.Recovery
import RequestQuery.Proofs.Calendar.SpelledDate

/-! # Strict reading of dates

A pattern that asks for the month and the year, and perhaps for the day, finds
the date whose parts were written, or none if there is no such date
(`Date.readStrict?_written`).  Since a strict reader accepts a date only from the
text that the pattern writes for it, it is the inverse of writing
(`Date.readStrict?_eq_some_iff`).
-/
namespace RequestQuery

variable {year : Int} {month day : Nat}

/-! ## The fields of parts -/

namespace DatePart

/-- The fields that are known once some parts were read. -/
def fields (year : Int) (month day : Nat) (parts : List DatePart) : DateFields where
  year := if .year ∈ parts then some year else none
  month := if .month ∈ parts then some (month : Int) else none
  day := if .day ∈ parts then some (day : Int) else none

theorem inRange_of_isDate (h : isDate year month day = true) (part : DatePart) :
    part.InRange year month day := by
  obtain ⟨hyear, hmonth, hday⟩ := bounds_of_isDate h
  cases part <;> simp only [InRange, least, value, greatest] <;> omega

theorem get_fields {part : DatePart} {parts : List DatePart} (h : part ∉ parts) :
    part.get (fields year month day parts) = none := by
  cases part <;> exact if_neg h

theorem put_fields (part : DatePart) (parts : List DatePart) :
    part.put (fields year month day parts) (some (part.value year month day)) =
      fields year month day (parts ++ [part]) := by
  cases part <;> simp [put, value, fields]

end DatePart

namespace Pattern

/-- Different parts in range are all set, in whatever order. -/
theorem foldlM_readPart {done rest : List DatePart} (hnodup : (done ++ rest).Nodup)
    (hrange : ∀ part ∈ rest, part.InRange year month day) :
    rest.foldlM (readPart year month day) (DatePart.fields year month day done) =
      some (DatePart.fields year month day (done ++ rest)) := by
  induction rest generalizing done with
  | nil => rw [List.append_nil]; rfl
  | cons part rest ih =>
    obtain ⟨hpart, hrest⟩ := List.forall_mem_cons.mp hrange
    have hnew : part ∉ done := by
      intro hmem
      exact (List.nodup_append.mp hnodup).2.2 part hmem part List.mem_cons_self rfl
    rw [List.append_cons] at hnodup ⊢
    rw [List.foldlM_cons, readPart_of_inRange hpart (DatePart.get_fields hnew), DatePart.put_fields]
    exact ih hnodup hrest

theorem foldlM_readPart_of_not_inRange {parts : List DatePart} {part : DatePart} (hmem : part ∈ parts)
    (h : ¬ part.InRange year month day) (f : DateFields) :
    parts.foldlM (readPart year month day) f = none := by
  induction parts generalizing f with
  | nil => cases hmem
  | cons head rest ih =>
    rw [List.foldlM_cons]
    rcases List.mem_cons.mp hmem with rfl | hmem
    · rw [readPart_of_not_inRange h]
      rfl
    · cases readPart year month day f head with
      | none => rfl
      | some f => exact ih hmem f

end Pattern

/-! ## The date of the fields -/

namespace DateFields

variable (year : Int) (month day : Nat)

theorem date_ymd :
    ({ year := some year, month := some month, day := some day } : DateFields).date.toOption =
      Date.of? year month day := by
  cases hdate : Date.of? year month day with
  | none =>
    have hplain : ({ year := some year, month := some month, day := some day } : DateFields).Plain :=
      ⟨rfl, rfl, rfl, rfl, rfl, rfl, rfl, rfl⟩
    rw [hplain.date_eq rfl rfl rfl, Int.toNat_natCast, Int.toNat_natCast, hdate]
    rfl
  | some d =>
    obtain ⟨rfl, rfl, rfl⟩ := Date.of?_eq_some_iff.mp hdate
    rw [date_of_fields ⟨rfl, rfl, rfl, rfl, rfl, rfl, rfl, rfl⟩ rfl (matchesYear_self d.year) rfl rfl]
    rfl

theorem dateOrFirst?_eq (f : DateFields) :
    f.dateOrFirst? = f.date.toOption.or ((f.setDay 1).toOption.bind fun f => f.date.toOption) := by
  rw [dateOrFirst?]
  cases f.date <;> rfl

theorem dateOrFirst?_ymd :
    ({ year := some year, month := some month, day := some day } : DateFields).dateOrFirst? =
      Date.of? year month day := by
  rw [dateOrFirst?_eq, date_ymd]
  cases hdate : Date.of? year month day with
  | some d => rfl
  | none =>
    -- There is a day already: setting it to the first changes nothing or is refused.
    rcases eq_or_ne day 1 with rfl | hne
    · exact (date_ymd year month 1).trans hdate
    · have hagree : agree (some (day : Int)) 1 = .error .impossible := if_neg (by omega)
      show (((agree (some (day : Int)) 1).map fun day => _).toOption.bind _) = none
      rw [hagree]
      rfl

theorem dateOrFirst?_ym :
    ({ year := some year, month := some month } : DateFields).dateOrFirst? = Date.of? year month 1 := by
  rw [dateOrFirst?_eq]
  exact date_ymd year month 1

end DateFields

/-- The fields of month and year, and of the day unless it is the first, make a date if there is one. -/
theorem DatePart.dateOrFirst?_fields {parts : List DatePart} (hmonth : .month ∈ parts)
    (hyear : .year ∈ parts) (hday : .day ∉ parts → day = 1) :
    (fields year month day parts).dateOrFirst? = Date.of? year month day := by
  rw [fields, if_pos hmonth, if_pos hyear]
  split
  · exact DateFields.dateOrFirst?_ymd year month day
  · next hmissing =>
    rw [hday hmissing]
    exact DateFields.dateOrFirst?_ym year month

/-! ## Strict reading -/

/-- A pattern that does not ask for the day writes the same for all days. -/
theorem DatePattern.written_of_not_mem {p : DatePattern} (h : .day ∉ p.parts) (day' : Nat) :
    p.written year month day = p.written year month day' := by
  have hpart {part : DatePart} (hne : .day ≠ part) :
      part.written year month day = part.written year month day' := by
    cases part with
    | day => exact absurd rfl hne
    | month => rfl
    | year => rfl
  have hrest (rest : List (Separator × DatePart)) (h : .day ∉ rest.map Prod.snd) :
      restWritten year month day rest = restWritten year month day' rest := by
    induction rest with
    | nil => rfl
    | cons entry rest ih =>
      obtain ⟨hne, hmem⟩ := not_or.mp (mt List.mem_cons.mpr h)
      rw [restWritten, restWritten, hpart hne, ih hmem]
  obtain ⟨hne, hmem⟩ := not_or.mp (mt List.mem_cons.mpr h)
  rw [written, written, hpart hne, hrest p.rest hmem]

namespace Date

theorem of?_of_daysInMonth_lt (h : daysInMonth year month < day) : of? year month day = none := by
  refine dif_neg fun hdate => ?_
  simp only [isDate, Bool.and_eq_true, decide_eq_true_eq] at hdate
  omega

theorem daysInMonth_february_lt (year : Int) : daysInMonth year 2 < 31 := by
  rw [daysInMonth]
  split <;> decide

/-- A date that is read is one of the fields that were read, and the pattern writes the text for it. -/
theorem readStrict?_iff_fields? {s pattern : String} {d : Date} :
    readStrict? s pattern = some d ↔
      (Pattern.fields? pattern s.toList).bind DateFields.dateOrFirst? = some d ∧ d.format? pattern = some s := by
  have hread : readStrict? s pattern =
      ((Pattern.fields? pattern s.toList).bind DateFields.dateOrFirst?).bind
        fun d => if d.format? pattern = some s then some d else none :=
    (Option.bind_assoc ..).symm
  rw [hread, Option.bind_eq_some_iff]
  constructor
  · rintro ⟨d', hdate, h⟩
    rw [Option.ite_none_right_eq_some] at h
    obtain ⟨hformat, h⟩ := h
    cases h
    exact ⟨hdate, hformat⟩
  · rintro ⟨hdate, hformat⟩
    exact ⟨d, hdate, if_pos hformat⟩

/-- Only the text that the pattern writes is accepted. -/
theorem format?_of_readStrict? {s pattern : String} {d : Date} (h : readStrict? s pattern = some d) :
    d.format? pattern = some s :=
  (readStrict?_iff_fields?.mp h).2

variable {p : DatePattern}

/-- **A written date is read back if there is such a date**, and nothing else is. -/
theorem readStrict?_written (hnodup : p.parts.Nodup) (hmonth : .month ∈ p.parts) (hyear : .year ∈ p.parts)
    (hday : .day ∉ p.parts → day = 1) (hm : month < 100) (hd : day < 100) :
    readStrict? (p.written year month day) p.text = of? year month day := by
  have hfields : Pattern.fields? p.text (p.written year month day).toList = _ :=
    Pattern.fields?_of_spells (p.spells_written year hm hd)
  by_cases hrange : ∀ part ∈ p.parts, part.InRange year month day
  · rw [show ({} : DateFields) = DatePart.fields year month day [] from rfl,
      Pattern.foldlM_readPart hnodup hrange, List.nil_append] at hfields
    rw [readStrict?, hfields, Option.bind_eq_bind, Option.bind_some,
      DatePart.dateOrFirst?_fields hmonth hyear hday]
    cases hdate : of? year month day with
    | none => rfl
    | some d =>
      obtain ⟨rfl, rfl, rfl⟩ := of?_eq_some_iff.mp hdate
      exact if_pos (p.format?_text d)
  · obtain ⟨part, hmem, hnot⟩ := not_forall₂.mp hrange
    rw [Pattern.foldlM_readPart_of_not_inRange hmem hnot] at hfields
    rw [readStrict?, hfields, of?, dif_neg fun h => hnot (DatePart.inRange_of_isDate h part)]
    rfl

/-- What is read strictly is what writes the text, on the first of the month if the pattern has no day. -/
theorem readStrict?_iff (hnodup : p.parts.Nodup) (hmonth : .month ∈ p.parts) (hyear : .year ∈ p.parts)
    (s : String) (d : Date) :
    readStrict? s p.text = some d ↔ (.day ∉ p.parts → d.day = 1) ∧ d.format? p.text = some s := by
  obtain ⟨-, hm, hd⟩ := bounds_of_isDate d.exists_day
  constructor
  · intro hread
    have hformat := format?_of_readStrict? hread
    refine ⟨fun hmissing => ?_, hformat⟩
    rw [p.format?_text, DatePattern.written_of_not_mem hmissing 1, Option.some.injEq] at hformat
    rw [← hformat, readStrict?_written hnodup hmonth hyear (fun _ => rfl) (by omega) (by omega)] at hread
    exact (of?_eq_some_iff.mp hread).2.2
  · rintro ⟨hday, hformat⟩
    rw [p.format?_text, Option.some.injEq] at hformat
    rw [← hformat, readStrict?_written hnodup hmonth hyear hday (by omega) (by omega), of?_self]

/-- **Strict reading is the inverse of writing.**  A pattern writes a date part by part.  By a pattern
of day, month and year, a date is read from exactly the text that the pattern writes for it; so every
date is read from some text, and the 31st of February from none.  By a pattern of month and year the
same holds for the first of a month, and no other date is read. -/
theorem readStrict?_eq_some_iff (p : DatePattern) :
    (∀ d : Date, d.format? p.text = some (p.written d.year d.month d.day)) ∧
    (p.parts.Perm [.day, .month, .year] →
      (∀ (s : String) (d : Date), readStrict? s p.text = some d ↔ d.format? p.text = some s) ∧
      (∀ d : Date, ∃ s : String, readStrict? s p.text = some d) ∧
      ∀ year : Int, readStrict? (p.written year 2 31) p.text = none) ∧
    (p.parts.Perm [.month, .year] →
      ∀ (s : String) (d : Date),
        readStrict? s p.text = some d ↔ d.day = 1 ∧ d.format? p.text = some s) := by
  refine ⟨p.format?_text, ?_, ?_⟩
  · intro hperm
    have hnodup : p.parts.Nodup := hperm.nodup_iff.mpr (by decide)
    have hmem (part : DatePart) : part ∈ p.parts := hperm.mem_iff.mpr (by cases part <;> decide)
    have hiff (s : String) (d : Date) : readStrict? s p.text = some d ↔ d.format? p.text = some s := by
      rw [readStrict?_iff hnodup (hmem _) (hmem _)]
      exact and_iff_right fun hmissing => absurd (hmem _) hmissing
    refine ⟨hiff, fun d => ⟨_, (hiff _ d).mpr (p.format?_text d)⟩, fun year => ?_⟩
    rw [readStrict?_written hnodup (hmem _) (hmem _) (fun hmissing => absurd (hmem _) hmissing) (by decide)
      (by decide)]
    exact of?_of_daysInMonth_lt (daysInMonth_february_lt year)
  · intro hperm s d
    have hnodup : p.parts.Nodup := hperm.nodup_iff.mpr (by decide)
    have hmissing : .day ∉ p.parts := fun h => absurd (hperm.mem_iff.mp h) (by decide)
    rw [readStrict?_iff hnodup (hperm.mem_iff.mpr (by decide)) (hperm.mem_iff.mpr (by decide)),
      forall_prop_of_true hmissing]

/-- The pattern `%d.%m.%Y`. -/
def dottedDate : DatePattern :=
  ⟨.day, [(.ofChar '.' (by decide), .month), (.ofChar '.' (by decide), .year)]⟩

/-- The pattern `%Y-%m`. -/
def yearAndMonth : DatePattern :=
  ⟨.year, [(.ofChar '-' (by decide), .month)]⟩

/-- Leap days are read, also in a negative year, and months of a year with five digits. -/
theorem readStrict?_far_years :
    (readStrict? "29.02.-0004" "%d.%m.%Y" = some ⟨-4, 2, 29, by decide⟩ ∧
      ∀ year : Int, readStrict? (dottedDate.written year 2 31) "%d.%m.%Y" = none) ∧
    readStrict? "+12345-02" "%Y-%m" = some ⟨12345, 2, 1, by decide⟩ := by
  obtain ⟨hwritten, hfull, -⟩ := readStrict?_eq_some_iff dottedDate
  obtain ⟨hwritten', -, hmonth⟩ := readStrict?_eq_some_iff yearAndMonth
  obtain ⟨hiff, -, hnone⟩ := hfull (by decide)
  refine ⟨⟨(hiff _ _).mpr ?_, hnone⟩, (hmonth (by decide) _ _).mpr ⟨rfl, ?_⟩⟩
  · exact (hwritten _).trans (by decide +kernel)
  · exact (hwritten' _).trans (by decide +kernel)

end Date
end RequestQuery
