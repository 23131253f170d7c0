import RequestQuery.Proofs.Calendar.Recovery
import RequestQuery.Proofs.Calendar.StrictDate

/-! # Lenient reading of dates

A pattern that writes a date without a time of day reads nothing of a time of day
either, whatever the text (`Pattern.timeless_of_fields?`).  So a lenient reader finds
the midnight of the date that a strict reader would test, and reading strictly is
reading leniently a text that the pattern writes (`Date.readStrict?_iff_readLenient?`).

A date that is put together agrees with all fields that were read, so that neither a
missing day nor an impossible one makes another date of them
(`DateFields.value_of_dateOrFirst?`).  By a pattern of day, month and year the date that
is read is the one that is spelled out (`DateTime.readers_agree`).
-/
namespace RequestQuery

/-! ## Patterns without a time of day -/

namespace Pattern

variable {d : Date} {f g : DateFields} {s rest text : List Char}

/-- An element that writes a date without a time writes the same whatever the time. -/
theorem writeItem?_of_date {item : PatternItem} (h : writeItem? (some d) none item = some text)
    (t : TimeOfDay) : writeItem? (some d) (some t) item = some text := by
  cases item with
  | literal _ | gap _ => exact h
  | numeric field padding =>
    cases field with
    | hour | halfDayHour | minute | second | nanosecond | epochSecond => cases h
    | _ => exact h
  | fixed field =>
    cases field with
    | shortMonth | longMonth | shortWeekday | longWeekday => exact h
    | _ => cases h

theorem write?_of_date {items : Pattern} (h : write? (some d) none items = some text) (t : TimeOfDay) :
    write? (some d) (some t) items = some text := by
  induction items generalizing text with
  | nil => exact h
  | cons item items ih =>
    obtain ⟨own, hown, h⟩ := Option.bind_eq_some_iff.mp h
    obtain ⟨more, hmore, h⟩ := Option.bind_eq_some_iff.mp h
    cases h
    exact write?_cons (writeItem?_of_date hown t) (ih hmore)

theorem timeless_of_setNumeric {field : NumericField} {padding : Padding} {value : Int}
    (hwrite : writeItem? (some d) none (.numeric field padding) = some text) (hf : f.Timeless)
    (h : (setNumeric field value f).toOption = some g) : g.Timeless := by
  cases field with
  | hour | halfDayHour | minute | second | nanosecond | epochSecond => cases hwrite
  | dayFromSunday =>
    rw [setNumeric] at h
    cases hday : DateFields.within 0 6 value with
    | error fault =>
      rw [hday] at h
      cases h
    | ok day =>
      rw [hday] at h
      obtain ⟨_, _, -, -, rfl⟩ := DateFields.exists_of_set h
      exact ⟨hf.half, hf.epochSecond⟩
  | _ =>
    obtain ⟨_, _, -, -, rfl⟩ := DateFields.exists_of_set h
    exact ⟨hf.half, hf.epochSecond⟩

/-- An element that writes a date without a time reads no time. -/
theorem timeless_of_scanItem? {item : PatternItem} (hwrite : writeItem? (some d) none item = some text)
    (hf : f.Timeless) (h : scanItem? item s f = some (g, rest)) : g.Timeless := by
  cases item with
  | literal text =>
    obtain ⟨_, -, heq⟩ := Option.map_eq_some_iff.mp h
    cases heq
    exact hf
  | gap text =>
    cases h
    exact hf
  | numeric field padding =>
    obtain ⟨⟨value, rest'⟩, -, h⟩ := Option.bind_eq_some_iff.mp h
    obtain ⟨g, hset, heq⟩ := Option.bind_eq_some_iff.mp h
    cases heq
    exact timeless_of_setNumeric hwrite hf hset
  | fixed field =>
    cases field with
    | shortMonth | longMonth | shortWeekday | longWeekday =>
      obtain ⟨⟨index, rest'⟩, -, h⟩ := Option.bind_eq_some_iff.mp h
      obtain ⟨g, hset, heq⟩ := Option.bind_eq_some_iff.mp h
      cases heq
      obtain ⟨_, _, -, -, rfl⟩ := DateFields.exists_of_set hset
      exact ⟨hf.half, hf.epochSecond⟩
    | _ => cases hwrite

theorem timeless_of_scan? {items : Pattern} (hwrite : write? (some d) none items = some text)
    (hf : f.Timeless) (h : scan? items s f = some g) : g.Timeless := by
  induction items generalizing s f text with
  | nil =>
    obtain ⟨-, rfl⟩ := eq_of_scan?_nil h
    exact hf
  | cons item items ih =>
    obtain ⟨own, hown, hwrite⟩ := Option.bind_eq_some_iff.mp hwrite
    obtain ⟨more, hmore, -⟩ := Option.bind_eq_some_iff.mp hwrite
    obtain ⟨f', rest, hitem, hrest⟩ := exists_of_scan?_cons h
    exact ih hmore (timeless_of_scanItem? hown hf hitem) hrest

theorem timeless_of_fields? {pattern written : String} (hformat : d.format? pattern = some written)
    (h : fields? pattern s = some f) : f.Timeless := by
  obtain ⟨items, hread, hformat⟩ := Option.bind_eq_some_iff.mp hformat
  obtain ⟨text, hwrite, -⟩ := Option.bind_eq_some_iff.mp hformat
  rw [fields?, hread, Option.bind_eq_bind, Option.bind_some] at h
  exact timeless_of_scan? hwrite ⟨rfl, rfl⟩ h

end Pattern

/-! ## Strict and lenient reading -/

namespace DateTime

/-- What a pattern writes for a date it writes for any time of that date. -/
theorem format?_of_date {d : Date} {pattern written : String} (h : d.format? pattern = some written)
    (t : TimeOfDay) : format? ⟨d, t⟩ pattern = some written := by
  obtain ⟨items, hread, h⟩ := Option.bind_eq_some_iff.mp h
  obtain ⟨text, hwrite, h⟩ := Option.bind_eq_some_iff.mp h
  rw [format?, hread, Option.bind_eq_bind, Option.bind_some, Pattern.write?_of_date hwrite t]
  exact h

theorem atMidnight_inj {d d' : Date} : atMidnight d = atMidnight d' ↔ d = d' := by
  rw [atMidnight, atMidnight, DateTime.mk.injEq, and_iff_left rfl]

/-- By a pattern that writes dates alone, a lenient reader finds the midnight of a date. -/
theorem readLenient?_of_format? {d : Date} {pattern written : String}
    (hformat : d.format? pattern = some written) (s : String) :
    readLenient? s pattern =
      ((Pattern.fields? pattern s.toList).bind DateFields.dateOrFirst?).map atMidnight := by
  cases hfields : Pattern.fields? pattern s.toList with
  | none =>
    rw [readLenient?, hfields]
    rfl
  | some f => exact readLenient?_of_timeless hfields (Pattern.timeless_of_fields? hformat hfields)

end DateTime

/-- **Strict reading is lenient reading** of a text that the pattern writes for the date. -/
theorem Date.readStrict?_iff_readLenient? {s pattern : String} {d : Date} :
    readStrict? s pattern = some d ↔
      DateTime.readLenient? s pattern = some (.atMidnight d) ∧ d.format? pattern = some s := by
  rw [readStrict?_iff_fields?]
  refine and_congr_left fun hformat => ?_
  rw [DateTime.readLenient?_of_format? hformat, Option.map_eq_some_iff]
  simp only [DateTime.atMidnight_inj, exists_eq_right]

/-! ## Dates agree with what was read -/

namespace DateFields

variable {f : DateFields} {d : Date}

theorem agrees_of_date (h : f.date = .ok d) : f.agrees d = true := by
  obtain ⟨year, -, h⟩ := exists_of_bind h
  obtain ⟨isoYear, -, h⟩ := exists_of_bind h
  obtain ⟨found, -, h⟩ := exists_of_bind h
  split at h
  · next hagrees =>
    cases h
    exact hagrees
  · cases h

theorem value_of_agrees (h : f.agrees d = true) {part : DatePart} {value : Int}
    (hget : part.get f = some value) : value = part.value d.year d.month d.day := by
  have hmatches {field : Option Int} {expected : Int} (h : matchesField field expected = true)
      (hfield : field = some value) : value = expected := by
    rw [hfield] at h
    exact eq_of_beq h
  simp only [agrees, Bool.and_eq_true, and_assoc] at h
  obtain ⟨hyear, hmonth, hday, -⟩ := h
  rw [matchesYear, Bool.and_eq_true] at hyear
  cases part with
  | year => exact hmatches hyear.1 hget
  | month => exact hmatches hmonth hget
  | day => exact hmatches hday hget

/-- **A date has the parts that were read**, also where its day was supplied. -/
theorem value_of_dateOrFirst? (h : f.dateOrFirst? = some d) {part : DatePart} {value : Int}
    (hget : part.get f = some value) : value = part.value d.year d.month d.day := by
  rw [dateOrFirst?] at h
  split at h
  · next hdate =>
    cases h
    exact value_of_agrees (agrees_of_date hdate) hget
  · -- the fields with the first as their day still have all parts that were read
    obtain ⟨g, hset, hfound⟩ := Option.bind_eq_some_iff.mp h
    have hday : (Pattern.setNumeric DatePart.day.field 1 f).toOption = some g := hset
    have hextends : g.Extends f := (Pattern.get_of_setNumeric hday).2
    exact value_of_agrees (agrees_of_date (ok_of_toOption hfound)) (hextends part value hget)

end DateFields

/-! ## Dates that are spelled out -/

namespace DateTime

variable {p : DatePattern} {s : String} {year : Int} {month day : Nat}

/-- What is spelled out is read as a date if there is one, the first of the month where the pattern has no
day. -/
theorem readLenient?_of_spells (hnodup : p.parts.Nodup) (hmonth : .month ∈ p.parts) (hyear : .year ∈ p.parts)
    (hday : .day ∉ p.parts → day = 1) (h : p.Spells (DatePart.value year month day) s) :
    readLenient? s p.text = (Date.of? year month day).map atMidnight := by
  have hfields := Pattern.fields?_of_spells h
  by_cases hrange : ∀ part ∈ p.parts, part.InRange year month day
  · rw [show ({} : DateFields) = DatePart.fields year month day [] from rfl,
      Pattern.foldlM_readPart hnodup hrange, List.nil_append] at hfields
    rw [readLenient?_of_timeless hfields ⟨rfl, rfl⟩, DatePart.dateOrFirst?_fields hmonth hyear hday]
  · obtain ⟨part, hmem, hnot⟩ := not_forall₂.mp hrange
    rw [Pattern.foldlM_readPart_of_not_inRange hmem hnot] at hfields
    rw [readLenient?, hfields, Date.of?, dif_neg fun h => hnot (DatePart.inRange_of_isDate h part)]
    rfl

/-- What is read by a pattern of parts is a midnight, and its parts were spelled out. -/
theorem spells_of_readLenient? {dt : DateTime} (h : readLenient? s p.text = some dt) :
    dt.time = .midnight ∧ p.Spells (DatePart.value dt.date.year dt.date.month dt.date.day) s := by
  rw [readLenient?_of_format? (p.format?_text dt.date), Option.map_eq_some_iff] at h
  obtain ⟨d, hd, rfl⟩ := h
  obtain ⟨f, hfields, hdate⟩ := Option.bind_eq_some_iff.mp hd
  exact ⟨rfl, Pattern.spells_of_fields? hfields fun part value => DateFields.value_of_dateOrFirst? hdate⟩

/-- **Strict and lenient readers agree.**  By whatever pattern, a date is read strictly exactly if its
midnight is read leniently and the pattern writes the text for it.  By a pattern of day, month and year a
lenient reader finds the midnight of the date whose numbers stand in the text, and nothing else; so it
finds nothing where the month that stands there does not have the day. -/
theorem readers_agree :
    (∀ (s pattern : String) (d : Date), Date.readStrict? s pattern = some d ↔
      readLenient? s pattern = some (atMidnight d) ∧ d.format? pattern = some s) ∧
    ∀ p : DatePattern, p.parts.Perm [.day, .month, .year] → ∀ s : String,
      (∀ dt : DateTime, readLenient? s p.text = some dt ↔
        dt.time = .midnight ∧ p.Spells (DatePart.value dt.date.year dt.date.month dt.date.day) s) ∧
      ∀ (year : Int) (month day : Nat), p.Spells (DatePart.value year month day) s →
        daysInMonth year month < day → readLenient? s p.text = none := by
  refine ⟨fun s pattern d => Date.readStrict?_iff_readLenient?, fun p hperm s => ?_⟩
  have hnodup : p.parts.Nodup := hperm.nodup_iff.mpr (by decide)
  have hmem (part : DatePart) : part ∈ p.parts := hperm.mem_iff.mpr (by cases part <;> decide)
  have hread {year : Int} {month day : Nat} (h : p.Spells (DatePart.value year month day) s) :
      readLenient? s p.text = (Date.of? year month day).map atMidnight :=
    readLenient?_of_spells hnodup (hmem _) (hmem _) (fun hmissing => absurd (hmem _) hmissing) h
  refine ⟨fun dt => ⟨spells_of_readLenient?, ?_⟩, fun year month day hspells hlast => ?_⟩
  · rintro ⟨htime, hspells⟩
    rw [hread hspells, Date.of?_self, Option.map_some, atMidnight, ← htime]
  · rw [hread hspells, Date.of?_of_daysInMonth_lt hlast, Option.map_none]

/-- A leap day of a negative year is read as the pattern writes it and as it may be entered; the day after
it is not read. -/
theorem readers_agree_leap_day :
    readLenient? "29.02.-0004" "%d.%m.%Y" = some (atMidnight ⟨-4, 2, 29, by decide⟩) ∧
    readLenient? "29. 2.-4" "%d.%m.%Y" = some (atMidnight ⟨-4, 2, 29, by decide⟩) ∧
    readLenient? "30. 2.-4" "%d.%m.%Y" = none := by
  have hmonth : DatePart.month.Spells [' ', '2'] 2 :=
    @DatePart.Spells.unsigned .month [' '] ['2'] (by decide) (by decide) (by decide)
  have hyear : DatePart.year.Spells ['-', '4'] (-4) :=
    @DatePart.Spells.minus [] ['4'] (by decide) (by decide)
  have hspells {day : Nat} {number : List Char} (hday : DatePart.day.Spells number day) :
      Date.dottedDate.Spells (DatePart.value (-4) 2 day) (String.ofList (number ++ ". 2.-4".toList)) := by
    have hrest : DatePattern.SpellsRest (DatePart.value (-4) 2 day) Date.dottedDate.rest
        (['.'] ++ ([' ', '2'] ++ (['.'] ++ (['-', '4'] ++ [])))) :=
      .cons hmonth (.cons hyear .nil)
    exact ⟨number, _, String.toList_ofList, hday, hrest⟩
  have hlast : DatePart.day.Spells ['2', '9'] 29 :=
    @DatePart.Spells.unsigned .day [] ['2', '9'] (by decide) (by decide) (by decide)
  have hnext : DatePart.day.Spells ['3', '0'] 30 :=
    @DatePart.Spells.unsigned .day [] ['3', '0'] (by decide) (by decide) (by decide)
  have hstrict : Date.readStrict? "29.02.-0004" "%d.%m.%Y" = some ⟨-4, 2, 29, by decide⟩ := by
    decide +kernel
  obtain ⟨hagree, hpattern⟩ := readers_agree
  have hspelled := hpattern Date.dottedDate (by decide)
  rw [show Date.dottedDate.text = "%d.%m.%Y" by decide] at hspelled
  have hlastText : String.ofList (['2', '9'] ++ ". 2.-4".toList) = "29. 2.-4" := by decide
  have hnextText : String.ofList (['3', '0'] ++ ". 2.-4".toList) = "30. 2.-4" := by decide
  exact ⟨((hagree _ _ _).mp hstrict).1, ((hspelled _).1 _).mpr ⟨rfl, hlastText ▸ hspells hlast⟩,
    (hspelled _).2 _ _ _ (hnextText ▸ hspells hnext) (by decide)⟩

end DateTime
end RequestQuery
