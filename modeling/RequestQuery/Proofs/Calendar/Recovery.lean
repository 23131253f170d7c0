import RequestQuery.Proofs.Calendar.DatePattern
import RequestQuery.Proofs.Calendar.LeapSecond

/-! # Patterns that are read back

Reading by a pattern undoes writing by it, element by element: `Pattern.Recovers`
says which text the elements write for a date and time, and what reading that
text sets the fields to.  A number ends where its places are full; only a year
with a sign, and a run of blanks, need to know what follows them.

The date and the time of day are then put together from the fields
(`DateFields.date_of_fields`, `DateFields.time_of_fields`).  A time that is written
with its second is read as the whole second that a clock shows.
-/
namespace RequestQuery

namespace DateFields

/-! ## The fields of a date and time -/

/-- A value between its bounds is set. -/
theorem bind_within {α : Type} {low high value : Int} (h : low ≤ value ∧ value ≤ high)
    (set : Int → Except DateFault α) : (within low high value >>= set) = set value := by
  rw [within, if_pos h]
  rfl

/-- The fields of a date that is written with its full year. -/
def ofDate (d : Date) : DateFields where
  year := some d.year
  month := some (d.month : Int)
  day := some (d.day : Int)

variable {f : DateFields}

theorem matchesField_self (value : Int) : matchesField (some value) value = true :=
  beq_self_eq_true value

/-- A full year is enough. -/
theorem matchesYear_self (year : Int) : matchesYear (some year) none none year = true := by
  simp [matchesYear, matchesField]

/-- Fields that tell nothing of a date but its year, its month and its day. -/
structure Plain (f : DateFields) : Prop where
  isoYear : f.isoYear = none
  isoYearOfCentury : f.isoYearOfCentury = none
  quarter : f.quarter = none
  ordinal : f.ordinal = none
  weekFromSunday : f.weekFromSunday = none
  weekFromMonday : f.weekFromMonday = none
  isoWeek : f.isoWeek = none
  weekday : f.weekday = none

theorem Plain.agrees_iff (h : f.Plain) {d : Date} :
    f.agrees d = true ↔ matchesYear f.year f.century f.yearOfCentury d.year = true ∧
      matchesField f.month d.month = true ∧ matchesField f.day d.day = true := by
  have hiso : matchesYear none none none d.isoWeekDate.1 = true := by simp [matchesYear, matchesField]
  have hfree (value : Int) : matchesField none value = true := beq_self_eq_true value
  simp only [agrees, h.isoYear, h.isoYearOfCentury, h.quarter, h.ordinal, h.weekFromSunday,
    h.weekFromMonday, h.isoWeek, h.weekday, hiso, hfree, Bool.and_true, Bool.and_eq_true, and_assoc]

/-- Such fields with a year are a date exactly if there is that day. -/
theorem Plain.date_eq (h : f.Plain) {year month day : Int} (hfull : f.fullYear = .ok (some year))
    (hmonth : f.month = some month) (hday : f.day = some day) :
    f.date = (existing (Date.of? year month.toNat day.toNat)).bind fun d =>
      if f.agrees d then .ok d else .error .impossible := by
  have hmonthly : f.byMonth? year = some (existing (Date.of? year month.toNat day.toNat)) := by
    rw [byMonth?, hmonth, hday]
    rfl
  rw [date, hfull, fullIsoYear_of_none h.isoYear h.isoYearOfCentury]
  show (f.found (some year) none).bind _ = _
  rw [found, Option.bind_some, hmonthly]
  rfl

/-- The fields of a date, the year in whatever form, make that date. -/
theorem date_of_fields {d : Date} (hplain : f.Plain) (hfull : f.fullYear = .ok (some d.year))
    (hyear : matchesYear f.year f.century f.yearOfCentury d.year = true)
    (hmonth : f.month = some (d.month : Int)) (hday : f.day = some (d.day : Int)) :
    f.date = .ok d := by
  have hagrees : f.agrees d = true := by
    rw [hplain.agrees_iff, hmonth, hday]
    exact ⟨hyear, matchesField_self _, matchesField_self _⟩
  rw [hplain.date_eq hfull hmonth hday, Int.toNat_natCast, Int.toNat_natCast, Date.of?_self]
  exact if_pos hagrees

/-- The fields of a time of day, as a clock shows it, make the whole second that it shows. -/
theorem time_of_fields {t : TimeOfDay} (hhalf : f.half = some ((t.hour / 12 : Nat) : Int))
    (hhour : f.halfDayHour = some ((t.hour % 12 : Nat) : Int)) (hminute : f.minute = some (t.minute : Int))
    (hsecond : f.second.getD 0 = (t.shownSecond : Int)) (hnanosecond : f.nanosecond = none) :
    f.time = .ok t.shownTime := by
  have hclock : (((t.hour / 12 : Nat) : Int) * 12 + ((t.hour % 12 : Nat) : Int)).toNat = t.hour := by omega
  rw [time, hhalf, hhour, hminute, hnanosecond, hsecond, secondParts_shownSecond]
  simp only [hclock, Int.toNat_natCast, Option.isSome_none, Bool.false_eq_true, false_and, if_false,
    Option.getD_none, Int.toNat_zero, Nat.add_zero]
  rw [show TimeOfDay.of? t.hour t.minute t.shownTime.second t.shownTime.nanosecond = some t.shownTime from
    TimeOfDay.of?_self t.isRegular_shownTime]
  rfl

/-- Fields from which no time of day is made: no hour is known, nor are seconds since the epoch. -/
structure Timeless (f : DateFields) : Prop where
  half : f.half = none
  epochSecond : f.epochSecond = none

theorem Timeless.time (h : f.Timeless) : f.time = .error .incomplete := by
  rw [DateFields.time, h.half]

theorem Timeless.dateTime (h : f.Timeless) : ∃ fault, f.dateTime = .error fault := by
  rw [DateFields.dateTime, h.time, h.epochSecond]
  cases f.date with
  | ok d => exact ⟨.incomplete, rfl⟩
  | error fault => exact ⟨fault, rfl⟩

theorem dateTime_of_fields {d : Date} {t : TimeOfDay} (hdate : f.date = .ok d) (htime : f.time = .ok t)
    (hepoch : f.epochSecond = none) : f.dateTime = .ok ⟨d, t⟩ := by
  simp only [dateTime, hdate, htime, hepoch]

end DateFields

namespace Pattern

/-! ## Elements that are read back -/

/-- For `dt` the elements write the text, and when they read it in front of `rest`, the fields that were
read before become those after it. -/
inductive Recovers (dt : DateTime) (rest : List Char) :
    Pattern → List Char → DateFields → DateFields → Prop
  | done (f : DateFields) : Recovers dt rest [] [] f f
  | literal (s : List Char) {items : Pattern} {text : List Char} {f g : DateFields}
      (more : Recovers dt rest items text f g) :
      Recovers dt rest (.literal s :: items) (s ++ text) f g
  | gap (s : List Char) {items : Pattern} {text : List Char} {f g : DateFields}
      (hblank : ∀ c ∈ s, Text.isBlank c = true) (hstop : Text.EndsRun Text.isBlank (text ++ rest))
      (more : Recovers dt rest items text f g) :
      Recovers dt rest (.gap s :: items) (s ++ text) f g
  | twoDigits {field : NumericField} {n : Nat} {items : Pattern} {text : List Char} {f f' g : DateFields}
      (hwrite : writeNumber? (some dt.date) (some dt.time) field .zero = some (Date.twoDigits n))
      (hplaces : placesOf field = some 2) (hsmall : n < 100) (hset : setNumeric field n f = .ok f')
      (more : Recovers dt rest items text f' g) :
      Recovers dt rest (zeroed field :: items) (Date.twoDigits n ++ text) f g
  | year {items : Pattern} {text : List Char} {f f' g : DateFields}
      (hstop : Text.EndsRun Char.isDigit (text ++ rest)) (hset : f.setYear dt.date.year = .ok f')
      (more : Recovers dt rest items text f' g) :
      Recovers dt rest (zeroed .year :: items) (Date.yearDigits dt.date.year ++ text) f g
  | half {items : Pattern} {text : List Char} {f f' g : DateFields}
      (hset : f.setHalf (decide (12 ≤ dt.time.hour)) = .ok f')
      (more : Recovers dt rest items text f' g) :
      Recovers dt rest (.fixed .upperHalfDay :: items)
        ((if dt.time.hour < 12 then ['A', 'M'] else ['P', 'M']) ++ text) f g

/-! ## Reading one element -/

/-- A step of reading that succeeds. -/
theorem scan?_step {item : PatternItem} {s s' : List Char} {f f' : DateFields}
    (h : scanItem? item s f = some (f', s')) (items : Pattern) :
    scan? (item :: items) s f = scan? items s' f' := by
  have hread : scanItem? item s f = (some f').map (·, s') := h
  exact scan?_cons hread items

variable {f f' : DateFields} {rest : List Char}

theorem scanItem?_gap {s : List Char} (hblank : ∀ c ∈ s, Text.isBlank c = true)
    (hstop : Text.EndsRun Text.isBlank rest) (text : List Char) (f : DateFields) :
    scanItem? (.gap text) (s ++ rest) f = some (f, rest) := by
  rw [scanItem?, Text.trimStart, List.dropWhile_append_of_pos hblank, hstop.dropWhile]

theorem scanItem?_numeric {field : NumericField} {value : Int} {s : List Char}
    (hscan : scanField? field s = some (value, rest)) (hset : setNumeric field value f = .ok f') :
    scanItem? (zeroed field) s f = some (f', rest) := by
  simp only [zeroed, scanItem?, scanNumeric?, hscan, hset, Option.bind_eq_bind, Option.bind_some,
    Except.toOption]
  rfl

theorem scanItem?_half {hour : Nat} (hset : f.setHalf (decide (12 ≤ hour)) = .ok f') (rest : List Char) :
    scanItem? (.fixed .upperHalfDay) ((if hour < 12 then ['A', 'M'] else ['P', 'M']) ++ rest) f =
      some (f', rest) := by
  have hscan : scanHalf? ((if hour < 12 then ['A', 'M'] else ['P', 'M']) ++ rest) =
      some (decide (12 ≤ hour), rest) := by
    split
    · next h => rw [decide_eq_false (Nat.not_le.mpr h)]; rfl
    · next h => rw [decide_eq_true (Nat.not_lt.mp h)]; rfl
  simp only [scanItem?, scanFixed?, hscan, hset, Option.bind_eq_bind, Option.bind_some, Except.toOption]
  rfl

/-! ## Blanks and what follows them -/

theorem isBlank_of_mem_space : ∀ c ∈ [' '], Text.isBlank c = true :=
  List.forall_mem_singleton.mpr rfl

theorem endsRun_isBlank_twoDigits (n : Nat) (rest : List Char) :
    Text.EndsRun Text.isBlank (Date.twoDigits n ++ rest) := by
  obtain ⟨c, more, hs⟩ := List.exists_cons_of_ne_nil (Text.padLeft_decimal_ne_nil 2 n)
  have hc : c.isDigit = true := Text.isDigit_of_mem_padLeft (hs ▸ List.mem_cons_self)
  intro c' hc'
  rw [Date.twoDigits, hs] at hc'
  cases hc'
  exact Text.isBlank_of_isDigit hc

theorem endsRun_isBlank_half (hour : Nat) (rest : List Char) :
    Text.EndsRun Text.isBlank ((if hour < 12 then ['A', 'M'] else ['P', 'M']) ++ rest) := by
  intro c hc
  split at hc
  all_goals
    cases hc
    rfl

namespace Recovers

variable {dt : DateTime} {rest text : List Char} {items : Pattern} {f g : DateFields}

/-- A number of two places that is between the bounds of its field. -/
theorem bounded {field : NumericField} {n : Nat} {low high : Int} {set : Int → Except DateFault DateFields}
    {f' : DateFields}
    (hwrite : writeNumber? (some dt.date) (some dt.time) field .zero = some (writeTwo .zero n))
    (hplaces : placesOf field = some 2) (hset : setNumeric field n f = (DateFields.within low high n >>= set))
    (hsmall : n < 100) (hbounds : low ≤ n ∧ n ≤ high) (hfields : set n = .ok f')
    (more : Recovers dt rest items text f' g) :
    Recovers dt rest (zeroed field :: items) (Date.twoDigits n ++ text) f g := by
  rw [writeTwo_zero hsmall] at hwrite
  refine .twoDigits hwrite hplaces hsmall ?_ more
  rw [hset, DateFields.bind_within hbounds, hfields]

/-- Such a number at the end of a pattern. -/
theorem bounded_last {field : NumericField} {n : Nat} {low high : Int}
    {set : Int → Except DateFault DateFields}
    (hwrite : writeNumber? (some dt.date) (some dt.time) field .zero = some (writeTwo .zero n))
    (hplaces : placesOf field = some 2) (hset : setNumeric field n f = (DateFields.within low high n >>= set))
    (hsmall : n < 100) (hbounds : low ≤ n ∧ n ≤ high) (hfields : set n = .ok g) :
    Recovers dt rest [zeroed field] (Date.twoDigits n) f g := by
  have h : Recovers dt rest [zeroed field] (Date.twoDigits n ++ []) f g :=
    bounded hwrite hplaces hset hsmall hbounds hfields (.done g)
  rwa [List.append_nil] at h

/-- The half of the day at the end of a pattern. -/
theorem half_last (hset : f.setHalf (decide (12 ≤ dt.time.hour)) = .ok g) :
    Recovers dt rest [.fixed .upperHalfDay] (if dt.time.hour < 12 then ['A', 'M'] else ['P', 'M']) f g := by
  have h : Recovers dt rest [.fixed .upperHalfDay]
      ((if dt.time.hour < 12 then ['A', 'M'] else ['P', 'M']) ++ []) f g :=
    .half hset (.done g)
  rwa [List.append_nil] at h

/-- The text is what the elements write. -/
theorem write? (h : Recovers dt rest items text f g) :
    Pattern.write? (some dt.date) (some dt.time) items = some text := by
  induction h with
  | done => rfl
  | literal s _ ih => exact write?_cons rfl ih
  | gap s _ _ _ ih => exact write?_cons rfl ih
  | twoDigits hwrite _ _ _ _ ih => exact write?_cons hwrite ih
  | year _ _ _ ih => exact write?_cons (congrArg some (writeYear_zero _)) ih
  | half _ _ ih => exact write?_cons rfl ih

/-- Reading the text sets the fields, and leaves what follows the text to the elements that follow. -/
theorem scan?_append (h : Recovers dt rest items text f g) (items' : Pattern) :
    scan? (items ++ items') (text ++ rest) f = scan? items' rest g := by
  induction h with
  | done => rfl
  | literal s _ ih =>
    rw [List.cons_append, List.append_assoc, scan?_step (scanItem?_literal s _ _), ih]
  | gap s hblank hstop _ ih =>
    rw [List.cons_append, List.append_assoc, scan?_step (scanItem?_gap hblank hstop s _), ih]
  | twoDigits _ hplaces hsmall hset _ ih =>
    rw [List.cons_append, List.append_assoc,
      scan?_step (scanItem?_numeric (scanField?_twoDigits hplaces hsmall _) hset), ih]
  | year hstop hset _ ih =>
    obtain ⟨hyear, -⟩ := bounds_of_isDate dt.date.exists_day
    have hscan := (scanField?_yearDigits dt.date.year hstop).trans (if_neg (by omega))
    rw [List.cons_append, List.append_assoc, scan?_step (scanItem?_numeric hscan hset), ih]
  | half hset _ ih =>
    rw [List.cons_append, List.append_assoc, scan?_step (scanItem?_half hset _), ih]

end Recovers

/-! ## Whole patterns -/

variable {dt : DateTime} {pattern : String} {items : Pattern} {text : List Char}

theorem format?_of_recovers (hread : read? pattern.toList = some items)
    (h : Recovers dt [] items text {} f) : dt.format? pattern = some (String.ofList text) := by
  rw [DateTime.format?, hread, Option.bind_eq_bind, Option.bind_some, h.write?]
  rfl

theorem fields?_of_recovers (hread : read? pattern.toList = some items)
    (h : Recovers dt [] items text {} f) : fields? pattern text = some f := by
  have hscan := h.scan?_append []
  rw [List.append_nil, List.append_nil] at hscan
  rw [fields?, hread, Option.bind_eq_bind, Option.bind_some, hscan]
  rfl

end Pattern

namespace DateTime

variable {s pattern : String} {f : DateFields}

/-- Fields of a date and a time are both read. -/
theorem readLenient?_of_dateTime {d : Date} {t : TimeOfDay}
    (hfields : Pattern.fields? pattern s.toList = some f) (hdate : f.date = .ok d) (htime : f.time = .ok t)
    (hepoch : f.epochSecond = none) : readLenient? s pattern = some ⟨d, t⟩ := by
  rw [readLenient?, hfields, Option.bind_eq_bind, Option.bind_some,
    DateFields.dateTime_of_fields hdate htime hepoch]

/-- Fields without a time of day are read as the midnight of their date. -/
theorem readLenient?_of_timeless (hfields : Pattern.fields? pattern s.toList = some f) (hf : f.Timeless) :
    readLenient? s pattern = f.dateOrFirst?.map atMidnight := by
  obtain ⟨fault, hfault⟩ := hf.dateTime
  rw [readLenient?, hfields, Option.bind_eq_bind, Option.bind_some, hfault, hf.time]
  exact Option.map_eq_bind.symm

/-- Fields of a date alone are read as its midnight. -/
theorem readLenient?_of_date {d : Date} (hfields : Pattern.fields? pattern s.toList = some f)
    (hdate : f.date = .ok d) (hhalf : f.half = none) (hepoch : f.epochSecond = none) :
    readLenient? s pattern = some (atMidnight d) := by
  rw [readLenient?_of_timeless hfields ⟨hhalf, hepoch⟩, DateFields.dateOrFirst?, hdate]
  rfl

end DateTime
end RequestQuery
