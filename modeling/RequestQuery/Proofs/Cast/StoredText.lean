import RequestQuery.Cast.Codec
import RequestQuery.Proofs.Calendar.Recovery

/-! # Stored texts are read back

A table stores a date as its year, month and day, and a date and time with hour,
minute and second behind it.  Such a text is no number of seconds, whatever the
year, since it has a dash in it, and the format in which it was written reads it
back (`CastKind.ofText?_storedText`).  So a cast that parses what is entered
shows what it stored, up to the time of a date and the fraction of a second
(`TextCast.get_of_set`).

The second that is stored is the one that a clock shows.  This is the second of the
time as long as a leap second is the last of its minute.  What is read from a text or
made of seconds has no other (`DateInput.isRegular_of_toDateTime?`), but a date and
time that is entered as such may have one, and is stored as the second after it.
-/
namespace RequestQuery

namespace DateInput

/-- What is empty is no date. -/
theorem toDateTime?_of_isEmpty {x : DateInput} (h : x.isEmpty = true) (format : String) :
    x.toDateTime? format = none := by
  cases x with
  | text s => exact if_pos h
  | timestamp seconds => cases h
  | dateTime dt => cases h

/-- A text that has another character than digits is read by its format, or else in a usual form. -/
theorem ofText?_of_not_isDigit {s : String} {c : Char} (hmem : c ∈ s.toList) (hc : c.isDigit = false)
    (format : String) :
    ofText? s format = (DateTime.readLenient? s format).or (DateTime.readIso? s) := by
  have hall : s.toList.all Char.isDigit = false := by
    rw [List.all_eq_false]
    exact ⟨c, hmem, by rw [hc]; decide⟩
  have hne : s.isEmpty = false := by
    rw [← Bool.not_eq_true, String.isEmpty_iff, ← String.toList_eq_nil_iff]
    exact List.ne_nil_of_mem hmem
  rw [ofText?, hne, if_neg Bool.false_ne_true, epochSecond?, hall]
  rfl

/-- A leap second out of place is in no text, and in no number of seconds. -/
theorem isRegular_of_toDateTime? {x : DateInput} {format : String} {dt : DateTime}
    (h : x.toDateTime? format = some dt) (hne : x ≠ .dateTime dt) : dt.time.isRegular = true := by
  cases x with
  | text s =>
    obtain ⟨-, h⟩ := Option.ite_none_left_eq_some.mp h
    split at h
    · exact DateTime.isRegular_of_ofEpochSecond? h
    · rcases Option.or_eq_some_iff.mp h with h | ⟨-, h⟩
      · exact DateTime.isRegular_of_readLenient? h
      · exact DateTime.isRegular_of_readIso? h
  | timestamp seconds => exact DateTime.isRegular_of_ofEpochSecond? h
  | dateTime entered =>
    cases h
    exact absurd rfl hne

end DateInput

namespace CastKind

/-! ## What is stored -/

/-- What a table keeps of a date and time: the date, and of its time the whole second that is shown. -/
def kept : CastKind → DateTime → DateTime
  | date, dt => .atMidnight dt.date
  | dateTime, dt => ⟨dt.date, dt.time.shownTime⟩

/-- A date and time cut to midnight or to its whole second. -/
def cut : CastKind → DateTime → DateTime
  | date, dt => .atMidnight dt.date
  | dateTime, dt => ⟨dt.date, dt.time.wholeSecond⟩

/-- Nothing else is lost, unless a leap second is out of place. -/
theorem kept_eq_cut_iff (kind : CastKind) (dt : DateTime) :
    kind.kept dt = kind.cut dt ↔ (kind = .dateTime → dt.time.isRegular = true) := by
  cases kind with
  | date => simp [kept, cut]
  | dateTime => simp [kept, cut, TimeOfDay.shownTime_eq_wholeSecond_iff]

/-- The text that a table stores. -/
def storedChars : CastKind → DateTime → List Char
  | date, dt => dt.date.chars
  | dateTime, dt =>
    dt.date.chars ++ ' ' :: (Date.twoDigits dt.time.hour ++ ':' :: (Date.twoDigits dt.time.minute ++
      ':' :: Date.twoDigits dt.time.shownSecond))

/-- `storedChars` as a text. -/
def storedText (kind : CastKind) (dt : DateTime) : String :=
  String.ofList (kind.storedChars dt)

open Pattern in
/-- The elements of the stock storage format. -/
def storageItems : CastKind → Pattern
  | date => [zeroed .year, mark '-', zeroed .month, mark '-', zeroed .day]
  | dateTime =>
    [zeroed .year, mark '-', zeroed .month, mark '-', zeroed .day, .gap [' '], zeroed .hour, mark ':',
      zeroed .minute, mark ':', zeroed .second]

/-- The fields of a stored text. -/
def storedFields : CastKind → DateTime → DateFields
  | date, dt => .ofDate dt.date
  | dateTime, dt =>
    { DateFields.ofDate dt.date with
      half := some ((dt.time.hour / 12 : Nat) : Int)
      halfDayHour := some ((dt.time.hour % 12 : Nat) : Int)
      minute := some (dt.time.minute : Int)
      second := some (dt.time.shownSecond : Int) }

theorem read?_stockStorageFormat (kind : CastKind) :
    Pattern.read? kind.stockStorageFormat.toList = some kind.storageItems := by
  cases kind
  all_goals decide +kernel

end CastKind

namespace Pattern

variable {dt : DateTime} {rest text : List Char} {items : Pattern} {g : DateFields}

/-- A date is recovered from the beginning of a stored text. -/
theorem recovers_date (more : Recovers dt rest items text (.ofDate dt.date) g) :
    Recovers dt rest (zeroed .year :: mark '-' :: zeroed .month :: mark '-' :: zeroed .day :: items)
      (dt.date.chars ++ text) {} g := by
  obtain ⟨hyear, hmonth, hday⟩ := bounds_of_isDate dt.date.exists_day
  have hchars : dt.date.chars ++ text = Date.yearDigits dt.date.year ++ (['-'] ++
      (Date.twoDigits dt.date.month ++ (['-'] ++ (Date.twoDigits dt.date.day ++ text)))) := by
    simp [Date.chars]
  rw [hchars]
  refine .year ?_ (DateFields.bind_within (by omega) _) (.literal ['-'] ?_)
  · -- a year with a sign takes all digits that follow, so that the dash has to end it
    intro c hc
    cases hc
    rfl
  refine .bounded rfl rfl rfl (by omega) (by omega) rfl (.literal ['-'] ?_)
  exact .bounded rfl rfl rfl (by omega) (by omega) rfl more

/-- A stored text is recovered whole. -/
theorem recovers_stored (kind : CastKind) (dt : DateTime) :
    Recovers dt [] kind.storageItems (kind.storedChars dt) {} (kind.storedFields dt) := by
  obtain ⟨hhour, hminute, -⟩ := dt.time.bounds
  have hsecond := dt.time.shownSecond_le
  cases kind with
  | date =>
    have hdone : Recovers dt [] [] [] (.ofDate dt.date) (.ofDate dt.date) := .done _
    have h := recovers_date hdone
    rwa [List.append_nil] at h
  | dateTime =>
    refine recovers_date (.gap [' '] isBlank_of_mem_space ?_ ?_)
    · rw [List.append_nil]
      exact endsRun_isBlank_twoDigits _ _
    refine .bounded rfl rfl rfl (by omega) (by omega) rfl (.literal [':'] ?_)
    refine .bounded rfl rfl rfl (by omega) (by omega) rfl (.literal [':'] ?_)
    exact .bounded_last rfl rfl rfl (by omega) (by omega) rfl

end Pattern

namespace CastKind

variable (kind : CastKind) (dt : DateTime)

/-- The stock storage format writes the stored text. -/
theorem format?_stockStorageFormat : dt.format? kind.stockStorageFormat = some (kind.storedText dt) :=
  Pattern.format?_of_recovers kind.read?_stockStorageFormat (Pattern.recovers_stored kind dt)

theorem readLenient?_storedText :
    DateTime.readLenient? (kind.storedText dt) kind.stockStorageFormat = some (kind.kept dt) := by
  have hfields : Pattern.fields? kind.stockStorageFormat (kind.storedText dt).toList =
      some (kind.storedFields dt) := by
    rw [storedText, String.toList_ofList]
    exact Pattern.fields?_of_recovers kind.read?_stockStorageFormat (Pattern.recovers_stored kind dt)
  have hdate : (kind.storedFields dt).date = .ok dt.date := by
    cases kind
    all_goals
      exact DateFields.date_of_fields ⟨rfl, rfl, rfl, rfl, rfl, rfl, rfl, rfl⟩ rfl
        (DateFields.matchesYear_self dt.date.year) rfl rfl
  cases kind with
  | date => exact DateTime.readLenient?_of_date hfields hdate rfl rfl
  | dateTime =>
    exact DateTime.readLenient?_of_dateTime hfields hdate
      (DateFields.time_of_fields rfl rfl rfl rfl rfl) rfl

theorem dash_mem_storedText : '-' ∈ (kind.storedText dt).toList := by
  have hdate : '-' ∈ dt.date.chars := by simp [Date.chars]
  rw [storedText, String.toList_ofList]
  cases kind with
  | date => exact hdate
  | dateTime => exact List.mem_append_left _ hdate

/-- **A stored text is read back**, in whatever year. -/
theorem ofText?_storedText :
    DateInput.ofText? (kind.storedText dt) kind.stockStorageFormat = some (kind.kept dt) := by
  rw [DateInput.ofText?_of_not_isDigit (kind.dash_mem_storedText dt) (by decide),
    kind.readLenient?_storedText dt, Option.some_or]

end CastKind

/-- Formats by which a table stores what is entered: it is parsed, stored in the stock format of its kind
and read in that format.  How a date is shown and entered is left open. -/
structure CastFormats.StoresParsed (f : CastFormats) : Prop where
  parses : f.parsesOnSet = true
  storage : f.storageFormat = f.kind.stockStorageFormat
  origin : f.originFormat = f.kind.stockStorageFormat

namespace TextCast

/-- Settings that leave the storage format of a kind as it is, and options that parse and name no origin
format, give such formats. -/
theorem storesParsed_ofSettings {casts : CastSettings} {kind : CastKind} {options : CastOptions}
    (hparses : options.parsesOnSet.getD (kind.settings casts).parsesOnSet = true)
    (hstorage : (usableFormat? (some (kind.settings casts).storageFormat)).getD kind.stockStorageFormat =
      kind.stockStorageFormat)
    (horigin : usableFormat? options.originFormat = none) :
    (ofSettings casts kind options).formats.StoresParsed where
  parses := hparses
  storage := hstorage
  origin := by
    show (usableFormat? options.originFormat).getD _ = _
    rw [horigin]
    exact hstorage

/-- So do the stock settings. -/
theorem storesParsed_of_parses (kind : CastKind) {options : CastOptions}
    (hparses : options.parsesOnSet = some true) (horigin : options.originFormat = none) :
    (ofSettings {} kind options).formats.StoresParsed := by
  refine storesParsed_ofSettings ?_ ?_ ?_
  · rw [hparses]
    rfl
  · cases kind
    all_goals decide
  · rw [horigin]
    rfl

variable {c : TextCast}

/-- A table that parses what is entered stores its date in the format of the database. -/
theorem set_of_parses (hparses : c.formats.parsesOnSet = true) (x : DateInput) :
    c.set x = (x.toDateTime? c.formats.setFormat).bind fun dt => dt.format? c.formats.storageFormat := by
  rw [set.eq_def, if_pos hparses]
  split
  · next hempty => rw [DateInput.toDateTime?_of_isEmpty hempty, Option.bind_none]
  · rfl

/-- What is stored is the text of the date that was entered. -/
theorem set_eq (hc : c.formats.StoresParsed) (x : DateInput) :
    c.set x = (x.toDateTime? c.formats.setFormat).map c.formats.kind.storedText := by
  rw [set_of_parses hc.parses, hc.storage, Option.map_eq_bind]
  simp only [CastKind.format?_stockStorageFormat]
  rfl

theorem get_of_ofText? {stored : String} {dt : DateTime}
    (h : DateInput.ofText? stored c.formats.originFormat = some dt) :
    c.get stored = dt.format? c.formats.getFormat := by
  rw [get, h, Option.bind_eq_bind, Option.bind_some]

/-- What is shown of a stored text is what it keeps of the date. -/
theorem get_storedText (hc : c.formats.StoresParsed) (dt : DateTime) :
    c.get (c.formats.kind.storedText dt) = (c.formats.kind.kept dt).format? c.formats.getFormat :=
  get_of_ofText? (hc.origin ▸ CastKind.ofText?_storedText _ dt)

/-- **What is stored is read back.**  A cast that parses what is entered reads a text that it stored as
the date that was entered, at midnight for a date and in the whole second that a clock shows for a date and
time, and shows that date.  This is the date that was entered, cut to midnight or to its whole second, unless
a leap second is out of place; and that is so only in a date and time that is entered as such. -/
theorem get_of_set (hc : c.formats.StoresParsed) {x : DateInput} {s : String} (hset : c.set x = some s) :
    ∃ dt, x.toDateTime? c.formats.setFormat = some dt ∧
      DateInput.ofText? s c.formats.originFormat = some (c.formats.kind.kept dt) ∧
      c.get s = (c.formats.kind.kept dt).format? c.formats.getFormat ∧
      (c.formats.kind.kept dt = c.formats.kind.cut dt ↔
        (c.formats.kind = .dateTime → dt.time.isRegular = true)) ∧
      (x ≠ .dateTime dt → dt.time.isRegular = true) := by
  rw [set_eq hc, Option.map_eq_some_iff] at hset
  obtain ⟨dt, hread, rfl⟩ := hset
  exact ⟨dt, hread, hc.origin ▸ CastKind.ofText?_storedText _ dt, get_storedText hc dt,
    CastKind.kept_eq_cut_iff _ dt, DateInput.isRegular_of_toDateTime? hread⟩

/-- A leap second half a minute past midnight is stored as the second after it, which is shown as one second
more since the epoch than the time has, with its leap second or without.  The leap second at the end of a day
is shown as one, and not as the second that is left without it. -/
theorem get_of_set_misplaced_leap_second :
    let c := ofSettings {} .dateTime { parsesOnSet := some true, getFormat := some "%s" }
    let dt : DateTime := ⟨⟨2026, 2, 12, by decide⟩, ⟨0, 0, 30, 1500000000, by decide⟩⟩
    let c' := ofSettings {} .dateTime { parsesOnSet := some true, getFormat := some "%H:%M:%S" }
    let dt' : DateTime := ⟨⟨2016, 12, 31, by decide⟩, ⟨23, 59, 59, 1500000000, by decide⟩⟩
    (c.formats.StoresParsed ∧ c.set (.dateTime dt) = some "2026-02-12 00:00:31" ∧
      c.get "2026-02-12 00:00:31" = some "1770854431" ∧
      (CastKind.dateTime.cut dt).format? "%s" = some "1770854430" ∧
      DateTime.format? ⟨dt.date, ⟨0, 0, 30, 0, by decide⟩⟩ "%s" = some "1770854430") ∧
    c'.formats.StoresParsed ∧ c'.set (.dateTime dt') = some "2016-12-31 23:59:60" ∧
      c'.get "2016-12-31 23:59:60" = some "23:59:60" ∧
      DateTime.format? ⟨dt'.date, ⟨23, 59, 59, 0, by decide⟩⟩ "%H:%M:%S" = some "23:59:59" := by
  refine ⟨⟨storesParsed_of_parses .dateTime rfl rfl, ?_, ?_, ?_, ?_⟩,
    storesParsed_of_parses .dateTime rfl rfl, ?_, ?_, ?_⟩
  all_goals decide +kernel

/-- A leap second of a year before the first is entered in a usual form where a date is asked for, and is
shown without its fraction. -/
theorem get_of_set_leap_second :
    let c := ofSettings {} .dateTime
      { parsesOnSet := some true, getFormat := some "%d.%m.%Y %H:%M:%S", setFormat := some "%d.%m.%Y" }
    c.set (.text "-0044-03-15T23:59:60.5") = some "-0044-03-15 23:59:60" ∧
    c.get "-0044-03-15 23:59:60" = some "15.03.-0044 23:59:60" := by
  intro c
  have hset : c.set (.text "-0044-03-15T23:59:60.5") = some "-0044-03-15 23:59:60" := by
    decide +kernel
  obtain ⟨dt, hread, -, hget, -⟩ := get_of_set (storesParsed_of_parses .dateTime rfl rfl) hset
  have hentered : (DateInput.text "-0044-03-15T23:59:60.5").toDateTime? c.formats.setFormat =
      some ⟨⟨-44, 3, 15, by decide⟩, ⟨23, 59, 59, 1500000000, by decide⟩⟩ := by
    decide +kernel
  cases hentered.symm.trans hread
  refine ⟨hset, hget.trans ?_⟩
  decide +kernel

end TextCast
end RequestQuery
