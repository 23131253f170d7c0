import RequestQuery.Proofs.Calendar.LenientDate
import RequestQuery.Proofs.Cast.Agreement

/-! # Attributes that are a month and its year

The options `CastOptions.monthYear` show a date by its month and its year and take them
back.  The text has no day and no time of day: entered again it is the midnight of the
first of the month (`Date.ofText?_monthText`), in whatever year.  So saving what is shown
takes a date to the first of its month, in tables and in documents, and what is shown
stays the same (`CastOptions.monthYear_projects`).
-/
namespace RequestQuery

/-- The pattern of a month and its year. -/
def DatePattern.monthAndYear : DatePattern :=
  ⟨.month, [(.ofChar '/' (by decide), .year)]⟩

namespace Date

/-! ## Months and their years -/

theorem isDate_firstOfMonth (d : Date) : isDate d.year d.month 1 = true := by
  have h := d.exists_day
  simp only [isDate, Bool.and_eq_true, decide_eq_true_eq] at h ⊢
  omega

/-- The first day of the month of a date. -/
def firstOfMonth (d : Date) : Date where
  year := d.year
  month := d.month
  day := 1
  exists_day := d.isDate_firstOfMonth

/-- The month of a date and its year. -/
def monthText (d : Date) : String :=
  DatePattern.monthAndYear.written d.year d.month d.day

/-- All days of a month have the text of its first day. -/
theorem monthText_firstOfMonth (d : Date) : d.firstOfMonth.monthText = d.monthText :=
  DatePattern.written_of_not_mem (by decide) d.day

/-- The pattern `%m/%Y` writes the month of a date and its year. -/
theorem format?_monthYear (d : Date) : d.format? "%m/%Y" = some d.monthText :=
  DatePattern.monthAndYear.format?_text d

theorem readLenient?_monthText (d : Date) :
    DateTime.readLenient? d.monthText "%m/%Y" = some (.atMidnight d.firstOfMonth) := by
  obtain ⟨-, ⟨-, hlast⟩, -⟩ := bounds_of_isDate d.exists_day
  have hmonth : d.month < 100 := by omega
  have hday : 1 < 100 := by decide
  have hspells := DatePattern.monthAndYear.spells_written d.year hmonth hday
  have hread := DateTime.readLenient?_of_spells (by decide) (by decide) (by decide) (fun _ => rfl) hspells
  rw [show Date.of? d.year d.month 1 = some d.firstOfMonth from d.firstOfMonth.of?_self] at hread
  rw [← monthText_firstOfMonth]
  exact hread

theorem slash_mem_monthText (d : Date) : '/' ∈ d.monthText.toList := by
  have htext : d.monthText.toList = Date.twoDigits d.month ++ '/' :: (Date.yearDigits d.year ++ []) :=
    String.toList_ofList
  rw [htext]
  exact List.mem_append_right _ List.mem_cons_self

/-- **A month and its year are the first day of the month**, at its midnight. -/
theorem ofText?_monthText (d : Date) :
    DateInput.ofText? d.monthText "%m/%Y" = some (.atMidnight d.firstOfMonth) := by
  rw [DateInput.ofText?_of_not_isDigit d.slash_mem_monthText (by decide), d.readLenient?_monthText,
    Option.some_or]

end Date

theorem DateTime.format?_monthYear (dt : DateTime) : dt.format? "%m/%Y" = some dt.date.monthText :=
  format?_of_date dt.date.format?_monthYear dt.time

theorem CastKind.date_kept (kind : CastKind) (dt : DateTime) : (kind.kept dt).date = dt.date := by
  cases kind <;> rfl

/-! ## Casts of months -/

namespace TextCast

/-- The cast of the stock settings of a month and its year. -/
def monthYear (kind : CastKind) : TextCast :=
  ofSettings {} kind .monthYear

theorem storesParsed_monthYear (kind : CastKind) : (monthYear kind).formats.StoresParsed :=
  storesParsed_of_parses kind rfl rfl

theorem get_monthYear (kind : CastKind) (dt : DateTime) :
    (monthYear kind).get (kind.storedText dt) = some dt.date.monthText := by
  have hget := get_storedText (storesParsed_monthYear kind) dt
  rw [show (monthYear kind).formats.getFormat = "%m/%Y" from rfl, DateTime.format?_monthYear,
    CastKind.date_kept] at hget
  exact hget

theorem set_monthYear (kind : CastKind) (d : Date) :
    (monthYear kind).set (.text d.monthText) = some (kind.storedText (.atMidnight d.firstOfMonth)) := by
  rw [set_eq (storesParsed_monthYear kind), show (monthYear kind).formats.setFormat = "%m/%Y" from rfl,
    DateInput.toDateTime?, Date.ofText?_monthText, Option.map_some]
  rfl

end TextCast

namespace DocumentCast

/-- The cast of the stock settings of a month and its year. -/
def monthYear (kind : CastKind) : DocumentCast :=
  ofSettings {} kind .monthYear

theorem get_monthYear (kind : CastKind) {dt : DateTime} (hleap : dt.time.isLeapSecond = false) :
    (monthYear kind).get (.instant (.ofDateTime dt)) = some dt.date.monthText := by
  rw [get_instant _ hleap, show (monthYear kind).formats.getFormat = "%m/%Y" from rfl]
  exact DateTime.format?_monthYear _

theorem set_monthYear (kind : CastKind) (d : Date) :
    (monthYear kind).set (.text d.monthText) =
      some (.instant (.ofDateTime (.atMidnight d.firstOfMonth))) := by
  rw [set_eq rfl, show (monthYear kind).formats.setFormat = "%m/%Y" from rfl, DateInput.toDateTime?,
    Date.ofText?_monthText, Option.map_some]

end DocumentCast

namespace CastOptions

/-- **A month and its year project to the first of the month.**  By the stock settings a table shows every
date and time that it stores by its month and its year.  When that is entered, the midnight of the first
of the month is stored, and shown by the same text.  A document does the same with instants, unless what
it stores is in a leap second. -/
theorem monthYear_projects (kind : CastKind) (dt : DateTime) :
    dt.format? "%m/%Y" = some dt.date.monthText ∧
    (∃ stored saved,
      dt.format? (TextCast.ofSettings {} kind monthYear).formats.storageFormat = some stored ∧
      (DateTime.atMidnight dt.date.firstOfMonth).format?
        (TextCast.ofSettings {} kind monthYear).formats.storageFormat = some saved ∧
      (TextCast.ofSettings {} kind monthYear).get stored = some dt.date.monthText ∧
      (TextCast.ofSettings {} kind monthYear).set (.text dt.date.monthText) = some saved ∧
      (TextCast.ofSettings {} kind monthYear).get saved = some dt.date.monthText) ∧
    (dt.time.isLeapSecond = false →
      (DocumentCast.ofSettings {} kind monthYear).get (.instant (.ofDateTime dt)) =
        some dt.date.monthText ∧
      (DocumentCast.ofSettings {} kind monthYear).set (.text dt.date.monthText) =
        some (.instant (.ofDateTime (.atMidnight dt.date.firstOfMonth))) ∧
      (DocumentCast.ofSettings {} kind monthYear).get
        (.instant (.ofDateTime (.atMidnight dt.date.firstOfMonth))) = some dt.date.monthText) := by
  have hfirst : (DateTime.atMidnight dt.date.firstOfMonth).date.monthText = dt.date.monthText :=
    dt.date.monthText_firstOfMonth
  have hstorage := (TextCast.storesParsed_monthYear kind).storage
  refine ⟨dt.format?_monthYear, ⟨kind.storedText dt, kind.storedText (.atMidnight dt.date.firstOfMonth), ?_⟩,
    fun hleap => ⟨DocumentCast.get_monthYear kind hleap, DocumentCast.set_monthYear kind dt.date, ?_⟩⟩
  · refine ⟨?_, ?_, TextCast.get_monthYear kind dt, TextCast.set_monthYear kind dt.date, ?_⟩
    · exact hstorage ▸ kind.format?_stockStorageFormat dt
    · exact hstorage ▸ kind.format?_stockStorageFormat _
    · exact hfirst ▸ TextCast.get_monthYear kind (.atMidnight dt.date.firstOfMonth)
  · have hmidnight : (DateTime.atMidnight dt.date.firstOfMonth).time.isLeapSecond = false := rfl
    exact hfirst ▸ DocumentCast.get_monthYear kind hmidnight

/-- The last second of a leap day of a negative year is stored again as the beginning of its month. -/
theorem monthYear_projects_leap_day :
    let night : DateTime := ⟨⟨-4, 2, 29, by decide⟩, ⟨23, 59, 59, 999999999, by decide⟩⟩
    let first : DateTime := .atMidnight ⟨-4, 2, 1, by decide⟩
    (TextCast.ofSettings {} .dateTime monthYear).get "-0004-02-29 23:59:59" = some "02/-0004" ∧
    (TextCast.ofSettings {} .dateTime monthYear).set (.text "02/-0004") = some "-0004-02-01 00:00:00" ∧
    (TextCast.ofSettings {} .dateTime monthYear).get "-0004-02-01 00:00:00" = some "02/-0004" ∧
    (DocumentCast.ofSettings {} .date monthYear).get (.instant (.ofDateTime night)) = some "02/-0004" ∧
    (DocumentCast.ofSettings {} .date monthYear).set (.text "02/-0004") =
      some (.instant (.ofDateTime first)) := by
  intro night first
  have hmonth : night.date.monthText = "02/-0004" := by decide +kernel
  obtain ⟨-, ⟨stored, saved, hstored, hsaved, hget, hset, hagain⟩, -⟩ := monthYear_projects .dateTime night
  obtain ⟨-, -, hdocument⟩ := monthYear_projects .date night
  obtain ⟨hshown, hheld, -⟩ := hdocument rfl
  have hstored' : night.format? (TextCast.ofSettings {} .dateTime monthYear).formats.storageFormat =
      some "-0004-02-29 23:59:59" := by
    decide +kernel
  have hsaved' : first.format? (TextCast.ofSettings {} .dateTime monthYear).formats.storageFormat =
      some "-0004-02-01 00:00:00" := by
    decide +kernel
  cases hstored'.symm.trans hstored
  cases hsaved'.symm.trans hsaved
  rw [hmonth] at hget hset hagain hshown hheld
  exact ⟨hget, hset, hagain, hshown, hheld⟩

end CastOptions
end RequestQuery
