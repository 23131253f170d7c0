import RequestQuery.Proofs.Calendar.DayNumber
import RequestQuery.Proofs.Calendar.YearFirst
import RequestQuery.Proofs.Cast.ShownText

/-! # Attributes shown as a date

The options `CastOptions.dateOnly` show a date and time without the time and say
that what is entered is parsed, but leave the format in which it is entered.  Of
a date that is the format in which it is shown.  Of a date and time it asks for a
time, and so the shown text is refused, whatever is stored
(`CastOptions.dateOnly_acceptsShown_iff`).
-/
namespace RequestQuery

/-- What a cast shows can be entered, and is shown again then. -/
def AcceptsShown {Stored : Type} (get : Stored → Option String) (set : DateInput → Option Stored) : Prop :=
  ∀ stored shown, get stored = some shown →
    ∃ saved, set (.text shown) = some saved ∧ get saved = some shown

theorem not_acceptsShown {Stored : Type} {get : Stored → Option String} {set : DateInput → Option Stored}
    {stored : Stored} {shown : String} (hshown : get stored = some shown)
    (hrefused : set (.text shown) = none) : ¬ AcceptsShown get set := by
  intro haccepts
  obtain ⟨saved, hsaved, -⟩ := haccepts stored shown hshown
  rw [hrefused] at hsaved
  cases hsaved

namespace CastKind

/-! ## Dates that are entered for a date and time -/

/-- A shown date is no date and time: nothing is left for the hour. -/
theorem readLenient?_shownText_date (dt : DateTime) :
    DateTime.readLenient? (date.shownText dt) dateTime.stockShownFormat = none := by
  have hdate := Pattern.recovers_shown date dt
  have hscan := hdate.scan?_append (dateTime.shownItems.drop 5)
  rw [List.append_nil] at hscan
  have hfields : Pattern.fields? dateTime.stockShownFormat (date.shownText dt).toList = none := by
    rw [Pattern.fields?, read?_stockShownFormat, shownText, String.toList_ofList]
    exact hscan
  rw [DateTime.readLenient?, hfields]
  rfl

theorem not_dash_mem_shownText_date (dt : DateTime) : '-' ∉ (date.shownText dt).toList := by
  have hdigits {n : Nat} : '-' ∉ Date.twoDigits n := fun h =>
    absurd (Text.isDigit_of_mem_padLeft h) (by decide)
  simp [shownText, shownChars, Date.shortChars, hdigits]

/-- A shown date is refused for a date and time. -/
theorem ofText?_shownText_date (dt : DateTime) :
    DateInput.ofText? (date.shownText dt) dateTime.stockShownFormat = none := by
  have hdash := mt List.mem_of_mem_tail (not_dash_mem_shownText_date dt)
  rw [DateInput.ofText?_of_not_isDigit (date.slash_mem_shownText dt) (by decide),
    readLenient?_shownText_date, DateTime.readIso?_eq_none hdash]
  rfl

@[simp] theorem shownText_date_kept (kind : CastKind) (dt : DateTime) :
    date.shownText (kind.kept dt) = date.shownText dt := by
  cases kind <;> rfl

/-- What is shown is the text of some date. -/
theorem exists_of_format? {kind : CastKind} {read : Option DateTime} {format shown : String}
    (hformat : format = kind.stockShownFormat) (h : (read.bind fun dt => dt.format? format) = some shown) :
    ∃ dt, shown = kind.shownText dt := by
  obtain ⟨dt, -, hshown⟩ := Option.bind_eq_some_iff.mp h
  rw [hformat, format?_stockShownFormat, Option.some.injEq] at hshown
  exact ⟨dt, hshown.symm⟩

end CastKind

/-! ## Casts that show a date -/

namespace TextCast

variable {c : TextCast}

/-- A cast that shows a date and takes one accepts what it shows. -/
theorem acceptsShown_of_setFormat (hc : c.formats.StoresParsed)
    (hget : c.formats.getFormat = CastKind.date.stockShownFormat)
    (hset : c.formats.setFormat = CastKind.date.stockShownFormat) :
    AcceptsShown c.get c.set := by
  intro stored shown hshown
  obtain ⟨dt, rfl⟩ := CastKind.exists_of_format? hget hshown
  refine ⟨c.formats.kind.storedText (CastKind.date.reentered dt), ?_, ?_⟩
  · rw [set_eq hc, hset, DateInput.toDateTime?, CastKind.ofText?_shownText, Option.map_some]
  · rw [get_storedText hc, hget, CastKind.format?_stockShownFormat, CastKind.shownText_date_kept,
      CastKind.shownText_reentered]

/-- A cast that shows a date and takes a date and time refuses what it shows. -/
theorem set_of_get (hc : c.formats.StoresParsed)
    (hget : c.formats.getFormat = CastKind.date.stockShownFormat)
    (hset : c.formats.setFormat = CastKind.dateTime.stockShownFormat)
    {stored shown : String} (hshown : c.get stored = some shown) : c.set (.text shown) = none := by
  obtain ⟨dt, rfl⟩ := CastKind.exists_of_format? hget hshown
  rw [set_eq hc, hset, DateInput.toDateTime?, CastKind.ofText?_shownText_date, Option.map_none]

end TextCast

namespace DocumentCast

variable {c : DocumentCast}

theorem get_of_read? {stored : StoredDate} {dt : DateTime} (h : c.read? stored = some dt) :
    c.get stored = dt.format? c.formats.getFormat := by
  rw [get, h, Option.bind_eq_bind, Option.bind_some]

theorem set_eq (hparses : c.formats.parsesOnSet = true) (x : DateInput) :
    c.set x = (x.toDateTime? c.formats.setFormat).map fun dt => .instant (.ofDateTime dt) := by
  rw [set.eq_def, if_pos hparses]
  split
  · next hempty => rw [DateInput.toDateTime?_of_isEmpty hempty, Option.map_none]
  · rfl

/-- The instant of a midnight is that midnight. -/
theorem toDateTime?_atMidnight (d : Date) :
    (Instant.ofDateTime (.atMidnight d)).toDateTime? = some (.atMidnight d) := by
  have hmidnight : TimeOfDay.midnight.wholeMilli = .midnight := by decide
  have hmilli : DateTime.ofEpochMilli? (DateTime.atMidnight d).epochMilli =
      some ⟨d, TimeOfDay.midnight.wholeMilli⟩ :=
    DateTime.ofEpochMilli?_epochMilli rfl
  rwa [hmidnight] at hmilli

theorem acceptsShown_of_setFormat (hparses : c.formats.parsesOnSet = true)
    (hget : c.formats.getFormat = CastKind.date.stockShownFormat)
    (hset : c.formats.setFormat = CastKind.date.stockShownFormat) :
    AcceptsShown c.get c.set := by
  intro stored shown hshown
  obtain ⟨dt, rfl⟩ := CastKind.exists_of_format? hget hshown
  refine ⟨.instant (.ofDateTime (CastKind.date.reentered dt)), ?_, ?_⟩
  · rw [set_eq hparses, hset, DateInput.toDateTime?, CastKind.ofText?_shownText, Option.map_some]
  · have hread : c.read? (.instant (.ofDateTime (CastKind.date.reentered dt))) =
        some (CastKind.date.reentered dt) :=
      toDateTime?_atMidnight _
    rw [get_of_read? hread, hget, CastKind.format?_stockShownFormat]
    exact congrArg some (CastKind.date.shownText_reentered dt)

theorem set_of_get (hparses : c.formats.parsesOnSet = true)
    (hget : c.formats.getFormat = CastKind.date.stockShownFormat)
    (hset : c.formats.setFormat = CastKind.dateTime.stockShownFormat)
    {stored : StoredDate} {shown : String} (hshown : c.get stored = some shown) :
    c.set (.text shown) = none := by
  obtain ⟨dt, rfl⟩ := CastKind.exists_of_format? hget hshown
  rw [set_eq hparses, hset, DateInput.toDateTime?, CastKind.ofText?_shownText_date, Option.map_none]

end DocumentCast

namespace CastOptions

/-- The options of a date, with the format in which it is shown also as the one in which it is entered. -/
def dateOnlyEntered : CastOptions :=
  { dateOnly with setFormat := dateOnly.getFormat }

/-- **An attribute that is shown as a date accepts what it shows only if it is a date.**  Of a date and
time, tables and documents refuse every text that they show.  With the format in which it is shown also
as the one in which it is entered, either kind would accept it. -/
theorem dateOnly_acceptsShown_iff (kind : CastKind) :
    (AcceptsShown (TextCast.ofSettings {} kind dateOnly).get (TextCast.ofSettings {} kind dateOnly).set ↔
      kind = .date) ∧
    (AcceptsShown (DocumentCast.ofSettings {} kind dateOnly).get
      (DocumentCast.ofSettings {} kind dateOnly).set ↔ kind = .date) ∧
    (∀ stored shown, (TextCast.ofSettings {} .dateTime dateOnly).get stored = some shown →
      (TextCast.ofSettings {} .dateTime dateOnly).set (.text shown) = none) ∧
    (∀ stored shown, (DocumentCast.ofSettings {} .dateTime dateOnly).get stored = some shown →
      (DocumentCast.ofSettings {} .dateTime dateOnly).set (.text shown) = none) ∧
    AcceptsShown (TextCast.ofSettings {} kind dateOnlyEntered).get
      (TextCast.ofSettings {} kind dateOnlyEntered).set ∧
    AcceptsShown (DocumentCast.ofSettings {} kind dateOnlyEntered).get
      (DocumentCast.ofSettings {} kind dateOnlyEntered).set := by
  have hparsed (kind : CastKind) : (TextCast.ofSettings {} kind dateOnly).formats.StoresParsed :=
    TextCast.storesParsed_of_parses kind rfl rfl
  have hentered : (TextCast.ofSettings {} kind dateOnlyEntered).formats.StoresParsed :=
    TextCast.storesParsed_of_parses kind rfl rfl
  have htable (stored shown : String)
      (hshown : (TextCast.ofSettings {} .dateTime dateOnly).get stored = some shown) :
      (TextCast.ofSettings {} .dateTime dateOnly).set (.text shown) = none :=
    TextCast.set_of_get (hparsed .dateTime) rfl rfl hshown
  have hdocument (stored : StoredDate) (shown : String)
      (hshown : (DocumentCast.ofSettings {} .dateTime dateOnly).get stored = some shown) :
      (DocumentCast.ofSettings {} .dateTime dateOnly).set (.text shown) = none :=
    DocumentCast.set_of_get rfl rfl rfl hshown
  -- the two formats towards users are the same for a date, and so nothing is refused
  refine ⟨?_, ?_, htable, hdocument, TextCast.acceptsShown_of_setFormat hentered rfl rfl,
    DocumentCast.acceptsShown_of_setFormat rfl rfl rfl⟩
  · cases kind with
    | date => exact iff_of_true (TextCast.acceptsShown_of_setFormat (hparsed .date) rfl rfl) rfl
    | dateTime =>
      have hshows : (TextCast.ofSettings {} .dateTime dateOnly).get "1970-01-01" = some "01/01/70" := by
        decide +kernel
      exact iff_of_false (not_acceptsShown hshows (htable _ _ hshows)) CastKind.noConfusion
  · cases kind with
    | date => exact iff_of_true (DocumentCast.acceptsShown_of_setFormat rfl rfl rfl) rfl
    | dateTime =>
      have hshows : (DocumentCast.ofSettings {} .dateTime dateOnly).get (.timestamp 0) = some "01/01/70" := by
        decide +kernel
      exact iff_of_false (not_acceptsShown hshows (hdocument _ _ hshows)) CastKind.noConfusion

/-- An afternoon of February 2026 is shown as its date, and the shown date is refused. -/
theorem dateOnly_refuses_afternoon :
    (TextCast.ofSettings {} .dateTime dateOnly).get "2026-02-12 13:45:00" = some "12/02/26" ∧
    (TextCast.ofSettings {} .dateTime dateOnly).set (.text "12/02/26") = none ∧
    (DocumentCast.ofSettings {} .dateTime dateOnly).get (.instant ⟨1770903900000⟩) = some "12/02/26" ∧
    (DocumentCast.ofSettings {} .dateTime dateOnly).set (.text "12/02/26") = none := by
  have htable : (TextCast.ofSettings {} .dateTime dateOnly).get "2026-02-12 13:45:00" = some "12/02/26" := by
    decide +kernel
  have hdocument : (DocumentCast.ofSettings {} .dateTime dateOnly).get (.instant ⟨1770903900000⟩) =
      some "12/02/26" := by
    decide +kernel
  obtain ⟨-, -, hrefuses, hrefuses', -⟩ := dateOnly_acceptsShown_iff .dateTime
  exact ⟨htable, hrefuses _ _ htable, hdocument, hrefuses' _ _ hdocument⟩

/-- Neither the cast of a table nor that of a document accepts what it shows of that afternoon. -/
theorem not_acceptsShown_afternoon :
    ¬ AcceptsShown (TextCast.ofSettings {} .dateTime dateOnly).get
      (TextCast.ofSettings {} .dateTime dateOnly).set ∧
    ¬ AcceptsShown (DocumentCast.ofSettings {} .dateTime dateOnly).get
      (DocumentCast.ofSettings {} .dateTime dateOnly).set := by
  have htable : (TextCast.ofSettings {} .dateTime dateOnly).get "2026-02-12 13:45:00" = some "12/02/26" := by
    decide +kernel
  have hdocument : (DocumentCast.ofSettings {} .dateTime dateOnly).get (.instant ⟨1770903900000⟩) =
      some "12/02/26" := by
    decide +kernel
  constructor
  · refine not_acceptsShown htable ?_
    decide +kernel
  · refine not_acceptsShown hdocument ?_
    decide +kernel

end CastOptions
end RequestQuery
