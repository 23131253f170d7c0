import RequestQuery.Proofs.Cast.DateOnly

/-! # Tables and documents agree

A table keeps a text that has lost the time of a date and the fraction of a
second; a document keeps an instant in whole milliseconds.  Neither loss shows in
the stock formats, which show no seconds at all.  So, whatever is entered, both
store something or neither does, and both show the same text of it
(`CastKind.shown_alike`), before the epoch as well and in whatever year.  Only a
leap second has no instant of its own: a document holds the second after it.
-/
namespace RequestQuery

namespace Instant

/-- An instant keeps a date and time in whole milliseconds, if it is not in a leap second. -/
theorem toDateTime?_ofDateTime {dt : DateTime} (hleap : dt.time.isLeapSecond = false) :
    (ofDateTime dt).toDateTime? = some ⟨dt.date, dt.time.wholeMilli⟩ :=
  DateTime.ofEpochMilli?_epochMilli hleap

end Instant

namespace CastKind

/-- The shown text has no fraction of a second. -/
theorem shownText_wholeMilli (kind : CastKind) (dt : DateTime) :
    kind.shownText ⟨dt.date, dt.time.wholeMilli⟩ = kind.shownText dt := by
  cases kind <;> rfl

end CastKind

namespace DocumentCast

/-- What is shown of an instant is the date and time that it was made from, in whole milliseconds. -/
theorem get_instant (c : DocumentCast) {dt : DateTime} (hleap : dt.time.isLeapSecond = false) :
    c.get (.instant (.ofDateTime dt)) =
      (DateTime.mk dt.date dt.time.wholeMilli).format? c.formats.getFormat :=
  get_of_read? (Instant.toDateTime?_ofDateTime hleap)

/-- The cast of the stock settings that parses what is entered. -/
def stockParsing (kind : CastKind) : DocumentCast :=
  ofSettings {} kind .parsed

theorem getFormat_stockParsing (kind : CastKind) :
    (stockParsing kind).formats.getFormat = kind.stockShownFormat := by
  cases kind <;> rfl

theorem setFormat_stockParsing (kind : CastKind) :
    (stockParsing kind).formats.setFormat = kind.stockShownFormat := by
  cases kind <;> rfl

/-- What is stored is the instant of the date that was entered. -/
theorem set_stockParsing (kind : CastKind) (x : DateInput) :
    (stockParsing kind).set x =
      (x.toDateTime? kind.stockShownFormat).map fun dt => .instant (.ofDateTime dt) := by
  rw [set_eq rfl, setFormat_stockParsing]

/-- What is shown of an instant is the date that it was made from. -/
theorem get_stockParsing (kind : CastKind) {dt : DateTime} (hleap : dt.time.isLeapSecond = false) :
    (stockParsing kind).get (.instant (.ofDateTime dt)) = some (kind.shownText dt) := by
  rw [get_instant _ hleap, getFormat_stockParsing, CastKind.format?_stockShownFormat,
    CastKind.shownText_wholeMilli]

end DocumentCast

namespace TextCast

/-- What is stored is the text of the date that was entered. -/
theorem set_stockParsing_eq (kind : CastKind) (x : DateInput) :
    (stockParsing kind).set x = (x.toDateTime? kind.stockShownFormat).map kind.storedText := by
  rw [set_eq (storesParsed_stockParsing kind), setFormat_stockParsing, kind_stockParsing]

end TextCast

namespace CastKind

/-- **Tables and documents agree.**  By the stock formats, both parsing what is entered, a table stores
nothing exactly if a document stores nothing.  When they store something, a document stores an instant,
and both show the same text, unless what was entered is in a leap second. -/
theorem shown_alike (kind : CastKind) {x : DateInput}
    (hleap : ∀ dt, x.toDateTime? kind.stockShownFormat = some dt → dt.time.isLeapSecond = false) :
    ((TextCast.stockParsing kind).set x = none ↔ (DocumentCast.stockParsing kind).set x = none) ∧
    ∀ stored held, (TextCast.stockParsing kind).set x = some stored →
      (DocumentCast.stockParsing kind).set x = some held →
        ∃ i shown, held = .instant i ∧ (TextCast.stockParsing kind).get stored = some shown ∧
          (DocumentCast.stockParsing kind).get held = some shown := by
  rw [TextCast.set_stockParsing_eq, DocumentCast.set_stockParsing]
  constructor
  · rw [Option.map_eq_none_iff, Option.map_eq_none_iff]
  · intro stored held hstored hheld
    obtain ⟨dt, hread, rfl⟩ := Option.map_eq_some_iff.mp hstored
    rw [hread, Option.map_some, Option.some.injEq] at hheld
    subst hheld
    exact ⟨.ofDateTime dt, kind.shownText dt, rfl, TextCast.get_stockParsing kind dt,
      DocumentCast.get_stockParsing kind (hleap dt hread)⟩

/-- The last moment before the year one in one zone is in the year before it in universal time. -/
theorem shown_alike_before_first_year :
    ∃ held, (DocumentCast.stockParsing .dateTime).set (.text "0001-01-01T00:29:59.9999+00:30") = some held ∧
      (TextCast.stockParsing .dateTime).set (.text "0001-01-01T00:29:59.9999+00:30") =
        some "0000-12-31 23:59:59" ∧
      (TextCast.stockParsing .dateTime).get "0000-12-31 23:59:59" = some "31/12/00 11:59 PM" ∧
      (DocumentCast.stockParsing .dateTime).get held = some "31/12/00 11:59 PM" := by
  have hread : (DateInput.text "0001-01-01T00:29:59.9999+00:30").toDateTime?
      CastKind.dateTime.stockShownFormat =
        some ⟨⟨0, 12, 31, by decide⟩, ⟨23, 59, 59, 999900000, by decide⟩⟩ := by
    decide +kernel
  have hset : (TextCast.stockParsing .dateTime).set (.text "0001-01-01T00:29:59.9999+00:30") =
      some "0000-12-31 23:59:59" := by
    decide +kernel
  have hget : (TextCast.stockParsing .dateTime).get "0000-12-31 23:59:59" = some "31/12/00 11:59 PM" := by
    decide +kernel
  obtain ⟨hnone, hshown⟩ := shown_alike .dateTime (x := .text "0001-01-01T00:29:59.9999+00:30") <| by
    intro dt h
    cases hread.symm.trans h
    rfl
  cases hheld : (DocumentCast.stockParsing .dateTime).set (.text "0001-01-01T00:29:59.9999+00:30") with
  | none => cases (hnone.mpr hheld).symm.trans hset
  | some held =>
    obtain ⟨-, shown, -, htable, hdocument⟩ := hshown _ held hset hheld
    cases hget.symm.trans htable
    exact ⟨held, rfl, hset, hget, hdocument⟩

/-- A leap second is shown in its own minute by a table, and in the next one by a document. -/
example :
    ((TextCast.stockParsing .dateTime).set (.text "2016-12-31T23:59:60Z")).bind
      (TextCast.stockParsing .dateTime).get = some "31/12/16 11:59 PM" ∧
    ((DocumentCast.stockParsing .dateTime).set (.text "2016-12-31T23:59:60Z")).bind
      (DocumentCast.stockParsing .dateTime).get = some "01/01/17 12:00 AM" := by
  decide +kernel

end CastKind
end RequestQuery
