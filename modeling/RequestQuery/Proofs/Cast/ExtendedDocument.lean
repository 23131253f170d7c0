import RequestQuery.Cast.StoredDate
import RequestQuery.Proofs.Calendar.DayNumber
import RequestQuery.Proofs.Json.RoundTrip

/-! # Dates in extended documents

Nothing in an extended document names the kind of a stored date.  Three decoders are
tried in turn, but the order does not matter: an instant is a record, a text is in quotes
and a timestamp is a numeral, so no value is accepted by two of them
(`StoredDate.filterMap_decoders`).  A text therefore stays a text, whatever it looks
like, and a stored date comes back as it was, at both ends of the 64 bits too
(`StoredDate.extended_round_trip`).
-/
namespace RequestQuery

namespace Instant

/-- An instant is an object in an object, with its milliseconds as a text. -/
theorem ofJson?_toJson (i : Instant) : ofJson? i.toJson = if fitsInt64 i.milli then some i else none := by
  have hdigits : Text.readInt? (Text.showInt i.milli).toList = some i.milli := by
    rw [Text.showInt, String.toList_ofList, Text.readInt?_signedDecimal]
  have hread : ofJson? i.toJson = (Text.readInt? (Text.showInt i.milli).toList).bind fun milli =>
      if fitsInt64 milli then some ⟨milli⟩ else none := rfl
  rw [hread, hdigits, Option.bind_some]

/-- What is read of an instant fits in 64 bits. -/
theorem fitsInt64_of_ofJson? {value : Json} {i : Instant} (h : ofJson? value = some i) :
    fitsInt64 i.milli = true := by
  simp only [ofJson?, Option.bind_eq_bind, Option.bind_eq_some_iff] at h
  obtain ⟨outer, -, date, -, inner, -, h⟩ := h
  split at h
  · obtain ⟨milli, -, h⟩ := Option.bind_eq_some_iff.mp h
    obtain ⟨hfits, h⟩ := (Option.ite_none_right_eq_some ..).mp h
    cases h
    exact hfits
  · cases h

/-- The date and time that an instant has is the one in whole milliseconds, and in no leap second, whose
instant it is, before the epoch too. -/
theorem toDateTime?_eq_some_iff {i : Instant} {dt : DateTime} :
    i.toDateTime? = some dt ↔
      ofDateTime dt = i ∧ dt.time.isLeapSecond = false ∧ dt.time.wholeMilli = dt.time := by
  obtain ⟨milli⟩ := i
  rw [toDateTime?, DateTime.ofEpochMilli?_eq_some_iff, ofDateTime, Instant.mk.injEq]

end Instant

namespace StoredDate

/-- The stored dates whose numbers fit in 64 bits with a sign. -/
def Fits : StoredDate → Prop
  | instant i => fitsInt64 i.milli = true
  | text _ => True
  | timestamp seconds => fitsInt64 seconds = true

instance : (d : StoredDate) → Decidable d.Fits
  | instant i => inferInstanceAs (Decidable (fitsInt64 i.milli = true))
  | text _ => .isTrue trivial
  | timestamp seconds => inferInstanceAs (Decidable (fitsInt64 seconds = true))

/-! ## Telling the kinds apart -/

/-- The text in an extended document. -/
def text? : Json → Option StoredDate
  | .string s => some (.text s)
  | _ => none

/-- The number of seconds in an extended document. -/
def timestamp? : Json → Option StoredDate
  | .number (.integer i) => if fitsInt64 i then some (.timestamp i) else none
  | _ => none

/-- A decoder for each kind of stored date, in the order in which they are tried. -/
def decoders : List (Json → Option StoredDate) :=
  [fun value => (Instant.ofJson? value).map instant, text?, timestamp?]

/-- **No value is accepted by two decoders.** -/
theorem filterMap_decoders (value : Json) :
    decoders.filterMap (fun decode => decode value) = (ofJson? value).toList := by
  have hthree (a b c : Option StoredDate) : [a, b, c].filterMap id = a.toList ++ b.toList ++ c.toList := by
    cases a <;> cases b <;> cases c <;> rfl
  have hdecoders : decoders.filterMap (fun decode => decode value) =
      ((Instant.ofJson? value).map instant).toList ++ (text? value).toList ++ (timestamp? value).toList :=
    hthree _ _ _
  rw [hdecoders]
  cases value with
  | null | bool b | string s => rfl
  | number n => cases n <;> rfl
  | array items | object members => exact (List.append_nil _).trans (List.append_nil _)

/-- The first decoder that accepts a value says what it is. -/
theorem ofJson?_eq_findSome? (value : Json) :
    ofJson? value = decoders.findSome? fun decode => decode value := by
  rw [← List.head?_filterMap, filterMap_decoders, Option.head?_toList]

/-! ## Reading back -/

/-- What is read of a stored date fits in 64 bits. -/
theorem fits_of_ofJson? {value : Json} {d : StoredDate} (h : ofJson? value = some d) : d.Fits := by
  rw [ofJson?_eq_findSome?] at h
  obtain ⟨decode, hdecode, h⟩ := List.exists_of_findSome?_eq_some h
  simp only [decoders, List.mem_cons, List.not_mem_nil, or_false] at hdecode
  rcases hdecode with rfl | rfl | rfl
  · obtain ⟨i, hi, rfl⟩ := Option.map_eq_some_iff.mp h
    exact Instant.fitsInt64_of_ofJson? hi
  · cases value <;> cases h
    trivial
  · unfold timestamp? at h
    split at h
    · obtain ⟨hfits, h⟩ := (Option.ite_none_right_eq_some ..).mp h
      cases h
      exact hfits
    · cases h

theorem Fits.ofJson?_toJson {d : StoredDate} (h : d.Fits) : ofJson? d.toJson = some d := by
  cases d with
  | instant i =>
    have hread : ofJson? i.toJson = (Instant.ofJson? i.toJson).map instant := rfl
    have hfits : fitsInt64 i.milli = true := h
    rw [toJson, hread, Instant.ofJson?_toJson, if_pos hfits, Option.map_some]
  | text s => rfl
  | timestamp seconds => exact if_pos h

/-- A stored date is written exactly, in an object in an object at most. -/
theorem Fits.isExact_toJson {d : StoredDate} (h : d.Fits) : d.toJson.IsExact ∧ d.toJson.depth ≤ 2 := by
  have hsingle (name : String) {value : Json} (hvalue : value.IsExact) :
      (Json.object [(name, value)]).IsExact :=
    .object (List.pairwise_singleton _ _) (List.forall_mem_singleton.mpr hvalue)
  cases d with
  | instant i => exact ⟨hsingle "$date" (hsingle "$numberLong" (.string _)), le_rfl⟩
  | text s => exact ⟨.string s, Nat.zero_le _⟩
  | timestamp seconds =>
    obtain ⟨hlow, hhigh⟩ := fitsInt64_iff.mp h
    exact ⟨.integer (by omega) (by omega), Nat.zero_le _⟩

/-- What a stored date is written as is read back as a document, and from it the stored date. -/
theorem Fits.read?_print {d : StoredDate} (h : d.Fits) :
    (Json.read? d.toJson.print).bind ofJson? = some d := by
  obtain ⟨hexact, hdepth⟩ := h.isExact_toJson
  have hlimit : d.toJson.depth ≤ Json.depthLimit := hdepth.trans (by decide)
  rw [hexact.read?_print, if_pos hlimit, Option.bind_some, h.ofJson?_toJson]

/-- **Stored dates survive extended documents.**  A stored date whose numbers fit in 64 bits, and no other,
comes back from its document, also when that is printed and read, and one decoder only accepts the
document.  The date and time that an instant has is the one in whole milliseconds, and in no leap second,
whose instant it is. -/
theorem extended_round_trip :
    (∀ d : StoredDate, ofJson? d.toJson = some d ↔ d.Fits) ∧
    (∀ d : StoredDate, d.Fits →
      decoders.filterMap (fun decode => decode d.toJson) = [d] ∧
        (Json.read? d.toJson.print).bind ofJson? = some d) ∧
    ∀ (i : Instant) (dt : DateTime), i.toDateTime? = some dt ↔
      Instant.ofDateTime dt = i ∧ dt.time.isLeapSecond = false ∧ dt.time.wholeMilli = dt.time := by
  refine ⟨fun d => ⟨fits_of_ofJson?, Fits.ofJson?_toJson⟩, fun d h => ⟨?_, h.read?_print⟩, ?_⟩
  · rw [filterMap_decoders, h.ofJson?_toJson]
    rfl
  · exact fun i dt => Instant.toDateTime?_eq_some_iff

/-- The least instant and the greatest timestamp, a text that looks like a date, and the millisecond
before the epoch. -/
theorem extended_round_trip_extremes :
    (Json.read? "\x7b\"$date\":\x7b\"$numberLong\":\"-9223372036854775808\"\x7d\x7d").bind ofJson? =
      some (.instant ⟨-9223372036854775808⟩) ∧
    (Json.read? "9223372036854775807").bind ofJson? = some (.timestamp 9223372036854775807) ∧
    ofJson? (.string "2026-02-12") = some (.text "2026-02-12") ∧
    ofJson? (.ofInt 9223372036854775808) = none ∧
    Instant.toDateTime? ⟨-1⟩ = some ⟨⟨1969, 12, 31, by decide⟩, ⟨23, 59, 59, 999000000, by decide⟩⟩ ∧
    Instant.ofDateTime ⟨⟨1969, 12, 31, by decide⟩, ⟨23, 59, 59, 999000000, by decide⟩⟩ = ⟨-1⟩ := by
  obtain ⟨hread, hprinted, hinstant⟩ := extended_round_trip
  have hleast := (hprinted (.instant ⟨-9223372036854775808⟩) (by decide)).2
  have hgreatest := (hprinted (.timestamp 9223372036854775807) (by decide)).2
  have hleastText : (toJson (.instant ⟨-9223372036854775808⟩)).print =
      "\x7b\"$date\":\x7b\"$numberLong\":\"-9223372036854775808\"\x7d\x7d" := by
    decide +kernel
  have hgreatestText : (toJson (.timestamp 9223372036854775807)).print = "9223372036854775807" := by
    decide +kernel
  have hbefore : Instant.toDateTime? ⟨-1⟩ =
      some ⟨⟨1969, 12, 31, by decide⟩, ⟨23, 59, 59, 999000000, by decide⟩⟩ := by decide
  obtain ⟨hmade, -⟩ := (hinstant _ _).mp hbefore
  rw [hleastText] at hleast
  rw [hgreatestText] at hgreatest
  exact ⟨hleast, hgreatest, (hread (.text "2026-02-12")).mpr trivial, by decide, hbefore, hmade⟩

end StoredDate
end RequestQuery
