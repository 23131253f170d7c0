import RequestQuery.Proofs.Cast.Agreement
import RequestQuery.Proofs.Cast.Timestamp

/-! # Seconds and milliseconds in digits

Ten digits are the seconds of an instant, and three more behind them only add
milliseconds, which are left out.  The format that is asked for is not looked at,
even if it would take the digits for something else.  Every number of ten digits
is in reach of the calendar, so the digits, with milliseconds or without, and the
number itself are always entered as one instant, stored as the same value where
what is entered is parsed, and shown as the same text
(`DateInput.digits_denote_instant`).
-/
namespace RequestQuery
namespace DateInput

/-! ## What digits are read as -/

/-- Digits that are a number of seconds are not looked at by any format. -/
theorem ofText?_of_epochSecond? {s : String} {second : Int} (h : epochSecond? s = some second)
    (format : String) : ofText? s format = DateTime.ofEpochSecond? second 0 := by
  have hne : s.isEmpty = false := by
    rw [← Bool.not_eq_true, String.isEmpty_iff]
    rintro rfl
    cases h
  rw [ofText?, hne, if_neg Bool.false_ne_true, h]

/-- The three ways to enter an instant by its number of seconds. -/
def epochForms (seconds millis : String) : List DateInput :=
  [.text seconds, .text (seconds ++ millis), .timestamp (Text.valueOf seconds.toList)]

variable {seconds millis : String}

section TenDigits

variable (hdigits : ∀ c ∈ seconds.toList, c.isDigit = true) (hten : seconds.length = 10)
include hdigits hten

theorem epochSecond?_of_ten_digits : epochSecond? seconds = some (Text.valueOf seconds.toList : Int) := by
  rw [epochSecond?_of_digits (List.all_eq_true.mpr hdigits), String.length_toList, if_pos hten]

/-- Ten digits are always the seconds of an instant. -/
theorem exists_ofEpochSecond?_valueOf :
    ∃ dt, DateTime.ofEpochSecond? (Text.valueOf seconds.toList) 0 = some dt := by
  have hbound := Text.valueOf_lt_pow_length hdigits
  rw [String.length_toList, hten] at hbound
  exact DateTime.exists_ofEpochSecond?_eq (by omega) (by omega) (by decide)

variable (hmillis : ∀ c ∈ millis.toList, c.isDigit = true) (hthree : millis.length = 3)
include hmillis hthree

/-- Three digits more are milliseconds, which fall away again. -/
theorem epochSecond?_append :
    epochSecond? (seconds ++ millis) = some (Text.valueOf seconds.toList : Int) := by
  have hall : (seconds ++ millis).toList.all Char.isDigit = true := by
    rw [String.toList_append, List.all_append, List.all_eq_true.mpr hdigits, List.all_eq_true.mpr hmillis]
    rfl
  have hthirteen : (seconds ++ millis).toList.length = 13 := by
    rw [String.length_toList, String.length_append, hten, hthree]
  have hvalue : Text.valueOf (seconds ++ millis).toList =
      Text.valueOf seconds.toList * 1000 + Text.valueOf millis.toList := by
    rw [String.toList_append, Text.valueOf_append, String.length_toList, hthree]
    rfl
  have hsmall := Text.valueOf_lt_pow_length hmillis
  rw [String.length_toList, hthree] at hsmall
  rw [epochSecond?_of_digits hall, hthirteen, if_neg (by decide), if_pos rfl, hvalue]
  congr 1
  omega

/-- **All three are the same instant**, whatever format is asked for. -/
theorem toDateTime?_of_mem_epochForms {x : DateInput} (hx : x ∈ epochForms seconds millis)
    (format : String) :
    x.toDateTime? format = DateTime.ofEpochSecond? (Text.valueOf seconds.toList) 0 := by
  simp only [epochForms, List.mem_cons, List.not_mem_nil, or_false] at hx
  rcases hx with rfl | rfl | rfl
  · exact ofText?_of_epochSecond? (epochSecond?_of_ten_digits hdigits hten) format
  · exact ofText?_of_epochSecond? (epochSecond?_append hdigits hten hmillis hthree) format
  · rfl

end TenDigits

/-! ## What casts make of them -/

/-- **Ten digits, thirteen digits and the number of seconds are one instant.**  Ten digits, the same with
three more behind them, and the number that the ten are denote an instant, the same one in every format.
Tables and documents show the same text of it for both texts, documents for the number as well.  Where
what is entered is parsed, each stores the same value for all three. -/
theorem digits_denote_instant (hdigits : ∀ c ∈ seconds.toList, c.isDigit = true)
    (hten : seconds.length = 10) (hmillis : ∀ c ∈ millis.toList, c.isDigit = true)
    (hthree : millis.length = 3) :
    ∃ dt : DateTime, dt.epochSecond = Text.valueOf seconds.toList ∧ dt.time.nanosecond = 0 ∧
      (∀ x ∈ epochForms seconds millis, ∀ format, x.toDateTime? format = some dt) ∧
      (∀ c : TextCast, ∀ stored ∈ [seconds, seconds ++ millis],
        c.get stored = dt.format? c.formats.getFormat) ∧
      (∀ c : DocumentCast, ∀ stored ∈ [StoredDate.text seconds, .text (seconds ++ millis),
          .timestamp (Text.valueOf seconds.toList)],
        c.get stored = dt.format? c.formats.getFormat) ∧
      (∀ c : TextCast, c.formats.parsesOnSet = true → ∀ x ∈ epochForms seconds millis,
        c.set x = dt.format? c.formats.storageFormat) ∧
      (∀ c : DocumentCast, c.formats.parsesOnSet = true → ∀ x ∈ epochForms seconds millis,
        c.set x = some (.instant (.ofDateTime dt))) := by
  obtain ⟨dt, hdt⟩ := exists_ofEpochSecond?_valueOf hdigits hten
  obtain ⟨⟨hsecond, hnanosecond⟩, -⟩ := DateTime.ofEpochSecond?_eq_some_iff.mp hdt
  have hread (x : DateInput) (hx : x ∈ epochForms seconds millis) (format : String) :
      x.toDateTime? format = some dt :=
    (toDateTime?_of_mem_epochForms hdigits hten hmillis hthree hx format).trans hdt
  have hshort (format : String) : ofText? seconds format = some dt :=
    hread (.text seconds) (by simp [epochForms]) format
  have hlong (format : String) : ofText? (seconds ++ millis) format = some dt :=
    hread (.text (seconds ++ millis)) (by simp [epochForms]) format
  refine ⟨dt, hsecond, hnanosecond, hread, ?_, ?_, ?_, ?_⟩
  · intro c stored hstored
    simp only [List.mem_cons, List.not_mem_nil, or_false] at hstored
    rcases hstored with rfl | rfl
    · exact TextCast.get_of_ofText? (hshort _)
    · exact TextCast.get_of_ofText? (hlong _)
  · intro c stored hstored
    simp only [List.mem_cons, List.not_mem_nil, or_false] at hstored
    rcases hstored with rfl | rfl | rfl
    · exact DocumentCast.get_of_read? (hshort _)
    · exact DocumentCast.get_of_read? (hlong _)
    · exact DocumentCast.get_of_read? hdt
  · intro c hparses x hx
    rw [TextCast.set_of_parses hparses, hread x hx, Option.bind_some]
  · intro c hparses x hx
    rw [DocumentCast.set_eq hparses, hread x hx, Option.map_some]

/-- Zeros in front count as digits: the second minute of 1970 can be entered as well. -/
theorem digits_denote_second_minute :
    (TextCast.stockParsing .dateTime).get "0000000065" = some "01/01/70 12:01 AM" ∧
    (TextCast.stockParsing .dateTime).get "0000000065999" = some "01/01/70 12:01 AM" ∧
    (TextCast.stockParsing .dateTime).set (.text "0000000065999") = some "1970-01-01 00:01:05" ∧
    (TextCast.stockParsing .dateTime).set (.timestamp 65) = some "1970-01-01 00:01:05" ∧
    (DocumentCast.stockParsing .dateTime).set (.text "0000000065999") = some (.instant ⟨65000⟩) ∧
    (DocumentCast.stockParsing .dateTime).set (.timestamp 65) = some (.instant ⟨65000⟩) := by
  have hdigits : ∀ c ∈ "0000000065".toList, c.isDigit = true := List.all_eq_true.mp (by decide)
  have hmillis : ∀ c ∈ "999".toList, c.isDigit = true := List.all_eq_true.mp (by decide)
  obtain ⟨dt, -, -, hread, hget, -, hset, hkeep⟩ := digits_denote_instant hdigits rfl hmillis rfl
  have hinstant : (DateInput.timestamp 65).toDateTime? "" =
      some ⟨⟨1970, 1, 1, by decide⟩, ⟨0, 1, 5, 0, by decide⟩⟩ := by
    decide +kernel
  cases hinstant.symm.trans (hread (.timestamp 65) (by decide) "")
  refine ⟨(hget _ _ (by decide)).trans ?_, (hget _ _ (by decide)).trans ?_,
    (hset _ rfl _ (by decide)).trans ?_, (hset _ rfl _ (by decide)).trans ?_,
    hkeep _ rfl _ (by decide), hkeep _ rfl _ (by decide)⟩
  all_goals decide +kernel

end DateInput
end RequestQuery
