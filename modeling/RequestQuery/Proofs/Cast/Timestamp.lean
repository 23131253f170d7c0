import RequestQuery.Proofs.Calendar.DayNumber
import RequestQuery.Proofs.Calendar.YearFirst
import RequestQuery.Proofs.Cast.ShownText
import RequestQuery.Proofs.Json.Integer

/-! # Timestamps that are stored as they are

A cast that does not parse what is entered stores a number of seconds as it is: a
document as a number, a table as its digits.  A text is a number of seconds only
if it has ten digits, and one of milliseconds if it has thirteen; any other number
is no date in a storage format either, since it has no dash behind its first
character (`DateInput.ofText?_showInt`).  So a document always shows the date of the
number, and a table shows it exactly for numbers of ten digits, the accident apart
that the thousandth part of a number of thirteen looks the same
(`CastOptions.unparsed_timestamp_iff`).
-/
namespace RequestQuery

/-! ## Digits of an integer -/

namespace Text

theorem not_dash_mem_tail_showInt (n : Int) : '-' ∉ (showInt n).toList.tail := by
  have hdigits (k : Nat) : '-' ∉ decimal k := fun h => absurd (isDigit_of_mem_decimal h) (by decide)
  rw [showInt, String.toList_ofList]
  cases n with
  | ofNat k => exact mt List.mem_of_mem_tail (hdigits k)
  | negSucc k => exact hdigits (k + 1)

end Text

namespace DateInput

theorem epochSecond?_of_digits {s : String} (hall : s.toList.all Char.isDigit = true) :
    epochSecond? s =
      if s.toList.length = 10 then some (Text.valueOf s.toList : Int)
      else if s.toList.length = 13 then some ((Text.valueOf s.toList : Int) / 1000)
      else none := by
  rw [epochSecond?, hall, if_neg (by decide)]
  split
  · next hten => rw [if_pos hten]
  · next hthirteen => rw [if_neg (by omega), if_pos hthirteen]
  · next hten hthirteen => rw [if_neg hten, if_neg hthirteen]

/-- A number of ten digits is seconds, one of thirteen milliseconds, and no other is any. -/
theorem epochSecond?_showInt (n : Int) :
    epochSecond? (Text.showInt n) =
      if 10 ^ 9 ≤ n ∧ n < 10 ^ 10 then some n
      else if 10 ^ 12 ≤ n ∧ n < 10 ^ 13 then some (n / 1000)
      else none := by
  cases n with
  | ofNat k =>
    have hchars : (Text.showInt (.ofNat k)).toList = Text.decimal k := String.toList_ofList
    have hall : (Text.showInt (.ofNat k)).toList.all Char.isDigit = true :=
      List.all_eq_true.mpr fun c hc => Text.isDigit_of_mem_decimal (hchars ▸ hc)
    have hten : (Text.decimal k).length = 10 ↔ 10 ^ 9 ≤ k ∧ k < 10 ^ 10 :=
      Text.length_decimal_eq_iff
    have hthirteen : (Text.decimal k).length = 13 ↔ 10 ^ 12 ≤ k ∧ k < 10 ^ 13 :=
      Text.length_decimal_eq_iff
    rw [epochSecond?_of_digits hall, hchars, Text.valueOf_decimal]
    refine ite_congr (propext (hten.trans ?_)) (fun _ => rfl) fun _ =>
      ite_congr (propext (hthirteen.trans ?_)) (fun _ => rfl) fun _ => rfl
    all_goals simp only [Int.ofNat_eq_natCast]; omega
  | negSucc k =>
    have hall : (Text.showInt (.negSucc k)).toList.all Char.isDigit = false := by
      rw [Text.showInt, String.toList_ofList]
      rfl
    have hnegative := Int.negSucc_lt_zero k
    have hnone : epochSecond? (Text.showInt (.negSucc k)) = none := by
      rw [epochSecond?, hall]
      rfl
    rw [hnone, if_neg (by omega), if_neg (by omega)]

/-- A number is a date by its digits or not at all. -/
theorem ofText?_showInt (kind : CastKind) (n : Int) :
    ofText? (Text.showInt n) kind.stockStorageFormat =
      (epochSecond? (Text.showInt n)).bind fun second => DateTime.ofEpochSecond? second 0 := by
  have hdash := Text.not_dash_mem_tail_showInt n
  have hpattern : Pattern.beginsWithYear kind.stockStorageFormat = true := by
    cases kind
    all_goals decide +kernel
  have hne : (Text.showInt n).isEmpty = false := by
    rw [← Bool.not_eq_true, String.isEmpty_iff, ← String.toList_eq_nil_iff, Text.showInt,
      String.toList_ofList]
    exact Json.signedDecimal_ne_nil n
  rw [ofText?, hne, if_neg Bool.false_ne_true]
  cases epochSecond? (Text.showInt n) with
  | some second => rfl
  | none =>
    rw [DateTime.readLenient?_eq_none hpattern hdash, DateTime.readIso?_eq_none hdash]
    rfl

/-- **The numbers of ten digits alone are read as the instant that they denote.** -/
theorem ofText?_showInt_eq_some_iff (kind : CastKind) {n : Int} {dt : DateTime}
    (h : DateTime.ofEpochSecond? n 0 = some dt) :
    ofText? (Text.showInt n) kind.stockStorageFormat = some dt ↔ 10 ^ 9 ≤ n ∧ n < 10 ^ 10 := by
  rw [ofText?_showInt, epochSecond?_showInt]
  split
  · next hten => exact iff_of_true h hten
  · next hten =>
    refine iff_of_false ?_ hten
    split
    · next hthirteen =>
      -- the instant of a thousandth of the number is another one
      intro hread
      obtain ⟨⟨hsecond, -⟩, -⟩ := DateTime.ofEpochSecond?_eq_some_iff.mp h
      obtain ⟨⟨hother, -⟩, -⟩ := DateTime.ofEpochSecond?_eq_some_iff.mp hread
      omega
    · exact nofun

end DateInput

theorem TextCast.set_timestamp {c : TextCast} (hparses : c.formats.parsesOnSet = false) (n : Int) :
    c.set (.timestamp n) = some (Text.showInt n) := by
  rw [set.eq_def, hparses]
  rfl

theorem DocumentCast.set_timestamp {c : DocumentCast} (hparses : c.formats.parsesOnSet = false) (n : Int) :
    c.set (.timestamp n) = some (.timestamp n) := by
  rw [set.eq_def, hparses]
  rfl

namespace CastOptions

/-- What is entered is stored as it is. -/
def unparsed : CastOptions :=
  { parsesOnSet := some false }

/-- What a table shows of the digits of a number. -/
theorem get_showInt (kind : CastKind) (n : Int) :
    (TextCast.ofSettings {} kind unparsed).get (Text.showInt n) =
      ((DateInput.epochSecond? (Text.showInt n)).bind fun second =>
        DateTime.ofEpochSecond? second 0).map kind.shownText := by
  have horigin : (TextCast.ofSettings {} kind unparsed).formats.originFormat = kind.stockStorageFormat := by
    cases kind <;> rfl
  have hget : (TextCast.ofSettings {} kind unparsed).formats.getFormat = kind.stockShownFormat := by
    cases kind <;> rfl
  rw [TextCast.get, horigin, hget, DateInput.ofText?_showInt, Option.map_eq_bind]
  exact congrArg _ (funext kind.format?_stockShownFormat)

/-- **A table shows the date of a number that it stored as it is** only if the number has ten digits.  A
document shows it for every number that denotes an instant.  A table reads the digits of a number as
that instant if there are ten of them, and otherwise as another one or as none; what it shows is then
still the same if the number has thirteen digits and its thousandth part happens to look the same. -/
theorem unparsed_timestamp_iff (kind : CastKind) {n : Int} {dt : DateTime}
    (h : DateTime.ofEpochSecond? n 0 = some dt) :
    ∃ stored shown, dt.format? kind.stockShownFormat = some shown ∧
      (DocumentCast.ofSettings {} kind unparsed).set (.timestamp n) = some (.timestamp n) ∧
      (DocumentCast.ofSettings {} kind unparsed).get (.timestamp n) = some shown ∧
      (TextCast.ofSettings {} kind unparsed).set (.timestamp n) = some stored ∧
      (DateInput.ofText? stored kind.stockStorageFormat = some dt ↔ 10 ^ 9 ≤ n ∧ n < 10 ^ 10) ∧
      ((TextCast.ofSettings {} kind unparsed).get stored = some shown ↔
        (10 ^ 9 ≤ n ∧ n < 10 ^ 10) ∨
        (10 ^ 12 ≤ n ∧ n < 10 ^ 13) ∧ ∃ dt', DateTime.ofEpochSecond? (n / 1000) 0 = some dt' ∧
          dt'.format? kind.stockShownFormat = some shown) := by
  refine ⟨Text.showInt n, kind.shownText dt, kind.format?_stockShownFormat dt,
    DocumentCast.set_timestamp rfl n, ?_, TextCast.set_timestamp rfl n,
    DateInput.ofText?_showInt_eq_some_iff kind h, ?_⟩
  · have hget : (DocumentCast.ofSettings {} kind unparsed).formats.getFormat = kind.stockShownFormat := by
      cases kind <;> rfl
    rw [DocumentCast.get, DocumentCast.read?, h, hget]
    exact kind.format?_stockShownFormat dt
  · rw [get_showInt, DateInput.epochSecond?_showInt]
    split
    · next hten => exact iff_of_true (congrArg _ h) (.inl hten)
    · next hten =>
      rw [or_iff_right hten]
      split
      · next hthirteen =>
        simp only [hthirteen, true_and, Option.bind_some, Option.map_eq_some_iff, kind.format?_stockShownFormat,
          Option.some.injEq]
      · next hthirteen => exact iff_of_false nofun fun hsame => hthirteen hsame.1

/-- An afternoon of February 2026 has ten digits. -/
theorem unparsed_timestamp_afternoon :
    (TextCast.ofSettings {} .dateTime unparsed).get "1770903900" = some "12/02/26 01:45 PM" ∧
    (DocumentCast.ofSettings {} .dateTime unparsed).get (.timestamp 1770903900) = some "12/02/26 01:45 PM" := by
  have hinstant : DateTime.ofEpochSecond? 1770903900 0 =
      some ⟨⟨2026, 2, 12, by decide⟩, ⟨13, 45, 0, 0, by decide⟩⟩ := by
    decide +kernel
  obtain ⟨stored, shown, hformat, -, hdocument, hset, -, htable⟩ := unparsed_timestamp_iff .dateTime hinstant
  have hstored : (TextCast.ofSettings {} .dateTime unparsed).set (.timestamp 1770903900) =
      some "1770903900" := by
    decide +kernel
  have hshown : (⟨⟨2026, 2, 12, by decide⟩, ⟨13, 45, 0, 0, by decide⟩⟩ : DateTime).format?
      CastKind.dateTime.stockShownFormat = some "12/02/26 01:45 PM" := by
    decide +kernel
  cases hstored.symm.trans hset
  cases hshown.symm.trans hformat
  exact ⟨htable.mpr (.inl (by decide)), hdocument⟩

/-- A table shows nothing for the epoch, and an afternoon of 2026 for a number of thirteen digits that
denotes a day of another age. -/
theorem unparsed_timestamp_lost :
    ((TextCast.ofSettings {} .date unparsed).set (.timestamp 0)).bind
      (TextCast.ofSettings {} .date unparsed).get = none ∧
    ((DocumentCast.ofSettings {} .date unparsed).set (.timestamp 0)).bind
      (DocumentCast.ofSettings {} .date unparsed).get = some "01/01/70" ∧
    ((TextCast.ofSettings {} .date unparsed).set (.timestamp 1770903900000)).bind
      (TextCast.ofSettings {} .date unparsed).get = some "12/02/26" ∧
    ((DocumentCast.ofSettings {} .date unparsed).set (.timestamp 1770903900000)).bind
      (DocumentCast.ofSettings {} .date unparsed).get = some "16/09/87" := by
  refine ⟨?_, ?_, ?_, ?_⟩
  all_goals decide +kernel

/-- A day of the year 33701 that looks like one of 2001, which its thousandth part denotes. -/
example : (TextCast.ofSettings {} .date unparsed).get "1001356652800" =
    (DocumentCast.ofSettings {} .date unparsed).get (.timestamp 1001356652800) := by
  decide +kernel

end CastOptions
end RequestQuery
