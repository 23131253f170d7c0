import RequestQuery.Proofs.Cast.StoredText

/-! # Shown texts are entered again

The stock formats show a date without its century, and a time of day without its
seconds.  Entered again, such a text is a date in one of the hundred years from
1970 to 2069, at a whole minute (`CastKind.ofText?_shownText`).  What is shown of
it is the same text, since a leap day is still one: of those years only 2000 ends
a century, and it is a leap year.  What is stored is the same only if the date was
in those years and no seconds were lost (`TextCast.get_set_get`).
-/
namespace RequestQuery

/-! ## Years without a century -/

/-- The year from 1970 to 2069 that ends in the same two digits. -/
def recentYear (year : Int) : Int :=
  year % 100 + if year % 100 < 70 then 2000 else 1900

theorem recentYear_bounds (year : Int) : 1970 ≤ recentYear year ∧ recentYear year ≤ 2069 := by
  rw [recentYear]
  split <;> omega

theorem recentYear_emod (year : Int) : recentYear year % 100 = year % 100 := by
  rw [recentYear]
  split <;> omega

theorem recentYear_eq_self_iff {year : Int} : recentYear year = year ↔ 1970 ≤ year ∧ year ≤ 2069 := by
  rw [recentYear]
  split <;> omega

/-- A leap year is one without its century, since 2000 is. -/
theorem isLeapYear_recentYear {year : Int} (h : isLeapYear year = true) :
    isLeapYear (recentYear year) = true := by
  have hmod := recentYear_emod year
  have hbounds := recentYear_bounds year
  simp only [isLeapYear, Bool.and_eq_true, Bool.or_eq_true, beq_iff_eq, bne_iff_ne] at h ⊢
  omega

theorem daysInMonth_le_recentYear (year : Int) (month : Nat) :
    daysInMonth year month ≤ daysInMonth (recentYear year) month := by
  by_cases hleap : isLeapYear year = true
  · simp only [daysInMonth, hleap, isLeapYear_recentYear hleap, Nat.le_refl]
  · -- a February of 28 days may become one of 29, but not the other way round
    unfold daysInMonth
    rw [if_neg hleap]
    split
    all_goals first
      | exact Nat.le_refl _
      | split <;> decide

namespace Date

theorem isDate_recentYear (d : Date) : isDate (recentYear d.year) d.month d.day = true := by
  have hbounds := recentYear_bounds d.year
  have hdays := daysInMonth_le_recentYear d.year d.month
  have h := d.exists_day
  simp only [isDate, Bool.and_eq_true, decide_eq_true_eq] at h ⊢
  omega

/-- The same day in a year from 1970 to 2069. -/
def recent (d : Date) : Date where
  year := recentYear d.year
  month := d.month
  day := d.day
  exists_day := d.isDate_recentYear

theorem recent_eq_self_iff {d : Date} : d.recent = d ↔ 1970 ≤ d.year ∧ d.year ≤ 2069 := by
  rw [← recentYear_eq_self_iff]
  constructor
  · exact congrArg Date.year
  · intro h
    cases d
    simp only [recent, Date.mk.injEq, and_true]
    exact h

/-- The text of a date without its century. -/
def shortChars (d : Date) : List Char :=
  twoDigits d.day ++ '/' :: (twoDigits d.month ++ '/' :: twoDigits (d.year % 100).toNat)

@[simp] theorem shortChars_recent (d : Date) : d.recent.shortChars = d.shortChars := by
  simp only [shortChars, recent, recentYear_emod]

end Date

namespace TimeOfDay

/-- The time of day without its seconds. -/
def wholeMinute (t : TimeOfDay) : TimeOfDay where
  hour := t.hour
  minute := t.minute
  second := 0
  nanosecond := 0
  exists_time := t.isTime_inMinute (by decide) (by decide)

theorem shownSecond_wholeMinute (t : TimeOfDay) : t.wholeMinute.shownSecond = 0 := by
  simp [shownSecond, wholeMinute]

theorem wholeMinute_eq_shownTime_iff {t : TimeOfDay} : t.wholeMinute = t.shownTime ↔ t.shownSecond = 0 := by
  simp only [wholeMinute, shownTime, TimeOfDay.mk.injEq, true_and]
  split
  · omega
  · omega

theorem shownTime_wholeMinute (t : TimeOfDay) : t.wholeMinute.shownTime = t.wholeMinute :=
  (wholeMinute_eq_shownTime_iff.mpr t.shownSecond_wholeMinute).symm

end TimeOfDay

namespace CastKind

/-! ## What is shown -/

/-- The text that the stock format shows. -/
def shownChars : CastKind → DateTime → List Char
  | date, dt => dt.date.shortChars
  | dateTime, dt =>
    dt.date.shortChars ++ ' ' :: (Date.twoDigits (Pattern.halfDayHour dt.time) ++ ':' ::
      (Date.twoDigits dt.time.minute ++ ' ' :: if dt.time.hour < 12 then ['A', 'M'] else ['P', 'M']))

/-- `shownChars` as a text. -/
def shownText (kind : CastKind) (dt : DateTime) : String :=
  String.ofList (kind.shownChars dt)

/-- The date and time that is read from the text that is shown. -/
def reentered : CastKind → DateTime → DateTime
  | date, dt => .atMidnight dt.date.recent
  | dateTime, dt => ⟨dt.date.recent, dt.time.wholeMinute⟩

open Pattern in
/-- The elements of the stock format for showing. -/
def shownItems : CastKind → Pattern
  | date => [zeroed .day, mark '/', zeroed .month, mark '/', zeroed .yearOfCentury]
  | dateTime =>
    [zeroed .day, mark '/', zeroed .month, mark '/', zeroed .yearOfCentury, .gap [' '], zeroed .halfDayHour,
      mark ':', zeroed .minute, .gap [' '], .fixed .upperHalfDay]

theorem read?_stockShownFormat (kind : CastKind) :
    Pattern.read? kind.stockShownFormat.toList = some kind.shownItems := by
  cases kind
  all_goals decide +kernel

end CastKind

namespace DateFields

/-- The fields of a date that is written without its century. -/
def ofShortDate (d : Date) : DateFields where
  day := some (d.day : Int)
  month := some (d.month : Int)
  yearOfCentury := some ((d.year % 100).toNat : Int)

/-- From the year of the century alone the recent year is made. -/
theorem resolveYear_yearOfCentury (year : Int) :
    resolveYear none none (some ((year % 100).toNat : Int)) = .ok (some (recentYear year)) := by
  have hmod : ((year % 100).toNat : Int) = year % 100 := Int.toNat_of_nonneg (by omega)
  rw [hmod]
  rfl

theorem matchesYear_recentYear (year : Int) :
    matchesYear none none (some ((year % 100).toNat : Int)) (recentYear year) = true := by
  obtain ⟨hlow, -⟩ := recentYear_bounds year
  have hmod : ((year % 100).toNat : Int) = recentYear year % 100 := by
    rw [recentYear_emod]
    exact Int.toNat_of_nonneg (by omega)
  simp [matchesYear, matchesField, hmod, show ¬ recentYear year < 0 by omega]

/-- The hour zero is the twelfth on a clock of twelve hours. -/
theorem halfDayHour_bounds (t : TimeOfDay) :
    1 ≤ Pattern.halfDayHour t ∧ Pattern.halfDayHour t ≤ 12 ∧ Pattern.halfDayHour t % 12 = t.hour % 12 := by
  rw [Pattern.halfDayHour]
  split <;> omega

/-- The hour on a clock of twelve hours is the hour of the half of the day. -/
theorem setHalfDayHour_halfDayHour {f : DateFields} (hempty : f.halfDayHour = none) (t : TimeOfDay) :
    f.setHalfDayHour (Pattern.halfDayHour t) =
      .ok { f with halfDayHour := some ((t.hour % 12 : Nat) : Int) } := by
  have hclock := halfDayHour_bounds t
  have hwithin : (1 : Int) ≤ Pattern.halfDayHour t ∧ (Pattern.halfDayHour t : Int) ≤ 12 := by omega
  have hset := bind_within hwithin
    fun value => do return { f with halfDayHour := ← agree f.halfDayHour (value % 12) }
  rw [hempty, show (Pattern.halfDayHour t : Int) % 12 = ((t.hour % 12 : Nat) : Int) by omega] at hset
  rw [setHalfDayHour, hempty]
  exact hset

/-- The half of the day is the half of the hour. -/
theorem setHalf_hour {f : DateFields} (hempty : f.half = none) (t : TimeOfDay) :
    f.setHalf (decide (12 ≤ t.hour)) = .ok { f with half := some ((t.hour / 12 : Nat) : Int) } := by
  have hbounds := t.bounds
  have hhalf : (if decide (12 ≤ t.hour) = true then (1 : Int) else 0) = ((t.hour / 12 : Nat) : Int) := by
    split
    · next h => rw [decide_eq_true_eq] at h; omega
    · next h => rw [decide_eq_true_eq] at h; omega
  rw [setHalf, hempty, hhalf]
  rfl

end DateFields

/-- The fields of a shown text. -/
def CastKind.shownFields : CastKind → DateTime → DateFields
  | .date, dt => .ofShortDate dt.date
  | .dateTime, dt =>
    { DateFields.ofShortDate dt.date with
      half := some ((dt.time.hour / 12 : Nat) : Int)
      halfDayHour := some ((dt.time.hour % 12 : Nat) : Int)
      minute := some (dt.time.minute : Int) }

namespace Pattern

variable {dt : DateTime} {rest text : List Char} {items : Pattern} {g : DateFields}

/-- A date without its century is recovered from the beginning of a shown text. -/
theorem recovers_shortDate (more : Recovers dt rest items text (.ofShortDate dt.date) g) :
    Recovers dt rest (zeroed .day :: mark '/' :: zeroed .month :: mark '/' :: zeroed .yearOfCentury :: items)
      (dt.date.shortChars ++ text) {} g := by
  obtain ⟨-, hmonth, hday⟩ := bounds_of_isDate dt.date.exists_day
  have hchars : dt.date.shortChars ++ text = Date.twoDigits dt.date.day ++ (['/'] ++
      (Date.twoDigits dt.date.month ++ (['/'] ++ (Date.twoDigits (dt.date.year % 100).toNat ++ text)))) := by
    simp [Date.shortChars]
  rw [hchars]
  refine .bounded rfl rfl rfl (by omega) (by omega) rfl (.literal ['/'] ?_)
  refine .bounded rfl rfl rfl (by omega) (by omega) rfl (.literal ['/'] ?_)
  exact .bounded rfl rfl rfl (by omega) (by omega) rfl more

/-- A shown text is recovered whole. -/
theorem recovers_shown (kind : CastKind) (dt : DateTime) :
    Recovers dt [] kind.shownItems (kind.shownChars dt) {} (kind.shownFields dt) := by
  obtain ⟨hhour, hminute, -⟩ := dt.time.bounds
  have hclock := DateFields.halfDayHour_bounds dt.time
  have hsmall : halfDayHour dt.time < 100 := by omega
  cases kind with
  | date =>
    have hdone : Recovers dt [] [] [] (.ofShortDate dt.date) (.ofShortDate dt.date) := .done _
    have h := recovers_shortDate hdone
    rwa [List.append_nil] at h
  | dateTime =>
    refine recovers_shortDate (.gap [' '] isBlank_of_mem_space ?_ ?_)
    · rw [List.append_nil]
      exact endsRun_isBlank_twoDigits _ _
    refine .twoDigits (congrArg some (writeTwo_zero hsmall)) rfl hsmall
      (DateFields.setHalfDayHour_halfDayHour rfl dt.time) (.literal [':'] ?_)
    refine .bounded rfl rfl rfl (by omega) (by omega) rfl (.gap [' '] isBlank_of_mem_space ?_ ?_)
    · exact endsRun_isBlank_half _ _
    exact .half_last (DateFields.setHalf_hour rfl dt.time)

end Pattern

namespace CastKind

variable (kind : CastKind) (dt : DateTime)

/-- The stock format for showing writes the shown text. -/
theorem format?_stockShownFormat : dt.format? kind.stockShownFormat = some (kind.shownText dt) :=
  Pattern.format?_of_recovers kind.read?_stockShownFormat (Pattern.recovers_shown kind dt)

theorem readLenient?_shownText :
    DateTime.readLenient? (kind.shownText dt) kind.stockShownFormat = some (kind.reentered dt) := by
  have hfields : Pattern.fields? kind.stockShownFormat (kind.shownText dt).toList =
      some (kind.shownFields dt) := by
    rw [shownText, String.toList_ofList]
    exact Pattern.fields?_of_recovers kind.read?_stockShownFormat (Pattern.recovers_shown kind dt)
  have hdate : (kind.shownFields dt).date = .ok dt.date.recent := by
    have hfull := DateFields.resolveYear_yearOfCentury dt.date.year
    have hyear := DateFields.matchesYear_recentYear dt.date.year
    cases kind
    all_goals
      exact DateFields.date_of_fields (d := dt.date.recent) ⟨rfl, rfl, rfl, rfl, rfl, rfl, rfl, rfl⟩ hfull hyear
        rfl rfl
  cases kind with
  | date => exact DateTime.readLenient?_of_date hfields hdate rfl rfl
  | dateTime =>
    have hsecond : ((0 : Nat) : Int) = dt.time.wholeMinute.shownSecond := by
      rw [TimeOfDay.shownSecond_wholeMinute]
    have htime : (dateTime.shownFields dt).time = .ok dt.time.wholeMinute.shownTime :=
      DateFields.time_of_fields rfl rfl rfl hsecond rfl
    rw [TimeOfDay.shownTime_wholeMinute] at htime
    exact DateTime.readLenient?_of_dateTime hfields hdate htime rfl

theorem slash_mem_shownText : '/' ∈ (kind.shownText dt).toList := by
  have hdate : '/' ∈ dt.date.shortChars := by simp [Date.shortChars]
  rw [shownText, String.toList_ofList]
  cases kind with
  | date => exact hdate
  | dateTime => exact List.mem_append_left _ hdate

/-- **A shown text is a recent date**, at a whole minute. -/
theorem ofText?_shownText :
    DateInput.ofText? (kind.shownText dt) kind.stockShownFormat = some (kind.reentered dt) := by
  rw [DateInput.ofText?_of_not_isDigit (kind.slash_mem_shownText dt) (by decide),
    kind.readLenient?_shownText dt, Option.some_or]

@[simp] theorem storedText_kept : kind.storedText (kind.kept dt) = kind.storedText dt := by
  cases kind with
  | date => rfl
  | dateTime => simp only [storedText, storedChars, kept, TimeOfDay.shownSecond_shownTime]; rfl

@[simp] theorem shownText_kept : kind.shownText (kind.kept dt) = kind.shownText dt := by
  cases kind <;> rfl

@[simp] theorem shownText_reentered : kind.shownText (kind.reentered dt) = kind.shownText dt := by
  rw [shownText, shownText]
  cases kind with
  | date => exact congrArg String.ofList dt.date.shortChars_recent
  | dateTime => simp only [shownChars, reentered, Date.shortChars_recent]; rfl

/-- Stored texts tell apart what is kept. -/
theorem storedText_inj {dt dt' : DateTime} :
    kind.storedText dt = kind.storedText dt' ↔ kind.kept dt = kind.kept dt' := by
  constructor
  · intro h
    have hread := kind.ofText?_storedText dt
    rw [h, ofText?_storedText, Option.some.injEq] at hread
    exact hread.symm
  · intro h
    rw [← storedText_kept, h, storedText_kept]

/-- What is kept of a date that was shown and entered again is what was kept of it, if it was a recent
date at a whole minute. -/
theorem kept_reentered_iff :
    kind.kept (kind.reentered dt) = kind.kept dt ↔
      1970 ≤ dt.date.year ∧ dt.date.year ≤ 2069 ∧ (kind = .dateTime → dt.time.shownSecond = 0) := by
  rw [← and_assoc, ← Date.recent_eq_self_iff]
  cases kind with
  | date => simp [kept, reentered, DateTime.atMidnight]
  | dateTime =>
    simp [kept, reentered, TimeOfDay.shownTime_wholeMinute, TimeOfDay.wholeMinute_eq_shownTime_iff]

end CastKind

namespace TextCast

/-- The cast of the stock settings that parses what is entered. -/
def stockParsing (kind : CastKind) : TextCast :=
  ofSettings {} kind .parsed

theorem storesParsed_stockParsing (kind : CastKind) : (stockParsing kind).formats.StoresParsed :=
  storesParsed_of_parses kind rfl rfl

theorem kind_stockParsing (kind : CastKind) : (stockParsing kind).formats.kind = kind := rfl

theorem getFormat_stockParsing (kind : CastKind) :
    (stockParsing kind).formats.getFormat = kind.stockShownFormat := by
  cases kind <;> rfl

theorem setFormat_stockParsing (kind : CastKind) :
    (stockParsing kind).formats.setFormat = kind.stockShownFormat := by
  cases kind <;> rfl

theorem get_stockParsing (kind : CastKind) (dt : DateTime) :
    (stockParsing kind).get (kind.storedText dt) = some (kind.shownText dt) := by
  have hget := get_storedText (storesParsed_stockParsing kind) dt
  rw [getFormat_stockParsing, kind_stockParsing, CastKind.format?_stockShownFormat,
    CastKind.shownText_kept] at hget
  exact hget

theorem set_stockParsing (kind : CastKind) (dt : DateTime) :
    (stockParsing kind).set (.text (kind.shownText dt)) = some (kind.storedText (kind.reentered dt)) := by
  rw [set_eq (storesParsed_stockParsing kind), setFormat_stockParsing, kind_stockParsing,
    DateInput.toDateTime?, CastKind.ofText?_shownText, Option.map_some]

/-- **Saving what is shown** does not change what is shown.  By the stock formats every stored text is
shown, and the shown text is stored when it is entered, and shown again.  What is stored is unchanged
exactly for the years from 1970 to 2069 and, of a date and time, for whole minutes. -/
theorem get_set_get (kind : CastKind) (dt : DateTime) :
    ∃ stored shown saved, dt.format? (stockParsing kind).formats.storageFormat = some stored ∧
      (stockParsing kind).get stored = some shown ∧
      (stockParsing kind).set (.text shown) = some saved ∧
      (stockParsing kind).get saved = some shown ∧
      (saved = stored ↔
        1970 ≤ dt.date.year ∧ dt.date.year ≤ 2069 ∧ (kind = .dateTime → dt.time.shownSecond = 0)) := by
  refine ⟨kind.storedText dt, kind.shownText dt, kind.storedText (kind.reentered dt), ?_,
    get_stockParsing kind dt, set_stockParsing kind dt, ?_, ?_⟩
  · rw [(storesParsed_stockParsing kind).storage]
    exact kind.format?_stockStorageFormat dt
  · rw [get_stockParsing, CastKind.shownText_reentered]
  · rw [CastKind.storedText_inj, CastKind.kept_reentered_iff]

end TextCast
end RequestQuery
