import RequestQuery.Proofs.Calendar.NumericField

/-! # Patterns of day, month and year

The simplest patterns of dates ask for a day, a month or a year, each part as a
number, with some other text between two of them.  What such a pattern writes is
what its parts write, with that text between them (`DatePattern.format?_text`).
When it reads, each part is set to a number that is in its range
(`Pattern.readPart_of_inRange`).
-/
namespace RequestQuery

/-! ## Dates that exist -/

theorem daysInMonth_le (year : Int) (month : Nat) : daysInMonth year month ≤ 31 := by
  unfold daysInMonth
  split
  all_goals first
    | omega
    | split <;> omega

theorem month_of_daysInMonth {year : Int} {month : Nat} (h : 0 < daysInMonth year month) :
    1 ≤ month ∧ month ≤ 12 := by
  unfold daysInMonth at h
  split at h
  all_goals omega

/-- The bounds of a year, a month and a day of a date. -/
theorem bounds_of_isDate {year : Int} {month day : Nat} (h : isDate year month day = true) :
    (-262143 ≤ year ∧ year ≤ 262142) ∧ (1 ≤ month ∧ month ≤ 12) ∧ 1 ≤ day ∧ day ≤ 31 := by
  simp only [isDate, Bool.and_eq_true, decide_eq_true_eq] at h
  obtain ⟨⟨hyear, hfirst⟩, hlast⟩ := h
  exact ⟨hyear, month_of_daysInMonth (Nat.lt_of_lt_of_le hfirst hlast), hfirst,
    hlast.trans (daysInMonth_le year month)⟩

/-! ## Parts and what they write -/

/-- A part of a date. -/
inductive DatePart where
  | day
  | month
  | year
  deriving DecidableEq, Repr

namespace DatePart

/-- The letter that asks for a part. -/
def letter : DatePart → Char
  | day => 'd'
  | month => 'm'
  | year => 'Y'

/-- The field that a part is. -/
def field : DatePart → NumericField
  | day => .day
  | month => .month
  | year => .year

/-- How a part is written: two digits, or a year with as many digits as it needs. -/
def written (year : Int) (month day : Nat) : DatePart → List Char
  | .day => Date.twoDigits day
  | .month => Date.twoDigits month
  | .year => Date.yearDigits year

/-- The number that a part is. -/
def value (year : Int) (month day : Nat) : DatePart → Int
  | .day => day
  | .month => month
  | .year => year

/-- The least value that a part is set to. -/
def least : DatePart → Int
  | .day => 1
  | .month => 1
  | .year => -2147483648

/-- The greatest value that a part is set to. -/
def greatest : DatePart → Int
  | .day => 31
  | .month => 12
  | .year => 2147483647

/-- The value of a part among the fields that were read. -/
def get (f : DateFields) : DatePart → Option Int
  | .day => f.day
  | .month => f.month
  | .year => f.year

/-- The fields with another value of a part. -/
def put (f : DateFields) (value : Option Int) : DatePart → DateFields
  | .day => { f with day := value }
  | .month => { f with month := value }
  | .year => { f with year := value }

/-- Whether a part can be set. -/
def InRange (year : Int) (month day : Nat) (part : DatePart) : Prop :=
  part.least ≤ part.value year month day ∧ part.value year month day ≤ part.greatest

end DatePart

/-- A text that can stand between two parts: it is not empty, and has no blank, no digit and nothing
that would begin a specifier. -/
structure Separator where
  text : List Char
  ne_nil : text ≠ []
  plain : ∀ c ∈ text, c ≠ '%' ∧ c.isDigit = false ∧ Text.isBlank c = false

/-- A separator of one character. -/
def Separator.ofChar (c : Char) (h : c ≠ '%' ∧ c.isDigit = false ∧ Text.isBlank c = false) :
    Separator where
  text := [c]
  ne_nil := List.cons_ne_nil c []
  plain := List.forall_mem_singleton.mpr h

/-- A pattern of parts with separators between them. -/
structure DatePattern where
  first : DatePart
  rest : List (Separator × DatePart)

namespace DatePattern

/-- The text of the separators and parts behind the first part. -/
def restText : List (Separator × DatePart) → List Char
  | [] => []
  | (s, part) :: rest => s.text ++ '%' :: part.letter :: restText rest

/-- What the separators and parts behind the first part write. -/
def restWritten (year : Int) (month day : Nat) : List (Separator × DatePart) → List Char
  | [] => []
  | (s, part) :: rest => s.text ++ (part.written year month day ++ restWritten year month day rest)

/-- The elements of the separators and parts behind the first part. -/
def restItems : List (Separator × DatePart) → Pattern
  | [] => []
  | (s, part) :: rest => .literal s.text :: Pattern.zeroed part.field :: restItems rest

/-- The parts in their order. -/
def parts (p : DatePattern) : List DatePart :=
  p.first :: p.rest.map Prod.snd

/-- The pattern as a text. -/
def text (p : DatePattern) : String :=
  String.ofList ('%' :: p.first.letter :: restText p.rest)

/-- What a pattern writes for a year, a month and a day, whether or not there is such a date. -/
def written (p : DatePattern) (year : Int) (month day : Nat) : String :=
  String.ofList (p.first.written year month day ++ restWritten year month day p.rest)

/-- The elements of a pattern. -/
def items (p : DatePattern) : Pattern :=
  Pattern.zeroed p.first.field :: restItems p.rest

end DatePattern

/-! ## The elements of a pattern -/

namespace Pattern

theorem read?_nil : read? [] = some [] := by
  rw [read?]

theorem read?_part (part : DatePart) (s : List Char) :
    read? ('%' :: part.letter :: s) = (read? s).map (zeroed part.field :: ·) := by
  have hspecifier : specifier? (part.letter :: s) = some ([zeroed part.field], s) := by
    cases part <;> rfl
  rw [read?, if_pos rfl]
  split
  · next h =>
    rw [hspecifier] at h
    cases h
  · next h =>
    rw [hspecifier] at h
    cases h
    rfl

theorem read?_cons {c : Char} (h : c ≠ '%') (s : List Char) :
    read? (c :: s) = (read? s).map (prepend c) := by
  rw [read?, if_neg h]

theorem prepend_zeroed {c : Char} (h : Text.isBlank c = false) (field : NumericField) (more : Pattern) :
    prepend c (zeroed field :: more) = .literal [c] :: zeroed field :: more := by
  show (if Text.isBlank c then _ else _) = _
  rw [h, if_neg Bool.false_ne_true]

theorem prepend_literal {c : Char} (h : Text.isBlank c = false) (text : List Char) (more : Pattern) :
    prepend c (.literal text :: more) = .literal (c :: text) :: more := by
  show (if Text.isBlank c then _ else _) = _
  rw [h, if_neg Bool.false_ne_true]

/-- A separator before a part is one literal. -/
theorem read?_separator (s : Separator) {rest : List Char} {field : NumericField} {more : Pattern}
    (h : read? rest = some (zeroed field :: more)) :
    read? (s.text ++ rest) = some (.literal s.text :: zeroed field :: more) := by
  obtain ⟨text, hne, hplain⟩ := s
  simp only
  induction text with
  | nil => exact absurd rfl hne
  | cons c text ih =>
    obtain ⟨⟨hpercent, -, hblank⟩, htext⟩ := List.forall_mem_cons.mp hplain
    rw [List.cons_append, read?_cons hpercent]
    cases text with
    | nil =>
      rw [List.nil_append, h, Option.map_some, prepend_zeroed hblank]
    | cons d text =>
      rw [ih (List.cons_ne_nil d text) htext, Option.map_some, prepend_literal hblank]

theorem read?_restText (rest : List (Separator × DatePart)) :
    read? (DatePattern.restText rest) = some (DatePattern.restItems rest) := by
  induction rest with
  | nil => exact read?_nil
  | cons entry rest ih => exact read?_separator entry.1 (by rw [read?_part, ih, Option.map_some])

/-- The elements of a pattern are its parts and separators. -/
theorem read?_text (p : DatePattern) : read? p.text.toList = some p.items := by
  rw [DatePattern.text, String.toList_ofList, read?_part, read?_restText]
  rfl

/-! ## Writing -/

theorem write?_cons {date : Option Date} {time : Option TimeOfDay} {item : PatternItem}
    {text more : List Char} {rest : Pattern} (h : writeItem? date time item = some text)
    (hrest : write? date time rest = some more) :
    write? date time (item :: rest) = some (text ++ more) := by
  rw [write?, h, hrest]
  rfl

theorem writeItem?_part (d : Date) (part : DatePart) :
    writeItem? (some d) none (zeroed part.field) = some (part.written d.year d.month d.day) := by
  obtain ⟨-, hmonth, hday⟩ := bounds_of_isDate d.exists_day
  cases part with
  | day => exact congrArg some (writeTwo_zero (by omega))
  | month => exact congrArg some (writeTwo_zero (by omega))
  | year => exact congrArg some (writeYear_zero d.year)

theorem write?_restItems (d : Date) (rest : List (Separator × DatePart)) :
    write? (some d) none (DatePattern.restItems rest) =
      some (DatePattern.restWritten d.year d.month d.day rest) := by
  induction rest with
  | nil => rfl
  | cons entry rest ih => exact write?_cons rfl (write?_cons (writeItem?_part d entry.2) ih)

end Pattern

/-- **What a pattern writes.**  A date is written part by part. -/
theorem DatePattern.format?_text (p : DatePattern) (d : Date) :
    d.format? p.text = some (p.written d.year d.month d.day) := by
  have hwrite := Pattern.write?_cons (Pattern.writeItem?_part d p.first) (Pattern.write?_restItems d p.rest)
  rw [Date.format?, Pattern.read?_text, Option.bind_eq_bind, Option.bind_some, items, hwrite]
  rfl

namespace Pattern

/-! ## Reading -/

variable {year : Int} {month day : Nat}

/-- Sets the field of a part. -/
def readPart (year : Int) (month day : Nat) (f : DateFields) (part : DatePart) : Option DateFields :=
  (setNumeric part.field (part.value year month day) f).toOption

/-- A part is set if its value is in range and agrees with the one that was read before. -/
theorem setNumeric_part (part : DatePart) (value : Int) (f : DateFields) :
    setNumeric part.field value f = (do
      let value ← DateFields.within part.least part.greatest value
      return part.put f (← DateFields.agree (part.get f) value)) := by
  cases part <;> rfl

theorem readPart_of_inRange {part : DatePart} (h : part.InRange year month day) {f : DateFields}
    (hempty : part.get f = none) :
    readPart year month day f part = some (part.put f (some (part.value year month day))) := by
  obtain ⟨hleast, hgreatest⟩ := h
  rw [readPart, setNumeric_part, DateFields.within, if_pos ⟨hleast, hgreatest⟩, hempty]
  rfl

theorem readPart_of_not_inRange {part : DatePart} (h : ¬ part.InRange year month day) (f : DateFields) :
    readPart year month day f part = none := by
  rw [DatePart.InRange] at h
  rw [readPart, setNumeric_part, DateFields.within, if_neg h]
  rfl

theorem scan?_cons {item : PatternItem} {s s' : List Char} {f : DateFields} {read : Option DateFields}
    (h : scanItem? item s f = read.map (·, s')) (rest : Pattern) :
    scan? (item :: rest) s f = read.bind fun f => scan? rest s' f := by
  show ((scanItem? item s f).bind fun found => scan? rest found.2 found.1) = _
  rw [h]
  cases read <;> rfl

theorem scanItem?_literal (text rest : List Char) (f : DateFields) :
    scanItem? (.literal text) (text ++ rest) f = (some f).map (·, rest) := by
  rw [scanItem?, Text.after?_append]
  rfl

end Pattern
end RequestQuery
