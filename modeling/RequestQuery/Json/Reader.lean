import RequestQuery.Json.Document
import RequestQuery.Json.Value

/-! # Interpreting documents

A written document becomes a value: escaped code units become characters,
numerals become numbers, and of members of one name the last counts.  A
document has no value when a code unit is half a character, when a byte is part
of no character, when a number would not be finite, or when containers are nested too deeply.
-/
namespace RequestQuery
namespace Json

/-- Containers may be nested this deeply in a document. -/
def depthLimit : Nat := 127

/-! ## Texts -/

/-- The code units that begin a pair. -/
def isLeadUnit (code : Nat) : Bool := 0xD800 ≤ code && code < 0xDC00

/-- The code units that end a pair. -/
def isTrailUnit (code : Nat) : Bool := 0xDC00 ≤ code && code < 0xE000

/-- The character of a pair of code units. -/
def pairChar (lead trail : Nat) : Char :=
  Char.ofNat (0x10000 + (lead - 0xD800) * 0x400 + (trail - 0xDC00))

/-- The characters of a quoted text.  A leading unit must be followed by a trailing one, and no byte may be
left over. -/
def chars? : List Letter → Option (List Char)
  | [] => some []
  | .char c :: rest => (chars? rest).map (c :: ·)
  | .stray :: _ => none
  | .unit lead :: .unit trail :: rest =>
    if isLeadUnit lead then
      if isTrailUnit trail then (chars? rest).map (pairChar lead trail :: ·) else none
    else if isTrailUnit lead then none
    else (chars? (.unit trail :: rest)).map (Char.ofNat lead :: ·)
  | .unit code :: rest =>
    if isLeadUnit code || isTrailUnit code then none
    else (chars? rest).map (Char.ofNat code :: ·)

/-- The text of a quoted text. -/
def text? (letters : List Letter) : Option String :=
  (chars? letters).map String.ofList

/-! ## Numbers -/

/-- Takes digits into a coefficient as long as it fits in 64 bits; the digits that do not are left. -/
def takeDigits (coefficient : Nat) : List Char → Nat × List Char
  | [] => (coefficient, [])
  | c :: rest =>
    let longer := 10 * coefficient + Text.digitValue c
    if longer < 0x10000000000000000 then takeDigits longer rest else (coefficient, c :: rest)

/-- The number of a numeral in a document.  An integer of 64 bits is kept exactly; the negative zero is
no integer.  Any other numeral is a coefficient of 64 bits scaled by a power of ten: whole digits that
do not fit only count as powers, digits of the fraction that do not fit do not count. -/
def number? (n : Numeral) : Option Number :=
  let (whole, skipped) := takeDigits 0 n.whole
  if n.plain && skipped.isEmpty && !n.negative then some (.integer whole)
  else if n.plain && skipped.isEmpty && 0 < whole && whole ≤ 0x8000000000000000 then
    some (.integer (-(whole : Int)))
  else
    let (coefficient, ignored) := takeDigits whole n.fraction
    let used := n.fraction.length - ignored.length
    (Binary64.scaled? n.negative coefficient (n.power + skipped.length - used)).map .real

/-! ## Values -/

mutual

/-- The value of a document whose containers may be nested `depth` deep. -/
def ofDocument? (depth : Nat) : Document → Option Json
  | .null => some .null
  | .bool b => some (.bool b)
  | .numeral n => (number? n).map .number
  | .text letters => (text? letters).map .string
  | .array items =>
    if depth = 0 then none else (ofItems? (depth - 1) items).map .array
  | .object members =>
    if depth = 0 then none else (ofEntries? (depth - 1) members).map ofMembers

/-- The values of the items of an array. -/
def ofItems? (depth : Nat) : List Document → Option (List Json)
  | [] => some []
  | item :: rest => do
    let item ← ofDocument? depth item
    let rest ← ofItems? depth rest
    return item :: rest

/-- The values of the members of an object, in the order in which they are written. -/
def ofEntries? (depth : Nat) : List (List Letter × Document) → Option (List (String × Json))
  | [] => some []
  | (letters, value) :: rest => do
    let name ← text? letters
    let value ← ofDocument? depth value
    let rest ← ofEntries? depth rest
    return (name, value) :: rest

end

/-- Reads a value that takes up the whole text. -/
def read? (s : String) : Option Json :=
  (Document.read? (s.toList.map some)).bind (ofDocument? depthLimit)

end Json
end RequestQuery
