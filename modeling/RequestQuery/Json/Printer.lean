import RequestQuery.Json.Value
import RequestQuery.Number.Shortest

/-! # Printing values

Values are written without blanks.  Inside a quoted text only the quote, the
backslash and the characters below the space are escaped; the five of them that
have a short escape use it.
-/
namespace RequestQuery
namespace Json

/-- A hexadecimal digit in lower case. -/
def hexDigit (d : Nat) : Char :=
  if d < 10 then Text.digitChar d else Char.ofNat ('a'.toNat + (d - 10))

/-- A character as it stands inside a quoted text. -/
def escapeChar (c : Char) : List Char :=
  match c with
  | '"' => ['\\', '"']
  | '\\' => ['\\', '\\']
  | '\x08' => ['\\', 'b']
  | '\x0c' => ['\\', 'f']
  | '\n' => ['\\', 'n']
  | '\r' => ['\\', 'r']
  | '\t' => ['\\', 't']
  | c =>
    if c.toNat < 0x20 then ['\\', 'u', '0', '0', hexDigit (c.toNat / 16), hexDigit (c.toNat % 16)]
    else [c]

/-- A text in quotes. -/
def quote (s : String) : List Char :=
  '"' :: (s.toList.flatMap escapeChar ++ ['"'])

/-- The text of a number. -/
def numberText : Number → List Char
  | .integer i => Text.signedDecimal i
  | .real x => (Decimal.ofBinary64 x).documentText

mutual

/-- The characters of a printed value. -/
def chars : Json → List Char
  | null => ['n', 'u', 'l', 'l']
  | bool true => ['t', 'r', 'u', 'e']
  | bool false => ['f', 'a', 'l', 's', 'e']
  | number n => numberText n
  | string s => quote s
  | array items => '[' :: (itemChars true items ++ [']'])
  | object members => '\x7b' :: (memberChars true members ++ ['\x7d'])

/-- The items of an array, a comma before each but the first. -/
def itemChars (first : Bool) : List Json → List Char
  | [] => []
  | item :: rest => (if first then [] else [',']) ++ chars item ++ itemChars false rest

/-- The members of an object, a comma before each but the first. -/
def memberChars (first : Bool) : List (String × Json) → List Char
  | [] => []
  | (name, value) :: rest =>
    (if first then [] else [',']) ++ quote name ++ ':' :: chars value ++ memberChars false rest

end

/-- The text of a value. -/
def print (value : Json) : String :=
  String.ofList value.chars

end Json
end RequestQuery
