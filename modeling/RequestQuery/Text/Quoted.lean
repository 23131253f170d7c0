import RequestQuery.Text.CaseTable
import RequestQuery.Text.Digits
import RequestQuery.Text.HiddenTable

/-! # Quoted texts

A text that is shown to a developer stands in double quotes, and every character
of it can be seen: quotes and backslashes are escaped, and hidden characters are
given by their code points.
-/
namespace RequestQuery
namespace Text

/-- The hexadecimal digits of a number, without leading zeros. -/
def hexadecimal (n : Nat) : List Char :=
  let last := n % 16
  let digit := if last < 10 then digitChar last else Char.ofNat ('a'.toNat + (last - 10))
  if n < 16 then [digit] else hexadecimal (n / 16) ++ [digit]

/-- A character as it stands between the quotes. -/
def shownChar (c : Char) : List Char :=
  match c with
  | '"' => ['\\', '"']
  | '\\' => ['\\', '\\']
  | '\n' => ['\\', 'n']
  | '\r' => ['\\', 'r']
  | '\t' => ['\\', 't']
  | '\x00' => ['\\', '0']
  | c =>
    if ' ' ≤ c && c ≤ '~' then [c]
    else if inRanges hiddenRanges c.toNat then
      '\\' :: 'u' :: '\x7b' :: (hexadecimal c.toNat ++ ['\x7d'])
    else [c]

/-- A text in quotes. -/
def quoted (s : String) : String :=
  String.ofList ('"' :: (s.toList.flatMap shownChar ++ ['"']))

end Text
end RequestQuery
