import RequestQuery.Text.CaseTable

/-! # Letter case

Operator codes, aliases and setting names are compared in lower case, for all
of Unicode.  Lower case is a letter-by-letter matter with two exceptions: the
capital dotted I becomes two characters, and a capital sigma becomes the final
sigma at the end of a word.  Upper case may turn one letter into several.
-/
namespace RequestQuery
namespace Text

/-! ## One letter -/

/-- The partner of a code point in a list of runs; a code point outside all runs is its own partner. -/
def partner (runs : List CaseRun) (code : Nat) : Nat :=
  match runs.find? (·.covers code) with
  | some run => run.apply code
  | none => code

/-- The lower case of a letter that has a single character as its lower case. -/
def lowerChar (c : Char) : Char :=
  if c.toNat < 0x80 then c.toLower else Char.ofNat (partner lowerRuns c.toNat)

/-- The upper case of a letter. -/
def upperChar (c : Char) : List Char :=
  if c.toNat < 0x80 then [c.toUpper]
  else match upperSequences.lookup c.toNat with
    | some codes => codes.map Char.ofNat
    | none => [Char.ofNat (partner upperRuns c.toNat)]

/-! ## Words -/

/-- Whether the nearest character that is not looked through has case. -/
def meetsCased (s : List Char) : Bool :=
  match s.dropWhile fun c => inRanges caseIgnorableRanges c.toNat with
  | [] => false
  | c :: _ => inRanges casedRanges c.toNat

/-- A capital sigma ends a word when a letter stands before it and none after it.  The text before
it is given in reverse. -/
def endsWord (reversedBefore after : List Char) : Bool :=
  meetsCased reversedBefore && !meetsCased after

/-- The lower case of the text `s`, where `reversedBefore` is what stands before it, reversed. -/
def lowerAfter (reversedBefore : List Char) : List Char → List Char
  | [] => []
  | c :: rest =>
    let lowered :=
      if c.toNat == 0x3A3 then [if endsWord reversedBefore rest then 'ς' else 'σ']
      else if c.toNat == 0x130 then ['i', Char.ofNat 0x307]
      else [lowerChar c]
    lowered ++ lowerAfter (c :: reversedBefore) rest

/-- The lower case of a text.  Codes and names are compared in this form, trimmed by whoever compares. -/
def lower (s : String) : String :=
  String.ofList (lowerAfter [] s.toList)

/-- The upper case of a text. -/
def upper (s : String) : String :=
  String.ofList (s.toList.flatMap upperChar)

/-- The upper case of the ASCII letters of a text, everything else kept. -/
def upperAscii (s : String) : String :=
  String.ofList (s.toList.map Char.toUpper)

/-- Equality of texts up to the case of ASCII letters. -/
def sameIgnoringAsciiCase (a b : String) : Bool :=
  a.toList.map Char.toLower == b.toList.map Char.toLower

end Text
end RequestQuery
