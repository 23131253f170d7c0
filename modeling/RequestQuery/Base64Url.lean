/-! # Base64 for URLs

Three bytes are written as four characters of an alphabet that needs no
escaping in a URL; one or two bytes at the end are written as two or three
characters, without padding.  A reader takes only what a writer writes: the
bits that stand for nothing must be zero.
-/
namespace RequestQuery
namespace Base64Url

/-- The character of a number below 64. -/
def sextetChar (n : Nat) : Char :=
  if n < 26 then Char.ofNat ('A'.toNat + n)
  else if n < 52 then Char.ofNat ('a'.toNat + (n - 26))
  else if n < 62 then Char.ofNat ('0'.toNat + (n - 52))
  else if n = 62 then '-'
  else '_'

/-- The number of a character of the alphabet. -/
def sextet? (c : Char) : Option Nat :=
  if 'A' ≤ c && c ≤ 'Z' then some (c.toNat - 'A'.toNat)
  else if 'a' ≤ c && c ≤ 'z' then some (c.toNat - 'a'.toNat + 26)
  else if '0' ≤ c && c ≤ '9' then some (c.toNat - '0'.toNat + 52)
  else if c = '-' then some 62
  else if c = '_' then some 63
  else none

theorem sextet?_sextetChar : ∀ n : Fin 64, sextet? (sextetChar n) = some n.val := by
  decide

/-- The text of some bytes. -/
def encode : List UInt8 → List Char
  | [] => []
  | [a] =>
    let n := a.toNat * 16
    [sextetChar (n / 64), sextetChar (n % 64)]
  | [a, b] =>
    let n := (a.toNat * 256 + b.toNat) * 4
    [sextetChar (n / 4096), sextetChar (n / 64 % 64), sextetChar (n % 64)]
  | a :: b :: c :: rest =>
    let n := (a.toNat * 256 + b.toNat) * 256 + c.toNat
    sextetChar (n / 262144) :: sextetChar (n / 4096 % 64) :: sextetChar (n / 64 % 64) ::
      sextetChar (n % 64) :: encode rest

/-- The bytes of a sequence of numbers below 64. -/
def bytes? : List Nat → Option (List UInt8)
  | [] => some []
  | [_] => none
  | [p, q] =>
    let n := p * 64 + q
    if n % 16 = 0 then some [UInt8.ofNat (n / 16)] else none
  | [p, q, r] =>
    let n := (p * 64 + q) * 64 + r
    if n % 4 = 0 then some [UInt8.ofNat (n / 1024), UInt8.ofNat (n / 4 % 256)] else none
  | p :: q :: r :: s :: rest =>
    let n := ((p * 64 + q) * 64 + r) * 64 + s
    (bytes? rest).map fun more =>
      UInt8.ofNat (n / 65536) :: UInt8.ofNat (n / 256 % 256) :: UInt8.ofNat (n % 256) :: more

/-- The bytes of a text, if it is one that `encode` writes. -/
def decode? (s : List Char) : Option (List UInt8) :=
  (s.mapM sextet?).bind bytes?

/-- The text of the bytes of a string. -/
def encodeString (s : String) : String :=
  String.ofList (encode s.toByteArray.data.toList)

/-- The bytes that a string stands for. -/
def decodeString? (s : String) : Option ByteArray :=
  (decode? s.toList).map fun bytes => ⟨bytes.toArray⟩

end Base64Url
end RequestQuery
