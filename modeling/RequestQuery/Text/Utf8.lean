/-! # Bytes as characters

Bytes that need not be a text are read as a sequence of symbols: the characters
that are encoded, and a gap for every byte that belongs to none.
`symbols_toByteArray` says that the bytes of a text are its characters and leave
no gap.
-/
namespace RequestQuery
namespace Text

/-- A character, or none for a byte that is part of no character. -/
abbrev Symbol := Option Char

/-- The symbols of the bytes from a place on. -/
def symbolsFrom (bytes : ByteArray) (start : Nat) : List Symbol :=
  if start < bytes.size then
    match bytes.utf8DecodeChar? start with
    | some c => some c :: symbolsFrom bytes (start + c.utf8Size)
    | none => none :: symbolsFrom bytes (start + 1)
  else []
termination_by bytes.size - start
decreasing_by
  · have := c.utf8Size_pos
    omega
  · omega

/-- The symbols of some bytes. -/
def symbols (bytes : ByteArray) : List Symbol :=
  symbolsFrom bytes 0

/-- Behind the bytes of some characters stand the symbols of the rest. -/
theorem symbolsFrom_utf8Encode (before after : List Char) :
    symbolsFrom (before ++ after).utf8Encode before.utf8Encode.size = after.map some := by
  induction after generalizing before with
  | nil => rw [symbolsFrom, List.append_nil, if_neg (Nat.lt_irrefl _), List.map_nil]
  | cons c rest ih =>
    have size : (before ++ [c]).utf8Encode.size = before.utf8Encode.size + c.utf8Size := by
      simp [List.utf8Encode_append, List.utf8Encode_singleton]
    have inside : before.utf8Encode.size < (before ++ c :: rest).utf8Encode.size := by
      have := c.utf8Size_pos
      rw [List.append_cons, List.utf8Encode_append, ByteArray.size_append, size]
      omega
    have decoded : (before ++ c :: rest).utf8Encode.utf8DecodeChar? before.utf8Encode.size = some c := by
      rw [ByteArray.utf8DecodeChar?_eq_utf8DecodeChar?_extract, List.utf8Encode_append,
        ByteArray.extract_append_eq_right rfl (by simp), List.utf8DecodeChar?_utf8Encode_cons]
    rw [symbolsFrom, if_pos inside, decoded, List.map_cons]
    have := ih (before ++ [c])
    rw [List.append_assoc, List.singleton_append, size] at this
    simp only [this]

/-- The bytes of a text leave no gap. -/
theorem symbols_toByteArray (s : String) : symbols s.toByteArray = s.toList.map some := by
  have := symbolsFrom_utf8Encode [] s.toList
  simpa [symbols] using this

/-! ## Fronts -/

/-- The longest front of characters with a property, and the symbols behind it. -/
def charsWhile (p : Char → Bool) : List Symbol → List Char × List Symbol
  | some c :: rest =>
    if p c then
      let (front, rest) := charsWhile p rest
      (c :: front, rest)
    else ([], some c :: rest)
  | rest => ([], rest)

theorem charsWhile_map_some (p : Char → Bool) (s : List Char) :
    charsWhile p (s.map some) = (s.takeWhile p, (s.dropWhile p).map some) := by
  induction s with
  | nil => rfl
  | cons c rest ih => by_cases h : p c <;> simp [charsWhile, h, ih]

/-- Nothing is lost between the front and what is behind it. -/
theorem length_charsWhile (p : Char → Bool) (s : List Symbol) :
    (charsWhile p s).1.length + (charsWhile p s).2.length = s.length := by
  fun_induction charsWhile p s with
  | case1 c rest h front behind he ih =>
    rw [he] at ih
    simp only [List.length_cons] at ih ⊢
    omega
  | case2 => simp
  | case3 => simp

end Text
end RequestQuery
