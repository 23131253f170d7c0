import Mathlib.Data.List.Lex
import Mathlib.Data.String.Basic

/-! # The order of texts is the order of their bytes

Texts are compared character by character.  Comparing the bytes of their encoding
instead makes no difference (`lt_iff_bytes_lt`): a character is spelled with a
leading byte and digits of six bits, the larger the character the larger the
leading byte or, if that is the same, the digits.
-/
namespace RequestQuery
namespace Text

/-! ## The bytes of a character -/

/-- The bytes of a number that is spelled with some digits of six bits behind a leading byte. -/
def spell (mark : Nat) : Nat → Nat → List UInt8
  | 0, v => [UInt8.ofNat (v + mark)]
  | digits + 1, v => spell mark digits (v / 64) ++ [UInt8.ofNat (v % 64 + 128)]

theorem ofNat_lt_ofNat {a b : Nat} (hab : a < b) (hb : b < 256) : UInt8.ofNat a < UInt8.ofNat b := by
  rw [UInt8.lt_iff_toNat_lt, UInt8.toNat_ofNat_of_lt' (hab.trans hb), UInt8.toNat_ofNat_of_lt' hb]
  exact hab

/-- The leading byte comes first. -/
theorem spell_eq_cons (mark digits v : Nat) :
    ∃ more, spell mark digits v = UInt8.ofNat (v / 64 ^ digits + mark) :: more := by
  induction digits generalizing v with
  | zero => exact ⟨[], by rw [spell, Nat.pow_zero, Nat.div_one]⟩
  | succ digits ih =>
    obtain ⟨more, hmore⟩ := ih (v / 64)
    refine ⟨more ++ [UInt8.ofNat (v % 64 + 128)], ?_⟩
    rw [spell, hmore, Nat.div_div_eq_div_mul, Nat.pow_succ', List.cons_append]

/-- The smaller leading byte decides, whatever follows. -/
theorem spell_lt_of_mark {mark mark' digits digits' v w : Nat}
    (h : v / 64 ^ digits + mark < w / 64 ^ digits' + mark') (hw : w / 64 ^ digits' + mark' < 256)
    (s t : List UInt8) : spell mark digits v ++ s < spell mark' digits' w ++ t := by
  obtain ⟨more, hv⟩ := spell_eq_cons mark digits v
  obtain ⟨more', hw'⟩ := spell_eq_cons mark' digits' w
  rw [hv, hw', List.cons_append, List.cons_append, List.cons_lt_cons_iff]
  exact .inl (ofNat_lt_ofNat h hw)

/-- Of two numbers spelled alike, the smaller one comes first, whatever follows. -/
theorem spell_lt_spell {mark digits v w : Nat} (h : v < w) (hw : w / 64 ^ digits + mark < 256)
    (s t : List UInt8) : spell mark digits v ++ s < spell mark digits w ++ t := by
  induction digits generalizing v w s t with
  | zero => exact spell_lt_of_mark (by simpa using h) hw s t
  | succ digits ih =>
    rw [Nat.pow_succ', ← Nat.div_div_eq_div_mul] at hw
    rw [spell, spell, List.append_assoc, List.append_assoc]
    rcases Nat.lt_or_ge (v / 64) (w / 64) with hfront | hfront
    · exact ih hfront hw _ _
    · -- all digits but the last are the same
      have hsame : v / 64 = w / 64 := by omega
      have hlast : v % 64 + 128 < w % 64 + 128 := by omega
      rw [hsame]
      refine List.append_left_lt ?_
      rw [List.cons_append, List.cons_append, List.cons_lt_cons_iff]
      exact .inl (ofNat_lt_ofNat hlast (by omega))

theorem toNat_val_lt (c : Char) : c.val.toNat < 0x110000 := by
  have h := c.valid
  simp only [UInt32.isValidChar, Nat.isValidChar] at h
  omega

/-- How a character is spelled. -/
theorem utf8EncodeChar_eq_spell (c : Char) :
    String.utf8EncodeChar c =
      if c.val.toNat ≤ 127 then spell 0 0 c.val.toNat
      else if c.val.toNat ≤ 2047 then spell 192 1 c.val.toNat
      else if c.val.toNat ≤ 65535 then spell 224 2 c.val.toNat
      else spell 240 3 c.val.toNat := by
  have hvalid : c.val.toNat < 0x110000 := toNat_val_lt c
  simp only [String.utf8EncodeChar, spell, Nat.div_div_eq_div_mul, List.cons_append, List.nil_append]
  generalize c.val.toNat = v at hvalid ⊢
  split
  · rfl
  · split
    · rw [Nat.mod_eq_of_lt (b := 32) (by omega)]
    · split
      · rw [Nat.mod_eq_of_lt (b := 16) (by omega)]
      · rw [Nat.mod_eq_of_lt (b := 8) (by omega)]

/-- Of two characters the bytes of the smaller one come first, whatever follows. -/
theorem utf8EncodeChar_lt {c d : Char} (h : c < d) (s t : List UInt8) :
    String.utf8EncodeChar c ++ s < String.utf8EncodeChar d ++ t := by
  have hlt : c.val.toNat < d.val.toNat := UInt32.lt_iff_toNat_lt.mp h
  have hvalid : d.val.toNat < 0x110000 := toNat_val_lt d
  rw [utf8EncodeChar_eq_spell, utf8EncodeChar_eq_spell]
  generalize c.val.toNat = v at hlt ⊢
  generalize d.val.toNat = w at hlt hvalid ⊢
  -- a longer spelling has a larger mark
  split_ifs
  all_goals first
    | exact spell_lt_spell hlt (by omega) s t
    | exact spell_lt_of_mark (by omega) (by omega) s t

/-! ## The bytes of a text -/

/-- The bytes of a text. -/
def bytes (s : String) : List UInt8 := s.toByteArray.data.toList

theorem bytes_eq_flatMap (s : String) : bytes s = s.toList.flatMap String.utf8EncodeChar := by
  rw [bytes, ← String.utf8Encode_toList, List.utf8Encode, List.toList_data_toByteArray]

theorem flatMap_utf8EncodeChar_lt {s t : List Char} (h : s < t) :
    s.flatMap String.utf8EncodeChar < t.flatMap String.utf8EncodeChar := by
  induction h with
  | nil =>
    obtain ⟨byte, more, hbytes⟩ := List.exists_cons_of_ne_nil String.utf8EncodeChar_ne_nil
    rw [List.flatMap_nil, List.flatMap_cons, hbytes]
    exact List.nil_lt_cons byte _
  | cons _ ih =>
    rw [List.flatMap_cons, List.flatMap_cons]
    exact List.append_left_lt ih
  | rel h =>
    rw [List.flatMap_cons, List.flatMap_cons]
    exact utf8EncodeChar_lt h _ _

theorem bytes_lt_of_lt {s t : String} (h : s < t) : bytes s < bytes t := by
  rw [bytes_eq_flatMap, bytes_eq_flatMap]
  exact flatMap_utf8EncodeChar_lt (String.lt_iff_toList_lt.mp h)

/-- **The order of texts is the order of their bytes.** -/
theorem lt_iff_bytes_lt {s t : String} : s < t ↔ bytes s < bytes t := by
  refine ⟨bytes_lt_of_lt, fun h => ?_⟩
  rcases lt_trichotomy s t with hlt | rfl | hgt
  · exact hlt
  · exact absurd h (List.lt_irrefl _)
  · exact absurd h (List.lt_asymm (bytes_lt_of_lt hgt))

end Text
end RequestQuery
