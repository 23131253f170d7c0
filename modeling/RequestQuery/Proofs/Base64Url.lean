import RequestQuery.Base64Url
import RequestQuery.Text.Blank

/-! # Reading Base64 back

A reader gets back exactly the bytes that were written (`decode?_encode`), three
at a time and the one or two that are left.  What is written consists of the
characters of the alphabet, none of which is a blank.
-/
namespace RequestQuery
namespace Base64Url

theorem sextet?_sextetChar_of_lt {n : Nat} (h : n < 64) : sextet? (sextetChar n) = some n :=
  sextet?_sextetChar ⟨n, h⟩

theorem mapM_sextet?_cons {n : Nat} {s : List Char} {numbers : List Nat} (h : n < 64)
    (hs : s.mapM sextet? = some numbers) :
    (sextetChar n :: s).mapM sextet? = some (n :: numbers) := by
  rw [List.mapM_cons, sextet?_sextetChar_of_lt h, hs]
  rfl

theorem decode?_encode (bytes : List UInt8) : decode? (encode bytes) = some bytes := by
  unfold decode?
  fun_induction encode bytes with
  | case1 => rfl
  | case2 a n =>
    have ha := a.toNat_lt
    have hn : n = a.toNat * 16 := rfl
    have hread := mapM_sextet?_cons (n := n / 64) (by omega)
      (mapM_sextet?_cons (n := n % 64) (by omega) (List.mapM_nil (m := Option)))
    have hjoin : n / 64 * 64 + n % 64 = n := by omega
    rw [hread, Option.bind_some, bytes?]
    simp only [hjoin]
    rw [if_pos (by omega), show n / 16 = a.toNat by omega, UInt8.ofNat_toNat]
  | case3 a b n =>
    have ha := a.toNat_lt
    have hb := b.toNat_lt
    have hn : n = (a.toNat * 256 + b.toNat) * 4 := rfl
    have hread := mapM_sextet?_cons (n := n / 4096) (by omega)
      (mapM_sextet?_cons (n := n / 64 % 64) (by omega)
        (mapM_sextet?_cons (n := n % 64) (by omega) (List.mapM_nil (m := Option))))
    have hjoin : (n / 4096 * 64 + n / 64 % 64) * 64 + n % 64 = n := by omega
    rw [hread, Option.bind_some, bytes?]
    simp only [hjoin]
    rw [if_pos (by omega), show n / 1024 = a.toNat by omega, show n / 4 % 256 = b.toNat by omega,
      UInt8.ofNat_toNat, UInt8.ofNat_toNat]
  | case4 a b c rest n ih =>
    have ha := a.toNat_lt
    have hb := b.toNat_lt
    have hc := c.toNat_lt
    have hn : n = (a.toNat * 256 + b.toNat) * 256 + c.toNat := rfl
    obtain ⟨numbers, hnumbers, hrest⟩ := Option.bind_eq_some_iff.mp ih
    have hread := mapM_sextet?_cons (n := n / 262144) (by omega)
      (mapM_sextet?_cons (n := n / 4096 % 64) (by omega)
        (mapM_sextet?_cons (n := n / 64 % 64) (by omega)
          (mapM_sextet?_cons (n := n % 64) (by omega) hnumbers)))
    have hjoin :
        ((n / 262144 * 64 + n / 4096 % 64) * 64 + n / 64 % 64) * 64 + n % 64 = n := by omega
    rw [hread, Option.bind_some, bytes?]
    simp only [hjoin]
    rw [hrest, show n / 65536 = a.toNat by omega, show n / 256 % 256 = b.toNat by omega,
      show n % 256 = c.toNat by omega, UInt8.ofNat_toNat, UInt8.ofNat_toNat, UInt8.ofNat_toNat,
      Option.map_some]

/-- The bytes of a text that was written are those of the string. -/
theorem decodeString?_encodeString (s : String) :
    decodeString? (encodeString s) = some s.toByteArray := by
  simp [decodeString?, encodeString, decode?_encode]

/-! ## The alphabet -/

/-- The characters that stand for the numbers below 64. -/
def InAlphabet (c : Char) : Prop := ∃ n : Fin 64, c = sextetChar n

theorem inAlphabet_sextetChar {n : Nat} (h : n < 64) : InAlphabet (sextetChar n) := ⟨⟨n, h⟩, rfl⟩

theorem inAlphabet_of_mem_encode {bytes : List UInt8} {c : Char} (h : c ∈ encode bytes) :
    InAlphabet c := by
  fun_induction encode bytes with
  | case1 => cases h
  | case2 a n =>
    have ha := a.toNat_lt
    have hn : n = a.toNat * 16 := rfl
    simp only [List.mem_cons, List.not_mem_nil, or_false] at h
    rcases h with rfl | rfl <;> exact inAlphabet_sextetChar (by omega)
  | case3 a b n =>
    have ha := a.toNat_lt
    have hb := b.toNat_lt
    have hn : n = (a.toNat * 256 + b.toNat) * 4 := rfl
    simp only [List.mem_cons, List.not_mem_nil, or_false] at h
    rcases h with rfl | rfl | rfl <;> exact inAlphabet_sextetChar (by omega)
  | case4 a b c rest n ih =>
    have ha := a.toNat_lt
    have hb := b.toNat_lt
    have hc := c.toNat_lt
    have hn : n = (a.toNat * 256 + b.toNat) * 256 + c.toNat := rfl
    simp only [List.mem_cons] at h
    rcases h with rfl | rfl | rfl | rfl | h
    iterate 4 exact inAlphabet_sextetChar (by omega)
    exact ih h

theorem isBlank_of_inAlphabet {c : Char} (h : InAlphabet c) : Text.isBlank c = false := by
  obtain ⟨n, rfl⟩ := h
  revert n
  decide

theorem isAlphanum_of_inAlphabet {c : Char} (h : InAlphabet c) :
    c.isAlphanum = true ∨ c = '-' ∨ c = '_' := by
  obtain ⟨n, rfl⟩ := h
  revert n
  decide

/-- There is nothing to trim off what was written. -/
theorem trim_encodeString (s : String) : Text.trim (encodeString s) = encodeString s := by
  rw [Text.trim, encodeString, String.toList_ofList,
    Text.trimChars_eq_self fun c hc => isBlank_of_inAlphabet (inAlphabet_of_mem_encode hc)]

end Base64Url
end RequestQuery
