/-! # Blanks and trimming

Request texts may be padded with any blank of the Unicode standard, not only
with the ASCII ones.  `trim` drops the blanks at both ends and nothing else:
what is left neither begins nor ends with a blank, and a text without blanks at
its ends is left alone.
-/
namespace RequestQuery
namespace Text

/-- The characters with the Unicode property `White_Space`. -/
def isBlank (c : Char) : Bool :=
  let code := c.toNat
  (0x9 ≤ code && code ≤ 0xD) || code == 0x20 || code == 0x85 || code == 0xA0 || code == 0x1680 ||
    (0x2000 ≤ code && code ≤ 0x200A) || code == 0x2028 || code == 0x2029 || code == 0x202F ||
    code == 0x205F || code == 0x3000

/-- Drops the blanks in front. -/
def trimStart (s : List Char) : List Char :=
  s.dropWhile isBlank

/-- Drops from the end whatever satisfies `p`. -/
def dropEndWhile (p : Char → Bool) (s : List Char) : List Char :=
  (s.reverse.dropWhile p).reverse

/-- Drops from both ends whatever satisfies `p`. -/
def stripWhile (p : Char → Bool) (s : List Char) : List Char :=
  dropEndWhile p (s.dropWhile p)

/-- Drops the blanks at both ends. -/
def trimChars (s : List Char) : List Char :=
  stripWhile isBlank s

/-- `trimChars` on texts. -/
def trim (s : String) : String :=
  String.ofList (trimChars s.toList)

@[simp] theorem toList_trim (s : String) : (trim s).toList = trimChars s.toList := by
  simp [trim]

/-- What `dropEndWhile` keeps is an initial part of its input. -/
theorem dropEndWhile_append (p : Char → Bool) (s : List Char) :
    ∃ t, s = dropEndWhile p s ++ t ∧ ∀ c ∈ t, p c = true := by
  refine ⟨(s.reverse.takeWhile p).reverse, ?_, ?_⟩
  · have h : s.reverse.takeWhile p ++ s.reverse.dropWhile p = s.reverse :=
      List.takeWhile_append_dropWhile
    rw [dropEndWhile, ← List.reverse_append, h, List.reverse_reverse]
  · intro c hc
    exact List.all_eq_true.mp List.all_takeWhile c (List.mem_reverse.mp hc)

/-- A text without blanks is left alone. -/
theorem trimChars_eq_self {s : List Char} (h : ∀ c ∈ s, isBlank c = false) : trimChars s = s := by
  have drop {t : List Char} (ht : ∀ c ∈ t, isBlank c = false) : t.dropWhile isBlank = t := by
    cases t with
    | nil => rfl
    | cons c t => rw [List.dropWhile_cons_of_neg (by simp [ht c])]
  have hreverse : ∀ c ∈ s.reverse, isBlank c = false := fun c hc => h c (List.mem_reverse.mp hc)
  rw [trimChars, stripWhile, dropEndWhile, drop h, drop hreverse, List.reverse_reverse]

end Text
end RequestQuery
