import RequestQuery.ColumnRef
import RequestQuery.Proofs.Text.Joined

/-! # References are read back

A reference is written as its column, with the table and a point in front, and its keys
behind arrows.  The characters of an arrow are different, so that arrows are found where
they were put even if a key begins or ends with one of them; the last point of the column
ends the table (`headText_ofHead`, `ofHead_headText`); and blanks and quotes are taken from
the edges of a key only (`bareKey_eq_self_iff`).  So exactly those references are read
back in which nothing stands that reading takes for something else
(`parse_display_iff`).
-/
namespace RequestQuery
namespace ColumnRef

/-! ## The column and its table -/

/-- The text of the column, with its table if it has one. -/
def headText (c : ColumnRef) : String :=
  match c.table with
  | some table => table ++ "." ++ c.column
  | none => c.column

/-- The table ends at the last point.  Without a table there is no point, unless the text begins with
it. -/
structure EndsTable (c : ColumnRef) : Prop where
  named : ∀ table ∈ c.table, table ≠ "" ∧ '.' ∉ c.column.toList
  unnamed : c.table = none → '.' ∉ c.column.toList.tail

/-- The reference to the same column with a path. -/
def withPath (c : ColumnRef) (path : List String) : ColumnRef := { c with path := path }

@[simp] theorem headText_withPath (c : ColumnRef) (path : List String) :
    (c.withPath path).headText = c.headText := rfl

@[simp] theorem endsTable_withPath (c : ColumnRef) (path : List String) :
    (c.withPath path).EndsTable ↔ c.EndsTable :=
  ⟨fun h => ⟨h.named, h.unnamed⟩, fun h => ⟨h.named, h.unnamed⟩⟩

@[simp] theorem path_withPath (c : ColumnRef) (path : List String) : (c.withPath path).path = path := rfl

/-- What is read as a column is its text. -/
theorem headText_ofHead (head : List Char) : (ofHead head).headText = String.ofList head := by
  rw [ofHead]
  split
  · next table column hcut =>
    split
    · rfl
    · rw [headText, (Text.cutLast?_eq_some_iff.mp hcut).1, ← String.toList_inj]
      simp
  · rfl

theorem endsTable_ofHead (head : List Char) : (ofHead head).EndsTable := by
  rw [ofHead]
  split
  · next table column hcut =>
    obtain ⟨hhead, hcolumn⟩ := Text.cutLast?_eq_some_iff.mp hcut
    split
    · next hempty =>
      rw [List.isEmpty_iff.mp hempty, List.nil_append] at hhead
      exact ⟨nofun, fun _ => by simpa [hhead] using hcolumn⟩
    · next hne =>
      refine ⟨?_, nofun⟩
      rintro _ ⟨⟩
      exact ⟨by simpa using hne, by simpa using hcolumn⟩
  · next hcut =>
    have hpoint : '.' ∉ head := Text.cutLast?_eq_none_iff.mp hcut
    exact ⟨nofun, fun _ => by simpa using mt List.mem_of_mem_tail hpoint⟩

/-- A column whose table ends at the last point is read back. -/
theorem ofHead_headText {c : ColumnRef} (h : c.EndsTable) :
    (ofHead c.headText.toList).withPath c.path = c := by
  obtain ⟨table, column, path⟩ := c
  cases table with
  | some table =>
    obtain ⟨htable, hcolumn⟩ := h.named table rfl
    have hcut : Text.cutLast? '.' (table ++ "." ++ column).toList = some (table.toList, column.toList) :=
      Text.cutLast?_eq_some_iff.mpr ⟨by simp, hcolumn⟩
    have hne : ¬ table.toList.isEmpty = true := by simpa using htable
    simp only [headText, ofHead, withPath, hcut, if_neg hne, String.ofList_toList]
  | none =>
    have htail : '.' ∉ column.toList.tail := h.unnamed rfl
    cases hcut : Text.cutLast? '.' column.toList with
    | none => simp only [headText, ofHead, withPath, hcut, String.ofList_toList]
    | some parts =>
      obtain ⟨before, rest⟩ := parts
      -- the point is the first character
      have hbefore : before = [] := by
        rw [(Text.cutLast?_eq_some_iff.mp hcut).1] at htail
        cases before with
        | nil => rfl
        | cons d before => simp at htail
      subst hbefore
      simp only [headText, ofHead, withPath, hcut, List.isEmpty_nil, if_pos, String.ofList_toList]

/-! ## Keys -/

/-- The key that is read from a part of a reference: blanks and then quotes are taken from its edges. -/
def bareKey (part : List Char) : List Char := Text.stripWhile isQuote (Text.trimChars part)

theorem bareKey_infix_trimChars (part : List Char) : bareKey part <:+: Text.trimChars part :=
  Text.stripWhile_infix_self isQuote _

theorem trimChars_infix_self (part : List Char) : Text.trimChars part <:+: part :=
  Text.stripWhile_infix_self Text.isBlank part

/-- A key that is read as it stands has neither a blank nor a quote at its edges. -/
theorem bareKey_eq_self_iff {key : List Char} :
    bareKey key = key ↔ (∀ c ∈ key.head?, Text.isBlank c = false ∧ isQuote c = false) ∧
      ∀ c ∈ key.getLast?, Text.isBlank c = false ∧ isQuote c = false := by
  have hedges : bareKey key = key ↔ Text.trimChars key = key ∧ Text.stripWhile isQuote key = key := by
    constructor
    · intro h
      -- nothing can be taken off and put on again
      have hback := bareKey_infix_trimChars key
      rw [h] at hback
      have htrim : Text.trimChars key = key :=
        (trimChars_infix_self key).eq_of_length
          (le_antisymm (trimChars_infix_self key).length_le hback.length_le)
      rw [bareKey, htrim] at h
      exact ⟨htrim, h⟩
    · rintro ⟨htrim, hstrip⟩
      rw [bareKey, htrim, hstrip]
  rw [hedges, Text.trimChars_eq_self_iff, Text.stripWhile_eq_self_iff]
  simp only [forall_and]
  exact and_and_and_comm

/-- The keys that are read from the parts of a reference behind its column. -/
def keysOf (parts : List String) : List String :=
  ((parts.map fun part => Text.trimChars part.toList).filter (!·.isEmpty)).map fun key =>
    String.ofList (Text.stripWhile isQuote key)

/-- A key that is read is a part without what was at its edges. -/
theorem exists_of_mem_keysOf {parts : List String} {key : String} (h : key ∈ keysOf parts) :
    ∃ part ∈ parts, key.toList = bareKey part.toList := by
  obtain ⟨trimmed, htrimmed, rfl⟩ := List.mem_map.mp h
  obtain ⟨part, hpart, rfl⟩ := List.mem_map.mp (List.mem_filter.mp htrimmed).1
  exact ⟨part, hpart, String.toList_ofList⟩

/-- Keys are read as they stand if none is empty and none has anything at its edges that is taken off. -/
theorem keysOf_eq_self_iff {keys : List String} :
    keysOf keys = keys ↔ ∀ key ∈ keys, key ≠ "" ∧ bareKey key.toList = key.toList := by
  have hkept (hne : ∀ key ∈ keys, Text.trimChars key.toList ≠ []) :
      keysOf keys = keys.map fun key => String.ofList (bareKey key.toList) := by
    rw [keysOf, List.filter_eq_self.mpr (by simpa using hne), List.map_map]
    rfl
  constructor
  · intro h
    -- no key is left out, since there are as many as before
    have hne : ∀ key ∈ keys, Text.trimChars key.toList ≠ [] := by
      have hlength := congrArg List.length h
      rw [keysOf, List.length_map] at hlength
      have hall := List.length_filter_eq_length_iff.mp (hlength.trans (List.length_map _).symm)
      simpa using hall
    have hsame := ((hkept hne).symm.trans h).trans (List.map_id keys).symm
    intro key hkey
    have hbare : String.ofList (bareKey key.toList) = key := List.map_inj_left.mp hsame key hkey
    rw [← String.toList_inj, String.toList_ofList] at hbare
    refine ⟨?_, hbare⟩
    rintro rfl
    exact hne "" hkey rfl
  · intro h
    have hne : ∀ key ∈ keys, Text.trimChars key.toList ≠ [] := by
      intro key hkey hempty
      obtain ⟨hkeyne, hbare⟩ := h key hkey
      rw [bareKey, hempty] at hbare
      exact hkeyne (String.toList_eq_nil_iff.mp hbare.symm)
    rw [hkept hne]
    refine (List.map_congr_left fun key hkey => ?_).trans (List.map_id keys)
    rw [(h key hkey).2, String.ofList_toList, id]

/-! ## References -/

/-- A reference is its column and its keys with arrows between them. -/
theorem display_eq (c : ColumnRef) : c.display = "->".intercalate (c.headText :: c.path) := by
  have hjoin (head : String) (keys : List String) :
      "->".intercalate (head :: keys) = head ++ String.join (keys.map ("->" ++ ·)) := by
    induction keys generalizing head with
    | nil => simp
    | cons key rest ih =>
      rw [String.intercalate_cons_cons, ih, List.map_cons, String.join_cons, String.append_assoc,
        String.append_assoc]
  rw [hjoin, display, headText]
  cases c.table with
  | some table => rfl
  | none => rw [String.empty_append]

/-- What is read from the parts of a reference. -/
theorem parse_of_splitAt {s head : String} {parts : List String}
    (h : Text.splitAt "->" s = head :: parts) :
    parse s = (ofHead (Text.trim head).toList).withPath (keysOf parts) := by
  have hpieces : Text.pieces arrow s.toList = head.toList :: parts.map String.toList := by
    have hchars := congrArg (List.map String.toList) h
    rw [Text.splitAt, List.map_map] at hchars
    simpa [Function.comp_def, arrow] using hchars
  rw [parse, hpieces, List.map_cons, Text.toList_trim, keysOf, List.map_map]
  rfl

/-- A key that is read as it stands: nothing is taken from its edges, and no arrow ends it. -/
structure IsLegibleKey (key : String) : Prop where
  ne_empty : key ≠ ""
  no_arrow : ¬ Text.Occurs "->" key
  first : ∀ d ∈ key.toList.head?, Text.isBlank d = false ∧ isQuote d = false
  last : ∀ d ∈ key.toList.getLast?, Text.isBlank d = false ∧ isQuote d = false

/-- A reference in which nothing stands that reading takes for something else. -/
structure IsLegible (c : ColumnRef) : Prop where
  endsTable : c.EndsTable
  trim_head : Text.trim c.headText = c.headText
  no_arrow : ¬ Text.Occurs "->" c.headText
  keys : ∀ key ∈ c.path, IsLegibleKey key

/-- Arrows are found where they were put, whatever stands beside them. -/
theorem splitAt_display {c : ColumnRef} (hhead : ¬ Text.Occurs "->" c.headText)
    (hkeys : ∀ key ∈ c.path, ¬ Text.Occurs "->" key) :
    Text.splitAt "->" c.display = c.headText :: c.path := by
  have hnodup : "->".toList.Nodup := by decide
  rw [display_eq, Text.splitAt_intercalate_eq_self_iff (by decide) (List.cons_ne_nil _ _),
    Text.separable_iff_of_nodup hnodup (by decide)]
  exact List.forall_mem_cons.mpr ⟨hhead, hkeys⟩

theorem IsLegible.parse_eq {c : ColumnRef} (h : c.IsLegible) : parse c.display = c := by
  have hsplit := splitAt_display h.no_arrow fun key hkey => (h.keys key hkey).no_arrow
  have hkeys : keysOf c.path = c.path := keysOf_eq_self_iff.mpr fun key hkey =>
    ⟨(h.keys key hkey).ne_empty, bareKey_eq_self_iff.mpr ⟨(h.keys key hkey).first, (h.keys key hkey).last⟩⟩
  rw [parse_of_splitAt hsplit, h.trim_head, hkeys]
  exact ofHead_headText h.endsTable

theorem isLegible_of_parse_eq {c : ColumnRef} (h : parse c.display = c) : c.IsLegible := by
  obtain ⟨head, parts, hsplit⟩ := List.exists_cons_of_ne_nil (Text.splitAt_ne_nil "->" c.display)
  have hapart : ∀ piece ∈ head :: parts, ¬ Text.Occurs "->" piece := fun piece hpiece =>
    Text.not_occurs_of_mem_splitAt (by decide) (hsplit ▸ hpiece)
  rw [parse_of_splitAt hsplit] at h
  have hhead : c.headText = Text.trim head := by
    rw [← h, headText_withPath, headText_ofHead, String.ofList_toList]
  have hpath : keysOf parts = c.path := by
    rw [← h, path_withPath]
  -- what is left of a part has no arrow either
  have hinside {s part : String} (hpart : part ∈ head :: parts) (hs : s.toList <:+: part.toList) :
      ¬ Text.Occurs "->" s := by
    intro hoccurs
    rw [Text.occurs_iff_infix_toList] at hoccurs
    exact hapart part hpart (Text.occurs_iff_infix_toList.mpr (hoccurs.trans hs))
  have hno_arrow : ¬ Text.Occurs "->" c.headText := by
    refine hinside List.mem_cons_self ?_
    rw [hhead, Text.toList_trim]
    exact trimChars_infix_self _
  have hkeys : ∀ key ∈ c.path, ¬ Text.Occurs "->" key := by
    intro key hkey
    obtain ⟨part, hpart, heq⟩ := exists_of_mem_keysOf (hpath ▸ hkey)
    refine hinside (List.mem_cons_of_mem _ hpart) ?_
    rw [heq]
    exact (bareKey_infix_trimChars _).trans (trimChars_infix_self _)
  have hparts : parts = c.path := (List.cons.inj (hsplit.symm.trans (splitAt_display hno_arrow hkeys))).2
  rw [hparts, keysOf_eq_self_iff] at hpath
  constructor
  case endsTable =>
    rw [← h, endsTable_withPath]
    exact endsTable_ofHead _
  case trim_head => rw [hhead, Text.trim_trim]
  case no_arrow => exact hno_arrow
  case keys =>
    intro key hkey
    obtain ⟨hne, hbare⟩ := hpath key hkey
    obtain ⟨hfirst, hlast⟩ := bareKey_eq_self_iff.mp hbare
    exact ⟨hne, hkeys key hkey, hfirst, hlast⟩

/-- **Which references are read back** from their text: those in which nothing stands that reading takes
for something else.  Their tables and columns are trimmed and without arrows, with a point in the column
only in front of one that has no table; their keys are not empty, have no arrow, and have neither a blank
nor a quote at an edge. -/
theorem parse_display_iff (c : ColumnRef) : parse c.display = c ↔ c.IsLegible :=
  ⟨isLegible_of_parse_eq, IsLegible.parse_eq⟩

/-- Characters of an arrow, points and quotes stand where they are not taken for something else. -/
example :
    let c : ColumnRef := { table := some "clients.old", column := "meta-", path := [">a.b", "it's", "-"] }
    c.display = "clients.old.meta-->>a.b->it's->-" ∧ parse c.display = c := by
  decide +kernel

end ColumnRef
end RequestQuery
