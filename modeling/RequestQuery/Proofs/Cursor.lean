import RequestQuery.Cursor
import RequestQuery.Proofs.Base64Url
import RequestQuery.Proofs.Json.RoundTrip

/-! # Reading cursors back

The text of a cursor is the Base64 form of an object with two members, its value
and its direction.  A cursor at a value without binary64 numbers comes back from
its text as it was, if the containers of the value leave room for that object
(`decode_encode_eq`).  So the links of a page lead to the rows at its edges
(`encode_round_trip`).
-/
namespace RequestQuery
namespace Cursor

variable {c : Cursor}

/-- The members of the object that a cursor is written as. -/
def members (c : Cursor) : Keyed Json :=
  [("value", c.value), ("_pointsToNextItems", .bool c.forward)]

theorem toList_payload (c : Cursor) : c.payload.toList = (Json.object c.members).chars := by
  have hobject : (Json.object c.members).chars =
      '\x7b' :: (Json.memberChars true c.members ++ ['\x7d']) := rfl
  rw [hobject]
  simp [payload, members, Json.memberChars]

theorem read?_payload (h : c.value.IsExact) :
    Json.Document.read? (c.payload.toList.map some) = some (Json.object c.members).document := by
  have hforward : (Json.bool c.forward).IsExact := .bool c.forward
  rw [toList_payload]
  refine Json.Document.read?_chars (Json.readsAs_object ?_) (Json.Document.completes_object ?_)
  · simp only [members, List.forall_mem_cons, List.not_mem_nil, false_implies, implies_true]
    exact ⟨h.readsAs, hforward.readsAs, trivial⟩
  · simp only [members, List.forall_mem_cons, List.not_mem_nil, false_implies, implies_true]
    exact ⟨h.completes, hforward.completes, trivial⟩

theorem valueOf?_document (h : c.value.IsExact) :
    valueOf? c.value.document = if c.value.depth ≤ 126 then some c.value else none :=
  h.ofDocument?_document 126

theorem ofDocument?_members (h : c.value.IsExact) :
    ofDocument? (Json.object c.members).document =
      if c.value.depth ≤ 126 then some c else none := by
  by_cases hdepth : c.value.depth ≤ 126
  · simp [ofDocument?, members, Json.document, Json.memberDocuments, readMember?,
      Json.text?_letters, valueOf?_document h, hdepth, forwardOf?]
  · simp [ofDocument?, members, Json.document, Json.memberDocuments, readMember?,
      Json.text?_letters, valueOf?_document h, hdepth]

/-- Nothing is lost on the way, and a value that is nested too deeply is not read back. -/
theorem decode_encode_eq (h : c.value.IsExact) :
    decode c.encode = if c.value.depth ≤ 126 then .ok c else .error .invalidCursor := by
  have hread : (do
      let payload ← Base64Url.decodeString? (Text.trim c.encode)
      ofDocument? (← Json.Document.read? (Text.symbols payload))) =
        if c.value.depth ≤ 126 then some c else none := by
    rw [encode, Base64Url.trim_encodeString, Base64Url.decodeString?_encodeString]
    simp only [Option.bind_eq_bind, Option.bind_some, Text.symbols_toByteArray, read?_payload h,
      ofDocument?_members h]
  rw [decode]
  simp only [hread]
  by_cases hdepth : c.value.depth ≤ 126
  · rw [if_pos hdepth, if_pos hdepth]
  · rw [if_neg hdepth, if_neg hdepth]

/-- A cursor comes back from its text as it was. -/
theorem decode_encode (h : c.value.IsExact) (hdepth : c.value.depth ≤ 126) :
    decode c.encode = .ok c := by
  rw [decode_encode_eq h, if_pos hdepth]

end Cursor

/-! ## The links of a page -/

namespace Page

variable {α : Type} {rows : List α} {perPage : Nat} {cursor : Option Cursor} {key : α → Json}

theorem mem_rows_of_mem_data {row : α} (h : row ∈ (ofRows rows perPage cursor key).data) :
    row ∈ rows := by
  have hkept : row ∈ rows.take perPage := by
    rcases cursor with _ | ⟨value, forward⟩
    · exact h
    · cases forward with
      | true => exact h
      | false => exact List.mem_reverse.mp h
  exact List.mem_of_mem_take hkept

/-- The link forward is at the last row of the page. -/
theorem exists_of_next {link : Cursor} (h : (ofRows rows perPage cursor key).next = some link) :
    ∃ row ∈ rows, (ofRows rows perPage cursor key).data.getLast? = some row ∧
      link = ⟨key row, true⟩ := by
  obtain ⟨-, h⟩ := (Option.ite_none_right_eq_some ..).mp h
  obtain ⟨row, hrow, rfl⟩ := Option.map_eq_some_iff.mp h
  have hmem : row ∈ (ofRows rows perPage cursor key).data := List.mem_of_getLast? hrow
  exact ⟨row, mem_rows_of_mem_data hmem, hrow, rfl⟩

/-- The link back is at the first row of the page. -/
theorem exists_of_previous {link : Cursor}
    (h : (ofRows rows perPage cursor key).previous = some link) :
    ∃ row ∈ rows, (ofRows rows perPage cursor key).data.head? = some row ∧
      link = ⟨key row, false⟩ := by
  obtain ⟨-, h⟩ := (Option.ite_none_right_eq_some ..).mp h
  obtain ⟨row, hrow, rfl⟩ := Option.map_eq_some_iff.mp h
  have hmem : row ∈ (ofRows rows perPage cursor key).data := List.mem_of_head? hrow
  exact ⟨row, mem_rows_of_mem_data hmem, hrow, rfl⟩

end Page

namespace Cursor

/-- **Cursors travel unharmed.**  A cursor at a value without binary64 numbers comes back from its text
exactly if the value is nested at most 126 deep, and its text needs no escaping in a URL.  So the
links of a page lead to the keys of its last and its first row. -/
theorem encode_round_trip :
    (∀ c : Cursor, c.value.IsExact →
      (decode c.encode = .ok c ↔ c.value.depth ≤ 126) ∧
        ∀ ch ∈ c.encode.toList, ch.isAlphanum = true ∨ ch = '-' ∨ ch = '_') ∧
    ∀ {α : Type} (rows : List α) (perPage : Nat) (cursor : Option Cursor) (key : α → Json),
      (∀ row ∈ rows, (key row).IsExact ∧ (key row).depth ≤ 126) →
      let page := Page.ofRows rows perPage cursor key
      (∀ link, page.next = some link → ∃ row, page.data.getLast? = some row ∧
        decode link.encode = .ok ⟨key row, true⟩) ∧
      (∀ link, page.previous = some link → ∃ row, page.data.head? = some row ∧
        decode link.encode = .ok ⟨key row, false⟩) := by
  refine ⟨fun c h => ⟨?_, fun ch hch => ?_⟩, fun rows perPage cursor key hkeys => ⟨?_, ?_⟩⟩
  · rw [decode_encode_eq h]
    split <;> simp [*]
  · rw [encode, Base64Url.encodeString, String.toList_ofList] at hch
    exact Base64Url.isAlphanum_of_inAlphabet (Base64Url.inAlphabet_of_mem_encode hch)
  · intro link hlink
    obtain ⟨row, hrow, hlast, rfl⟩ := Page.exists_of_next hlink
    obtain ⟨hexact, hdepth⟩ := hkeys row hrow
    exact ⟨row, hlast, decode_encode hexact hdepth⟩
  · intro link hlink
    obtain ⟨row, hrow, hfirst, rfl⟩ := Page.exists_of_previous hlink
    obtain ⟨hexact, hdepth⟩ := hkeys row hrow
    exact ⟨row, hfirst, decode_encode hexact hdepth⟩

/-- An object with an empty array, the least integer and a text that needs escapes, and the link
behind it. -/
theorem encode_round_trip_nested :
    let v : Json := .object [("a", .array [.array [], .ofInt (-9223372036854775808)]),
      ("é", .string "\"\\\x01😀")]
    v.IsExact ∧ v.depth ≤ 126 ∧ decode (encode ⟨v, false⟩) = .ok ⟨v, false⟩ ∧
      (∀ ch ∈ (encode ⟨v, false⟩).toList, ch.isAlphanum = true ∨ ch = '-' ∨ ch = '_') ∧
      ∃ link, (Page.ofRows [v, .null] 1 none id).next = some link ∧
        decode link.encode = .ok ⟨v, true⟩ := by
  intro v
  have hitems : (Json.array [.array [], .ofInt (-9223372036854775808)]).IsExact := by
    refine .array (List.forall_mem_cons.mpr ⟨.array (by simp), List.forall_mem_singleton.mpr ?_⟩)
    exact .integer (by decide) (by decide)
  have hexact : v.IsExact := by
    refine .object (by decide) (List.forall_mem_cons.mpr ⟨hitems, List.forall_mem_singleton.mpr ?_⟩)
    exact .string _
  have hdepth : v.depth ≤ 126 := by decide
  have hrows : ∀ row ∈ [v, .null], (id row).IsExact ∧ (id row).depth ≤ 126 :=
    List.forall_mem_cons.mpr ⟨⟨hexact, hdepth⟩, List.forall_mem_singleton.mpr ⟨.null, Nat.zero_le _⟩⟩
  obtain ⟨hcursors, hpages⟩ := encode_round_trip
  obtain ⟨hdecode, htext⟩ := hcursors ⟨v, false⟩ hexact
  refine ⟨hexact, hdepth, hdecode.mpr hdepth, htext, ⟨v, true⟩, rfl, ?_⟩
  obtain ⟨row, hlast, hrow⟩ := (hpages [v, .null] 1 none id hrows).1 ⟨v, true⟩ rfl
  cases hlast
  exact hrow

end Cursor
end RequestQuery
