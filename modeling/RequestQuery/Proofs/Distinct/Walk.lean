import RequestQuery.Proofs.Distinct.Place
import RequestQuery.Proofs.Sql.Binary

/-! # Walking through a listing

Who lists distinct values starts on the first page and follows the links of the
pages, forward and backward.  Where the nulls come first upwards, as the
conditions of cursors take them to, every page on the way is a chunk of the one
ascending list of the values (`walk_eq_chunk`): a link leads from a chunk to its
neighbour (`ShowsRest.pageAt_next`, `Lists.pageAt_previous`), and there is one
exactly where there is a neighbour.

The null needs no special care: it is the first value if it is one at all, so no
link leads to what comes before it.
-/
namespace RequestQuery
namespace DistinctListing

/-! ## Following links -/

section
variable (d : DistinctListing) (E : Engine) (rows : List Row)

/-- The page that moves lead to from a page.  There is none if a page on the way has not the link
that is to be followed. -/
def walkFrom (page : Page Json) : List Move → Except QueryError (Option (Page Json))
  | [] => .ok (some page)
  | move :: rest =>
    match page.link move with
    | some cursor => do walkFrom (← d.pageAt E rows (some cursor.encode)) rest
    | none => .ok none

/-- The page that moves lead to from the first page. -/
def walk (moves : List Move) : Except QueryError (Option (Page Json)) := do
  d.walkFrom E rows (← d.pageAt E rows none) moves

end

/-! ## From chunk to chunk -/

variable {d : DistinctListing} {E : Engine} {rows : List Row} {s : DistinctSource}
    {values : List Datum}
variable {i : Nat}

/-- Where the nulls come first, a value that something precedes is not the null. -/
theorem Lists.getElem_ne_null (h : d.Lists E rows s values)
    (hfirst : E.dialect.nullsFirst = true) {k : Nat} (hk : k < values.length)
    (hpositive : 0 < k) : values[k] ≠ .null := by
  intro hnull
  have hbefore : E.Before .ascending values[0] values[k] :=
    List.pairwise_iff_getElem.mp h.ascending 0 k (by omega) hk hpositive
  rw [hnull] at hbefore
  exact Engine.not_before_null hfirst hbefore

theorem Lists.pageAt_first (h : d.Lists E rows s values) :
    d.pageAt E rows none = .ok (.ofChunk (values.map Datum.toJson) d.pageSize 0) := by
  rw [h.pageAt_none, Page.ofRows_first]

/-- Some values, of which the page behind each shows those that follow it. -/
def ShowsRest (d : DistinctListing) (E : Engine) (rows : List Row) (shown : List Datum) : Prop :=
  ∀ k (hk : k < shown.length), d.pageAt E rows (some (Cursor.encode ⟨shown[k].toJson, true⟩)) =
    .ok (.ofRows (((shown.drop (k + 1)).map Datum.toJson).take (d.pageSize + 1)) d.pageSize
      (some ⟨shown[k].toJson, true⟩) id)

/-- Where the nulls come first, all values that follow a value are behind it. -/
theorem Lists.showsRest (h : d.Lists E rows s values) (hfirst : E.dialect.nullsFirst = true) :
    d.ShowsRest E rows values := by
  intro k hk
  have hkey : values[k].IsKey := h.isKey _ (List.getElem_mem hk)
  have hshown : (values.drop (k + 1)).Pairwise (E.Before .ascending) :=
    h.ascending.sublist (List.drop_sublist _ _)
  obtain ⟨place, hplace, hholds⟩ : ∃ place,
      Cursor.condition ⟨values[k].toJson, true⟩ s.value = .ok place ∧
      ∀ row, place.Holds E row ↔ E.Before .ascending values[k] (s.value.eval E row) := by
    by_cases hnull : values[k] = .null
    · obtain ⟨place, hplace, hholds⟩ := Cursor.condition_after_null (E := E) s.value
      refine ⟨place, hnull ▸ hplace, fun row => (hholds row).trans ?_⟩
      rw [hnull, Engine.null_before_iff hfirst]
    · obtain ⟨place, hplace, hholds⟩ := Cursor.condition_after (E := E) s.value hkey hnull
      refine ⟨place, hplace, fun row => (hholds row).trans (and_iff_right_of_imp ?_)⟩
      intro hbefore hvalue
      rw [hvalue] at hbefore
      exact Engine.not_before_null hfirst hbefore
  exact h.pageAt_cursor hkey hplace hholds hshown fun a => mem_drop_of_pairwise h.ascending hk

/-- Before a value are, where the nulls come first, all values that precede it. -/
theorem Lists.pageAt_before (h : d.Lists E rows s values)
    (hfirst : E.dialect.nullsFirst = true) {k : Nat} (hk : k < values.length)
    (hpositive : 0 < k) :
    d.pageAt E rows (some (Cursor.encode ⟨values[k].toJson, false⟩)) =
      .ok (.ofRows (((values.take k).reverse.map Datum.toJson).take (d.pageSize + 1)) d.pageSize
        (some ⟨values[k].toJson, false⟩) id) := by
  have hkey : values[k].IsKey := h.isKey _ (List.getElem_mem hk)
  have hshown : (values.take k).reverse.Pairwise (E.Before .descending) :=
    List.pairwise_reverse.mpr (h.ascending.sublist (List.take_sublist _ _))
  obtain ⟨place, hplace, hholds⟩ :=
    Cursor.condition_before s.value hkey (h.getElem_ne_null hfirst hk hpositive) hfirst
  refine h.pageAt_cursor (P := (E.Before .ascending · values[k])) hkey hplace hholds
    hshown fun a => ?_
  rw [List.mem_reverse, mem_take_of_pairwise h.ascending hk]

/-- Behind the last value of a full chunk is the next chunk. -/
theorem ShowsRest.pageAt_next {shown : List Datum} (h : d.ShowsRest E rows shown)
    (hi : (i + 1) * d.pageSize - 1 < shown.length) :
    d.pageAt E rows (some (Cursor.encode ⟨shown[(i + 1) * d.pageSize - 1].toJson, true⟩)) =
      .ok (.ofChunk (shown.map Datum.toJson) d.pageSize (i + 1)) := by
  have hpositive : 0 < (i + 1) * d.pageSize := Nat.mul_pos (Nat.succ_pos i) d.pageSize_pos
  rw [h _ hi, Nat.sub_add_cancel hpositive, List.map_drop, Page.ofRows_after]

/-- The link at the end of a chunk leads to the next chunk. -/
theorem ShowsRest.walkFrom_next {shown : List Datum} (h : d.ShowsRest E rows shown) (i : Nat)
    (rest : List Move) :
    d.walkFrom E rows (.ofChunk (shown.map Datum.toJson) d.pageSize i) (.next :: rest) =
      if (i + 1) * d.pageSize < shown.length then
        d.walkFrom E rows (.ofChunk (shown.map Datum.toJson) d.pageSize (i + 1)) rest
      else .ok none := by
  have hlength : (shown.map Datum.toJson).length = shown.length := List.length_map _
  by_cases hnext : (i + 1) * d.pageSize < shown.length
  · have hlink := Page.ofChunk_next d.pageSize_pos (hlength ▸ hnext)
    have hpage := h.pageAt_next (i := i) (by omega)
    rw [List.getElem_map] at hlink
    simp only [walkFrom, Page.link, hlink, hpage, hnext, if_true]
    rfl
  · have hlink := Page.ofChunk_next_of_last (hlength ▸ hnext)
    simp only [walkFrom, Page.link, hlink, hnext, if_false]

/-- The link at the beginning of a chunk leads to the one before. -/
theorem Lists.pageAt_previous (h : d.Lists E rows s values) (hfirst : E.dialect.nullsFirst = true)
    (hi : (i + 1) * d.pageSize < (values.map Datum.toJson).length) :
    d.pageAt E rows (some (Cursor.encode
      ⟨(values.map Datum.toJson)[(i + 1) * d.pageSize], false⟩)) =
        .ok (.ofChunk (values.map Datum.toJson) d.pageSize i) := by
  have hpositive : 0 < (i + 1) * d.pageSize := Nat.mul_pos (Nat.succ_pos i) d.pageSize_pos
  rw [List.getElem_map, h.pageAt_before hfirst (by simpa using hi) hpositive,
    List.map_reverse, List.map_take, Page.ofRows_before d.pageSize_pos hi]

/-- A move leads from a chunk to the chunk that there is in its direction, if there is one. -/
theorem Lists.walkFrom_cons (h : d.Lists E rows s values) (hfirst : E.dialect.nullsFirst = true)
    (hi : Move.IsChunk values.length d.pageSize i) (move : Move) (rest : List Move) :
    d.walkFrom E rows (.ofChunk (values.map Datum.toJson) d.pageSize i) (move :: rest) =
      match move.step values.length d.pageSize i with
      | some j => d.walkFrom E rows (.ofChunk (values.map Datum.toJson) d.pageSize j) rest
      | none => .ok none := by
  have hlength : (values.map Datum.toJson).length = values.length := List.length_map _
  cases move with
  | next =>
    rw [(h.showsRest hfirst).walkFrom_next, Move.step]
    split <;> rfl
  | previous =>
    cases i with
    -- The first page has no link back.
    | zero => rfl
    | succ i =>
      have hprevious := hi.resolve_left (Nat.succ_ne_zero i)
      rw [← hlength] at hprevious
      simp only [walkFrom, Page.link, Page.ofChunk_previous d.pageSize_pos hprevious,
        h.pageAt_previous hfirst hprevious, Move.step, Nat.succ_pos, if_true, Nat.add_sub_cancel]
      rfl

/-- Moves lead from a chunk to a chunk, or to where there is none. -/
theorem Lists.walkFrom_chunk (h : d.Lists E rows s values) (hfirst : E.dialect.nullsFirst = true)
    (hi : Move.IsChunk values.length d.pageSize i) (moves : List Move) :
    d.walkFrom E rows (.ofChunk (values.map Datum.toJson) d.pageSize i) moves =
      .ok ((Move.walk values.length d.pageSize i moves).map
        (.ofChunk (values.map Datum.toJson) d.pageSize)) := by
  induction moves generalizing i with
  | nil => rfl
  | cons move rest ih =>
    rw [h.walkFrom_cons hfirst hi, Move.walk]
    cases hstep : move.step values.length d.pageSize i with
    | none => rfl
    | some j => exact ih (Move.isChunk_step hi hstep)

/-- **What a walk through a listing shows.**  Where the nulls come first, every sequence of moves
leads to the chunk of the ascending list of values that the moves count out, or to a missing link.
A chunk has links to the neighbours that it has.  Going forward shows every value once, in order,
and comes to an end. -/
theorem walk_eq_chunk (d : DistinctListing) (E : Engine) (rows : List Row) (s : DistinctSource)
    (values : List Datum) (hdialect : E.dialect ≠ .postgres) (h : d.Lists E rows s values) :
    let items := values.map Datum.toJson
    let n := d.pageSize
    (∀ moves, d.walk E rows moves =
        .ok ((Move.walk values.length n 0 moves).map (Page.ofChunk items n))) ∧
      (∀ moves i, Move.walk values.length n 0 moves = some i →
        ((Page.ofChunk items n i).next.isSome = true ↔ (i + 1) * n < values.length) ∧
          ((Page.ofChunk items n i).previous.isSome = true ↔ 0 < i)) ∧
      (∃ pages : List (Page Json), (∀ k, d.walk E rows (List.replicate k .next) = .ok pages[k]?) ∧
        pages.flatMap (·.data) = items) ∧
      0 < n ∧ ∀ m, d.perPage = some m → 0 < m → n = min m largestPage := by
  intro items n
  have hn : 0 < n := d.pageSize_pos
  have hlength : items.length = values.length := List.length_map _
  have hfirst : E.dialect.nullsFirst = true := by
    cases hE : E.dialect with
    | sqlite | mysql => rfl
    | postgres => exact absurd hE hdialect
  have hwalk : ∀ moves, d.walk E rows moves =
      .ok ((Move.walk values.length n 0 moves).map (Page.ofChunk items n)) := by
    intro moves
    simp only [walk, h.pageAt_first, bind, Except.bind]
    exact h.walkFrom_chunk hfirst (.inl rfl) moves
  refine ⟨hwalk, fun moves i hmoves => ?_, ⟨Page.chunks items n, fun k => ?_, ?_⟩, hn,
    fun m => pageSize_of_perPage⟩
  · have hi := Move.isChunk_walk (.inl rfl) hmoves
    rw [← hlength] at hi ⊢
    exact ⟨Page.isSome_next hn, Page.isSome_previous hn hi⟩
  · rw [hwalk, Page.getElem?_chunks hn, hlength]
  · exact Page.flatMap_data_chunks hn

/-- Three values on pages of two: one page forward, back again, and no page behind the last. -/
theorem walk_there_and_back :
    let E := Engine.binary .sqlite fun _ _ x _ => x
    let rows : List Row := [.text "Bob", .null, .text "Ali", .text "Bob"].map fun x _ _ => x
    E.dialect ≠ .postgres ∧ (names 2).Lists E rows nameSource [.null, .text "Ali", .text "Bob"] ∧
      (names 2).walk E rows [.next] =
        .ok (some ⟨[.string "Bob"], 2, none, some ⟨.string "Bob", false⟩⟩) ∧
      (names 2).walk E rows [.next, .previous] =
        .ok (some ⟨[.null, .string "Ali"], 2, some ⟨.string "Ali", true⟩, none⟩) ∧
      (names 2).walk E rows [.next, .next] = .ok none := by
  intro E rows
  have hlists : (names 2).Lists E rows nameSource [.null, .text "Ali", .text "Bob"] := by
    refine lists_names (by decide) (fun a => ?_) (by simp [Datum.IsKey, Datum.IsText])
    simp only [List.mem_cons, List.not_mem_nil, or_false]
    tauto
  obtain ⟨hwalk, -⟩ := walk_eq_chunk (names 2) E rows _ _ (by decide) hlists
  refine ⟨by decide, hlists, ?_, ?_, ?_⟩
  · rw [hwalk]
    rfl
  · rw [hwalk]
    rfl
  · rw [hwalk]
    rfl

end DistinctListing
end RequestQuery
