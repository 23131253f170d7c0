import Mathlib.Data.List.Basic
import RequestQuery.Cursor

/-! # Pages as chunks of a list

A list that is cut into chunks of one length, the last one shorter if need be,
makes a page of each.  `Page.ofRows` makes the same pages from rows it is given
one too many of: from the beginning of the list, from what follows a chunk, and,
in the opposite direction, from what precedes one (`ofRows_first`, `ofRows_after`,
`ofRows_before`).

Whoever follows the links of such pages goes from chunk to chunk, so where a
sequence of moves leads is known from the lengths alone (`Move.walk`).
-/
namespace RequestQuery

namespace Page

/-- The page of a chunk of a list, the chunks counted from zero. -/
def ofChunk (items : List Json) (perPage i : Nat) : Page Json :=
  let data := (items.drop (i * perPage)).take perPage
  { data, perPage
    next := if (i + 1) * perPage < items.length then data.getLast?.map (⟨·, true⟩) else none
    previous := if 0 < i then data.head?.map (⟨·, false⟩) else none }

variable {items : List Json} {n i : Nat}

/-! ## Pages of rows are chunks -/

theorem ofRows_first (items : List Json) (n : Nat) :
    ofRows (items.take (n + 1)) n none id = ofChunk items n 0 := by
  have hmore : n < (items.take (n + 1)).length ↔ n < items.length := by
    rw [List.length_take]
    omega
  simp only [ofRows, ofChunk, neighbours, hmore, List.take_take,
    Nat.min_eq_left (Nat.le_succ n), id]
  simp

theorem ofRows_after (items : List Json) (n i : Nat) (x : Json) :
    ofRows ((items.drop ((i + 1) * n)).take (n + 1)) n (some ⟨x, true⟩) id =
      ofChunk items n (i + 1) := by
  have hmore : n < ((items.drop ((i + 1) * n)).take (n + 1)).length ↔
      (i + 1 + 1) * n < items.length := by
    rw [List.length_take, List.length_drop, Nat.succ_mul (i + 1)]
    omega
  simp only [ofRows, ofChunk, neighbours, hmore, List.take_take,
    Nat.min_eq_left (Nat.le_succ n), id]
  simp

theorem ofRows_before (hn : 0 < n) (hi : (i + 1) * n < items.length) (x : Json) :
    ofRows ((items.take ((i + 1) * n)).reverse.take (n + 1)) n (some ⟨x, false⟩) id =
      ofChunk items n i := by
  have hlength : (items.take ((i + 1) * n)).length = i * n + n := by
    rw [List.length_take, Nat.succ_mul] at *
    omega
  have hmore : n < ((items.take ((i + 1) * n)).reverse.take (n + 1)).length ↔ 0 < i := by
    have hpositive : 0 < i * n ↔ 0 < i := by simp [hn]
    rw [List.length_take, List.length_reverse, hlength]
    omega
  have hdata : ((items.take ((i + 1) * n)).reverse.take n).reverse =
      (items.drop (i * n)).take n := by
    rw [List.take_reverse, List.reverse_reverse, hlength, Nat.add_sub_cancel, Nat.succ_mul,
      List.drop_take, Nat.add_sub_cancel_left]
  simp only [ofRows, ofChunk, neighbours, hmore, hi, List.take_take,
    Nat.min_eq_left (Nat.le_succ n), id]
  simp [hdata]

/-! ## Links -/

theorem ofChunk_next (hn : 0 < n) (hi : (i + 1) * n < items.length) :
    (ofChunk items n i).next = some ⟨items[(i + 1) * n - 1], true⟩ := by
  have hchunk : min n (items.length - i * n) - 1 < n ∧ i * n + (min n (items.length - i * n) - 1) =
      (i + 1) * n - 1 := by
    rw [Nat.succ_mul] at *
    omega
  simp only [ofChunk, hi, if_true, List.getLast?_eq_getElem?, List.length_take, List.length_drop,
    List.getElem?_take, List.getElem?_drop, hchunk]
  simp [List.getElem?_eq_getElem (show (i + 1) * n - 1 < items.length by omega)]

theorem ofChunk_next_of_last (hi : ¬ (i + 1) * n < items.length) :
    (ofChunk items n i).next = none := by
  simp [ofChunk, hi]

theorem ofChunk_previous (hn : 0 < n) (hi : (i + 1) * n < items.length) :
    (ofChunk items n (i + 1)).previous = some ⟨items[(i + 1) * n], false⟩ := by
  simp only [ofChunk, Nat.succ_pos, if_true, List.head?_take, List.head?_drop]
  simp [Nat.ne_of_gt hn, List.getElem?_eq_getElem hi]

theorem ofChunk_previous_zero : (ofChunk items n 0).previous = none := rfl

/-- The first pages of two lists are the same if the lists begin alike and both go on behind the
page. -/
theorem ofChunk_zero_eq {items' : List Json} (htake : items.take n = items'.take n)
    (h : n < items.length) (h' : n < items'.length) : ofChunk items n 0 = ofChunk items' n 0 := by
  simp [ofChunk, htake, h, h']

end Page

/-! ## Moves -/

/-- A move from a page to the one after it or before it. -/
inductive Move where
  | next
  | previous
  deriving DecidableEq, Repr

/-- The link that a move follows. -/
def Page.link {α : Type} (p : Page α) : Move → Option Cursor
  | .next => p.next
  | .previous => p.previous

namespace Move

variable (length n : Nat)

/-- The chunk that a move leads to from a chunk, if there is one there. -/
def step (i : Nat) : Move → Option Nat
  | next => if (i + 1) * n < length then some (i + 1) else none
  | previous => if 0 < i then some (i - 1) else none

/-- The chunk that moves lead to from a chunk, one after the other. -/
def walk : Nat → List Move → Option Nat
  | i, [] => some i
  | i, move :: rest => (move.step length n i).bind (walk · rest)

/-- Whether a chunk is one of the list.  The first always is, even if it is empty. -/
def IsChunk (i : Nat) : Prop := i = 0 ∨ i * n < length

variable {length n} {i j : Nat}

theorem isChunk_step {move : Move} (hi : IsChunk length n i) (h : move.step length n i = some j) :
    IsChunk length n j := by
  cases move with
  | next =>
    simp only [step, Option.ite_none_right_eq_some, Option.some.injEq] at h
    obtain ⟨hlast, rfl⟩ := h
    exact .inr hlast
  | previous =>
    simp only [step, Option.ite_none_right_eq_some, Option.some.injEq] at h
    obtain ⟨hpositive, rfl⟩ := h
    have : (i - 1) * n ≤ i * n := Nat.mul_le_mul_right n (Nat.sub_le i 1)
    rcases hi with rfl | hi
    · exact .inl rfl
    · exact .inr (by omega)

theorem isChunk_walk {moves : List Move} (hi : IsChunk length n i)
    (h : walk length n i moves = some j) :
    IsChunk length n j := by
  induction moves generalizing i with
  | nil =>
    cases h
    exact hi
  | cons move rest ih =>
    obtain ⟨k, hk, h⟩ := Option.bind_eq_some_iff.mp h
    exact ih (isChunk_step hi hk) h

/-- Going forward only, one comes through the chunks one after the other up to the last. -/
theorem walk_forward (i k : Nat) :
    walk length n i (List.replicate k next) =
      if k = 0 ∨ (i + k) * n < length then some (i + k) else none := by
  induction k generalizing i with
  | zero => simp [walk]
  | succ k ih =>
    rw [List.replicate_succ, walk, step]
    by_cases hnext : (i + 1) * n < length
    · rw [if_pos hnext, Option.bind_some, ih, Nat.add_right_comm, Nat.add_assoc]
      rcases k with _ | k
      · simp [hnext]
      · simp
    · -- Without a next chunk there is none further on either.
      have : (i + 1) * n ≤ (i + (k + 1)) * n := Nat.mul_le_mul_right n (by omega)
      rw [if_neg hnext, if_neg (by omega)]
      rfl

end Move

namespace Page

variable {items : List Json} {n : Nat}

theorem isSome_next {i : Nat} (hn : 0 < n) :
    (ofChunk items n i).next.isSome = true ↔ (i + 1) * n < items.length := by
  by_cases hnext : (i + 1) * n < items.length
  · simp [ofChunk_next hn hnext, hnext]
  · simp [ofChunk_next_of_last hnext, hnext]

theorem isSome_previous {i : Nat} (hn : 0 < n) (hi : Move.IsChunk items.length n i) :
    (ofChunk items n i).previous.isSome = true ↔ 0 < i := by
  cases i with
  | zero => simp [ofChunk_previous_zero]
  | succ i => simp [ofChunk_previous hn (hi.resolve_left (Nat.succ_ne_zero i))]

/-- All chunks of a list, as pages. -/
def chunks (items : List Json) (n : Nat) : List (Page Json) :=
  (List.range ((items.length - 1) / n + 1)).map (ofChunk items n)

theorem getElem?_chunks (hn : 0 < n) (k : Nat) :
    (chunks items n)[k]? =
      (Move.walk items.length n 0 (List.replicate k .next)).map (ofChunk items n) := by
  have hcount : k < (items.length - 1) / n + 1 ↔ k = 0 ∨ k * n < items.length := by
    rw [Nat.lt_succ_iff, Nat.le_div_iff_mul_le hn]
    rcases k with _ | k
    · simp
    · have : 0 < (k + 1) * n := Nat.mul_pos (Nat.succ_pos k) hn
      omega
  rw [Move.walk_forward, Nat.zero_add, chunks, List.getElem?_map]
  by_cases hk : k < (items.length - 1) / n + 1
  · rw [List.getElem?_range hk, if_pos (hcount.mp hk)]
  · rw [List.getElem?_eq_none (by simpa using hk), if_neg (hk ∘ hcount.mpr)]

/-- The first chunks together are the beginning of the list. -/
theorem flatMap_data_range (items : List Json) (n count : Nat) :
    ((List.range count).map (ofChunk items n)).flatMap (·.data) = items.take (count * n) := by
  induction count with
  | zero => simp
  | succ count ih =>
    rw [List.range_succ, List.map_append, List.flatMap_append, ih, Nat.succ_mul, List.take_add]
    simp [ofChunk]

/-- All chunks together are the list. -/
theorem flatMap_data_chunks (hn : 0 < n) : (chunks items n).flatMap (·.data) = items := by
  have hlength : items.length ≤ ((items.length - 1) / n + 1) * n := by
    have := Nat.div_add_mod (items.length - 1) n
    have := Nat.mod_lt (items.length - 1) hn
    rw [Nat.succ_mul, Nat.mul_comm]
    omega
  rw [chunks, flatMap_data_range, List.take_of_length_le hlength]

end Page
end RequestQuery
