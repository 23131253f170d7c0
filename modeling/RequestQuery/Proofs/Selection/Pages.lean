import Mathlib.Algebra.Order.Floor.Div
import RequestQuery.Proofs.Selection.Labels
import RequestQuery.Proofs.Sql.Answer
import RequestQuery.Proofs.Sql.Binary
import RequestQuery.SelectPage

/-! # Pages of options cover the rows

Two answers make a page: how many rows a query has, and the rows that its limit and its
offset leave.  A database serves a query with some rows if both are about these rows
(`Database.Serves`), as an engine does that evaluates the clauses of a query
(`Database.serves_ofEngine`).

The pages of the count are as many as the rows fill, so there is one behind a page exactly
if a row is (`lt_pageCount_iff`).  From that and the offset follows what one page shows
(`Database.Serves.data_fetch`, `Database.Serves.hasMore_fetch`), and by induction on the
rows that are left what all pages show that are read as long as there are more
(`Database.Serves.exists_reads`).
-/
namespace RequestQuery

/-! ## The number of pages -/

/-- The pages are as many as the rows fill, the last one perhaps in part. -/
theorem pageCount_eq_ceilDiv (rows : Nat) {perPage : Nat} (h : 0 < perPage) :
    pageCount rows perPage = rows ⌈/⌉ perPage := by
  have hparts := Nat.div_add_mod rows perPage
  have hrest := Nat.mod_lt rows h
  rw [pageCount, Nat.ceilDiv_eq_add_pred_div, eq_comm, Nat.div_eq_iff h, Nat.add_mul, Nat.mul_comm]
  split
  · rw [Nat.one_mul]
    omega
  · rw [Nat.zero_mul]
    omega

/-- There is a page behind so many exactly if there is a row behind theirs. -/
theorem lt_pageCount_iff {rows perPage k : Nat} (h : 0 < perPage) :
    k < pageCount rows perPage ↔ perPage * k < rows := by
  rw [pageCount_eq_ceilDiv rows h, ← not_le, ceilDiv_le_iff_le_smul h, smul_eq_mul, not_le]

/-! ## Databases -/

/-- A database, as far as pages ask it: it counts the rows of a query and reads them. -/
structure Database (α : Type) where
  count : Query → Nat
  rows : Query → List α

namespace Database

variable {α : Type}

/-- The rows of a query are these, however often it is asked: so many are counted, and a limit and an
offset leave a part of them. -/
structure Serves (db : Database α) (select : Select) (rows : List α) : Prop where
  count : db.count (.count select) = rows.length
  rows : ∀ limit offset : Nat,
    db.rows (.select { select with limit := some limit, offset := some offset }) =
      (rows.drop offset).take limit

/-- The database of a table and an engine, the answers read by a function. -/
def ofEngine (E : Engine) (table : List Row) (read : List Datum → α) : Database α where
  count
    | .count s => ({ s with order := [], limit := none, offset := none }.answer E table).length
    | .select _ => 1
  rows
    | .select s => (s.answer E table).map read
    | .count _ => []

/-- An engine serves every query with the rows that it answers it with. -/
theorem serves_ofEngine (E : Engine) (table : List Row) (read : List Datum → α) (s : Select) :
    (ofEngine E table read).Serves s
      (({ s with limit := none, offset := none }.answer E table).map read) := by
  constructor
  case count =>
    have hlength (order : List OrderTerm) :
        ({ s with order := order, limit := none, offset := none }.answer E table).length =
          (s.kept E table).length := by
      simp only [Select.answer, Select.window, Select.sorted, List.length_map]
      exact (List.perm_insertionSort _ _).length_eq
    rw [List.length_map]
    exact (hlength []).trans (hlength s.order).symm
  case rows =>
    intro limit offset
    simp only [ofEngine, Select.answer, Select.window, List.map_take, List.map_drop]
    rfl

end Database

/-! ## One page -/

namespace SelectPaging

variable {α : Type} [Selectable α]

/-- The page that a database answers. -/
def fetch (p : SelectPaging) (db : Database α) : SelectPage :=
  p.ofAnswers (db.count p.countQuery) (db.rows p.pageQuery)

/-- The page behind. -/
def next (p : SelectPaging) : SelectPaging :=
  { p with page := p.number + 1 }

/-- The pages from one on that are read as long as there are more. -/
inductive Reads (db : Database α) : SelectPaging → List SelectPage → Prop where
  | last {p : SelectPaging} (h : (p.fetch db).hasMore = false) : Reads db p [p.fetch db]
  | more {p : SelectPaging} {pages : List SelectPage} (h : (p.fetch db).hasMore = true)
    (hrest : Reads db p.next pages) : Reads db p (p.fetch db :: pages)

theorem size_pos (p : SelectPaging) : 0 < p.size := Nat.le_max_right _ _

/-- Pages are read in one way only. -/
theorem Reads.unique {db : Database α} {p : SelectPaging} {pages others : List SelectPage}
    (h : Reads db p pages) (h' : Reads db p others) : pages = others := by
  induction h generalizing others with
  | last hlast =>
    cases h' with
    | last => rfl
    | more hmore => rw [hlast] at hmore; cases hmore
  | more hmore _ ih =>
    cases h' with
    | last hlast => rw [hlast] at hmore; cases hmore
    | more _ hrest => rw [ih hrest]

end SelectPaging

namespace Database.Serves

open SelectPaging

variable {α : Type} [Selectable α] {db : Database α} {select : Select} {rows : List α}
  (h : db.Serves select rows) {perPage : Nat}
include h

/-- There is more exactly if a row lies beyond the page. -/
theorem hasMore_fetch (perPage page : Nat) :
    ((SelectPaging.mk select perPage page).fetch db).hasMore = true ↔
      max perPage 1 * max page 1 < rows.length := by
  have hcount : db.count (SelectPaging.mk select perPage page).countQuery = rows.length := h.count
  rw [fetch, hcount]
  exact decide_eq_true_iff.trans (lt_pageCount_iff (size_pos _))

/-- A page shows the rows from its place on, as many as it holds. -/
theorem data_fetch (perPage page : Nat)
    (hfits : max perPage 1 * (max page 1 - 1) < 0x10000000000000000) :
    ((SelectPaging.mk select perPage page).fetch db).data =
      ((rows.drop (max perPage 1 * (max page 1 - 1))).take (max perPage 1)).map Selectable.selector := by
  have hskipped : (SelectPaging.mk select perPage page).skipped = max perPage 1 * (max page 1 - 1) :=
    Nat.mod_eq_of_lt hfits
  have hrows := h.rows (max perPage 1) (max perPage 1 * (max page 1 - 1))
  rw [← hrows, ← hskipped]
  rfl

/-! ## All pages -/

/-- From the page behind so many on, the pages that are read show the rows behind theirs. -/
theorem exists_reads
    (hfits : ∀ k, max perPage 1 * k < rows.length → max perPage 1 * k < 0x10000000000000000) (k : Nat)
    (hk : max perPage 1 * k < 0x10000000000000000) :
    ∃ pages, Reads db ⟨select, perPage, k + 1⟩ pages ∧
      pages.flatMap (·.data) = (rows.drop (max perPage 1 * k)).map Selectable.selector := by
  have hsize : 0 < max perPage 1 := Nat.le_max_right _ _
  -- the rows that are left become fewer with every page
  induction hleft : rows.length - max perPage 1 * k using Nat.strong_induction_on generalizing k with
  | _ left ih =>
    have hnumber : max (k + 1) 1 = k + 1 := Nat.max_eq_left (Nat.succ_le_succ (Nat.zero_le k))
    have hdata := h.data_fetch perPage (k + 1) (by rwa [hnumber])
    have hmore := h.hasMore_fetch perPage (k + 1)
    rw [hnumber, Nat.add_sub_cancel] at hdata
    rw [hnumber, Nat.mul_succ] at hmore
    by_cases hbehind : max perPage 1 * k + max perPage 1 < rows.length
    · have hnext : (SelectPaging.mk select perPage (k + 1)).next = ⟨select, perPage, k + 1 + 1⟩ := by
        rw [next, number, hnumber]
      obtain ⟨pages, hreads, hall⟩ := ih (rows.length - max perPage 1 * (k + 1))
        (by rw [Nat.mul_succ]; omega) (k + 1) (hfits (k + 1) hbehind) rfl
      refine ⟨_, .more (hmore.mpr hbehind) (hnext ▸ hreads), ?_⟩
      rw [List.flatMap_cons, hdata, hall, Nat.mul_succ, ← List.map_append, ← List.drop_drop,
        List.take_append_drop]
    · refine ⟨_, .last (Bool.eq_false_iff.mpr (mt hmore.mp hbehind)), ?_⟩
      have hlast : (rows.drop (max perPage 1 * k)).length ≤ max perPage 1 := by
        rw [List.length_drop]
        omega
      rw [List.flatMap_singleton, hdata, List.take_of_length_le hlast]

/-- **Pages cover the rows.**  A page shows the options of the rows from its place on, as many as it
holds, and tells whether a row lies beyond it; behind the last row pages are empty and the last ones.  The
pages that are read one after the other as long as there are more come to an end, and show the option of
every row once and in order. -/
theorem pages_cover_rows (perPage : Nat) :
    (∀ page, max perPage 1 * (max page 1 - 1) < 0x10000000000000000 →
      let shown := (SelectPaging.mk select perPage page).fetch db
      shown.data =
          ((rows.drop (max perPage 1 * (max page 1 - 1))).take (max perPage 1)).map Selectable.selector ∧
        (shown.hasMore = true ↔ max perPage 1 * max page 1 < rows.length) ∧
        shown.perPage = max perPage 1 ∧ shown.currentPage = max page 1 ∧
        (rows.length ≤ max perPage 1 * (max page 1 - 1) → shown.data = [] ∧ shown.hasMore = false)) ∧
    ((∀ k, max perPage 1 * k < rows.length → max perPage 1 * k < 0x10000000000000000) →
      ∃ pages, (∀ others, Reads db ⟨select, perPage, 1⟩ others ↔ others = pages) ∧
        pages.flatMap (·.data) = rows.map Selectable.selector) := by
  constructor
  · intro page hfits
    have hdata := h.data_fetch perPage page hfits
    have hmore := h.hasMore_fetch perPage page
    refine ⟨hdata, hmore, rfl, rfl, fun hend => ⟨?_, ?_⟩⟩
    · rw [hdata, List.drop_of_length_le hend, List.take_nil, List.map_nil]
    · have hbefore : max perPage 1 * (max page 1 - 1) ≤ max perPage 1 * max page 1 :=
        Nat.mul_le_mul_left _ (Nat.sub_le _ _)
      exact Bool.eq_false_iff.mpr (mt hmore.mp (Nat.not_lt.mpr (hend.trans hbefore)))
  · intro hfits
    obtain ⟨pages, hreads, hall⟩ := h.exists_reads hfits 0 (by simp)
    refine ⟨pages, fun others => ⟨fun hothers => hothers.unique hreads, ?_⟩, hall⟩
    rintro rfl
    exact hreads

end Database.Serves

/-- The option of a row that is a name. -/
def nameOption (values : List Datum) : SelectOption :=
  let name := (values.head?.bind Datum.text?).getD ""
  ⟨.string name, name⟩

/-- Three names on pages of two, from a table that has them in another order. -/
theorem pages_cover_rows_of_table :
    let db := Database.ofEngine (.binary .sqlite fun _ _ x _ => x)
      (["Bob", "Carl", "Alina"].map fun name _ _ => .text name) nameOption
    let select := (Select.ofTable "people" ["name"]).orderBy (.column none "name") .ascending
    let options := ["Alina", "Bob", "Carl"].map fun name => nameOption [.text name]
    ((SelectPaging.mk select 2 0).fetch db).data = options.take 2 ∧
      ((SelectPaging.mk select 2 0).fetch db).hasMore = true ∧
      ((SelectPaging.mk select 2 2).fetch db).data = options.drop 2 ∧
      ((SelectPaging.mk select 2 2).fetch db).hasMore = false ∧
      ((SelectPaging.mk select 2 3).fetch db).data = [] ∧
      ∃ pages, SelectPaging.Reads db ⟨select, 2, 1⟩ pages ∧ pages.flatMap (·.data) = options := by
  intro db select options
  have hanswer : ({ select with limit := none, offset := none }.answer (.binary .sqlite fun _ _ x _ => x)
      (["Bob", "Carl", "Alina"].map fun name _ _ => .text name)) =
        [[.text "Alina"], [.text "Bob"], [.text "Carl"]] := by
    decide +kernel
  have hserves : db.Serves select options := by
    have h := Database.serves_ofEngine (.binary .sqlite fun _ _ x _ => x)
      (["Bob", "Carl", "Alina"].map fun name _ _ => .text name) nameOption select
    rwa [hanswer] at h
  obtain ⟨hpage, hall⟩ := hserves.pages_cover_rows 2
  obtain ⟨hfirst, hmore, -⟩ := hpage 0 (by decide)
  obtain ⟨hlast, hend, -⟩ := hpage 2 (by decide)
  obtain ⟨-, -, -, -, hempty⟩ := hpage 3 (by decide)
  obtain ⟨pages, hreads, hdata⟩ := hall fun k hk => hk.trans (by decide)
  exact ⟨hfirst, hmore.mpr (by decide), hlast, Bool.eq_false_iff.mpr (mt hend.mp (by decide)),
    (hempty (by decide)).1, pages, (hreads pages).mpr rfl, hdata⟩

end RequestQuery
