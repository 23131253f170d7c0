import RequestQuery.ColumnRef
import RequestQuery.Proofs.Text.Joined

/-! # Telling paths apart

A path into a document is a list of keys.  PostgreSQL is given the keys one by one, the
other systems a text in which they are joined, with points or with points between
quotes.  Two references to one column are written alike exactly if the same levels are
found in both paths (`toExpr_eq_iff`), and the levels are the keys exactly if no key holds
what stands between two of them (`levels_eq_self_iff`).  So only on PostgreSQL are
different paths always told apart (`keepsPathsApart_iff`).
-/
namespace RequestQuery

namespace Dialect

/-- The levels that are found in a path once it is written. -/
def levels : Dialect → List String → List String
  | sqlite, path => path.flatMap (Text.splitAt ".")
  | mysql, path => Text.splitAt "\".\"" ("\".\"".intercalate path)
  | postgres, path => path

/-- Whether the keys of a path are found again once it is written. -/
def Legible : Dialect → List String → Prop
  | sqlite, path => ∀ key ∈ path, '.' ∉ key.toList
  | mysql, path => Text.Separable "\".\"" path
  | postgres, _ => True

/-- The character that ends a key in a path that is written as one text. -/
def delimiter? : Dialect → Option Char
  | sqlite => some '.'
  | mysql => some '"'
  | postgres => none

variable {path : List String}

theorem levels_eq_self_iff (h : path ≠ []) (d : Dialect) : d.levels path = path ↔ d.Legible path := by
  cases d with
  | sqlite =>
    rw [levels, ← Text.splitAt_intercalate_eq_flatMap rfl h,
      Text.splitAt_intercalate_eq_self_iff (by decide) h]
    exact Text.separable_iff_not_mem rfl
  | mysql => exact Text.splitAt_intercalate_eq_self_iff (by decide) h
  | postgres => exact iff_of_true rfl trivial

/-- Keys without the character that ends a key are found again, whatever else is in them. -/
theorem legible_of_not_mem {d : Dialect} (h : ∀ c ∈ d.delimiter?, ∀ key ∈ path, c ∉ key.toList) :
    d.Legible path := by
  cases d with
  | sqlite => exact h '.' rfl
  | mysql =>
    have hcloses : ∀ key ∈ path, Text.Closes "\".\"" key := fun key hkey =>
      Text.closes_of_head_not_mem rfl (h '"' rfl key hkey)
    constructor
    · exact fun key hkey => hcloses key (List.dropLast_subset path hkey)
    · exact fun key hkey => (hcloses key (List.mem_of_getLast? hkey)).not_occurs (by decide)
  | postgres => trivial

end Dialect

namespace ColumnRef

variable {c c' : ColumnRef}

theorem columnExpr_eq_iff : c.columnExpr = c'.columnExpr ↔ c.table = c'.table ∧ c.column = c'.column := by
  rw [columnExpr, columnExpr, Expr.column.injEq]

/-- The quotes around the keys stand at both ends and around the points. -/
theorem intercalate_quoted {path : List String} (h : path ≠ []) :
    ".".intercalate (path.map fun key => "\"" ++ key ++ "\"") =
      "\"" ++ "\".\"".intercalate path ++ "\"" := by
  induction path with
  | nil => exact absurd rfl h
  | cons key rest ih =>
    cases rest with
    | nil => simp
    | cons next rest =>
      have hmark : "\".\"" = "\"" ++ "." ++ "\"" := rfl
      rw [List.map_cons, String.intercalate_cons_of_ne_nil (by simp), ih (List.cons_ne_nil next rest),
        String.intercalate_cons_cons, hmark]
      simp only [String.append_assoc]

/-- **References are written alike** exactly if they are to one column and the same levels are found in
their paths. -/
theorem toExpr_eq_iff (h : c.path ≠ []) (h' : c'.path ≠ []) (d : Dialect) :
    c.toExpr d = c'.toExpr d ↔
      c.table = c'.table ∧ c.column = c'.column ∧ d.levels c.path = d.levels c'.path := by
  have hpath : c.path.isEmpty = false := by simpa using h
  have hpath' : c'.path.isEmpty = false := by simpa using h'
  rw [← and_assoc, ← columnExpr_eq_iff]
  simp only [toExpr, hpath, hpath']
  cases d with
  | sqlite =>
    rw [Dialect.levels, Dialect.levels, ← Text.splitAt_intercalate_eq_flatMap rfl h,
      ← Text.splitAt_intercalate_eq_flatMap rfl h', Text.splitAt_inj]
    simp [String.append_right_inj]
  | mysql =>
    rw [Dialect.levels, Dialect.levels, Text.splitAt_inj]
    simp [intercalate_quoted h, intercalate_quoted h']
  | postgres =>
    have htexts : Function.Injective SqlValue.text := fun _ _ heq => SqlValue.text.inj heq
    simp [Dialect.levels, htexts.list_map.eq_iff]

/-! ## References that are read -/

/-- Different paths to one column are never written alike. -/
def KeepsPathsApart (d : Dialect) : Prop :=
  ∀ s s' : String, (parse s).table = (parse s').table → (parse s).column = (parse s').column →
    (parse s).path ≠ [] → (parse s').path ≠ [] → (parse s).path ≠ (parse s').path →
    (parse s).toExpr d ≠ (parse s').toExpr d

/-- A key with a point is written as two keys on SQLite, one with a quoted point as two on MySQL. -/
theorem not_keepsPathsApart_of_ne {d : Dialect} (h : d ≠ .postgres) : ¬ KeepsPathsApart d := by
  have hnested : parse "meta->a->b" = { column := "meta", path := ["a", "b"] } := by decide +kernel
  intro happart
  cases d with
  | sqlite =>
    have hdotted : parse "meta->a.b" = { column := "meta", path := ["a.b"] } := by decide +kernel
    have hdiffer := happart "meta->a.b" "meta->a->b"
    rw [hdotted, hnested] at hdiffer
    exact hdiffer rfl rfl (by decide) (by decide) (by decide) rfl
  | mysql =>
    have hquoted : parse "meta->a\".\"b" = { column := "meta", path := ["a\".\"b"] } := by decide +kernel
    have hdiffer := happart "meta->a\".\"b" "meta->a->b"
    rw [hquoted, hnested] at hdiffer
    exact hdiffer rfl rfl (by decide) (by decide) (by decide) rfl
  | postgres => exact h rfl

/-- **Where different paths are told apart.**  PostgreSQL is the only system where they always are.
On every one, two references into documents are written alike exactly if they are to one column and
the same levels are found in their paths.  These are the keys exactly if the path is legible, as paths
are that do not have the character that ends a key in one; so different legible paths are told apart. -/
theorem keepsPathsApart_iff (d : Dialect) :
    (KeepsPathsApart d ↔ d = .postgres) ∧
      (∀ c c' : ColumnRef, c.path ≠ [] → c'.path ≠ [] →
        (c.toExpr d = c'.toExpr d ↔
          c.table = c'.table ∧ c.column = c'.column ∧ d.levels c.path = d.levels c'.path)) ∧
      ∀ path : List String, path ≠ [] →
        (d.levels path = path ↔ d.Legible path) ∧
        ((∀ c ∈ d.delimiter?, ∀ key ∈ path, c ∉ key.toList) → d.Legible path) := by
  refine ⟨⟨fun h => ?_, ?_⟩, fun c c' h h' => toExpr_eq_iff h h' d, fun path hpath => ⟨?_, ?_⟩⟩
  · by_contra hne
    exact not_keepsPathsApart_of_ne hne h
  · rintro rfl s s' htable hcolumn hpath hpath' hne halike
    exact hne ((toExpr_eq_iff hpath hpath' .postgres).mp halike).2.2
  · exact Dialect.levels_eq_self_iff hpath d
  · exact Dialect.legible_of_not_mem

/-- Two paths of two keys, in which three levels are found on SQLite and two different ones on MySQL. -/
theorem keepsPathsApart_shifted_point :
    let c : ColumnRef := { table := some "clients", column := "meta", path := ["a.b", "c"] }
    let c' : ColumnRef := { table := some "clients", column := "meta", path := ["a", "b.c"] }
    parse "clients.meta->a.b->c" = c ∧ parse "clients.meta->a->b.c" = c' ∧
      c.path ≠ [] ∧ c'.path ≠ [] ∧ c.toExpr .sqlite = c'.toExpr .sqlite ∧
      c.toExpr .mysql ≠ c'.toExpr .mysql := by
  intro c c'
  have hpath : c.path ≠ [] := List.cons_ne_nil _ _
  have hpath' : c'.path ≠ [] := List.cons_ne_nil _ _
  refine ⟨by decide +kernel, by decide +kernel, hpath, hpath', ?_, fun halike => ?_⟩
  · obtain ⟨-, halike_iff, -⟩ := keepsPathsApart_iff .sqlite
    refine (halike_iff c c' hpath hpath').mpr ⟨rfl, rfl, ?_⟩
    decide +kernel
  · obtain ⟨-, halike_iff, hlegible⟩ := keepsPathsApart_iff .mysql
    have hlevels := ((halike_iff c c' hpath hpath').mp halike).2.2
    obtain ⟨hfound, hquotes⟩ := hlegible c.path hpath
    obtain ⟨hfound', hquotes'⟩ := hlegible c'.path hpath'
    have hplain (path : List String) (h : ∀ key ∈ path, '"' ∉ key.toList) :
        ∀ q ∈ Dialect.mysql.delimiter?, ∀ key ∈ path, q ∉ key.toList := by
      rintro q ⟨⟩
      exact h
    rw [hfound.mpr (hquotes (hplain _ (by decide))), hfound'.mpr (hquotes' (hplain _ (by decide)))] at hlevels
    exact absurd hlevels (by decide)

/-- A key with a point in it and two keys are written alike on SQLite. -/
theorem not_keepsPathsApart_point :
    (parse "meta->a.b").path = ["a.b"] ∧ (parse "meta->a->b").path = ["a", "b"] ∧
      (parse "meta->a.b").toExpr .sqlite = (parse "meta->a->b").toExpr .sqlite ∧
      ¬ KeepsPathsApart .sqlite :=
  ⟨by decide +kernel, by decide +kernel, by decide +kernel, not_keepsPathsApart_of_ne (by decide)⟩

end ColumnRef
end RequestQuery
