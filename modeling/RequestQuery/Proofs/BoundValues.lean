import Mathlib
import RequestQuery.Proofs.Cursor
import RequestQuery.Proofs.Distinct.Source
import RequestQuery.Proofs.Filter.Text
import RequestQuery.Proofs.Sql.Shape

/-! # What a request says is bound

No text of a request becomes text of a statement.  Two values for one operator of
one filterer make conditions of one shape, lists of one length given, and two
cursors make queries of one shape if they point in one direction and are both at
the null or both not.  So what differs between two requests is bound to the
statement, and the statement itself does not change (`sql_independent_of_values`).
-/
namespace RequestQuery

/-! ## Conditions of one operator -/

theorem length_of_mapM_eq_some {α β : Type} {f : α → Option β} {items : List α} {values : List β}
    (h : items.mapM f = some values) : values.length = items.length := by
  induction items generalizing values with
  | nil =>
    cases h
    rfl
  | cons item rest ih =>
    rw [List.mapM_cons] at h
    obtain ⟨v, -, h⟩ := Option.bind_eq_some_iff.mp h
    obtain ⟨vs, hvs, h⟩ := Option.bind_eq_some_iff.mp h
    cases h
    rw [List.length_cons, List.length_cons, ih hvs]

theorem Expr.shape_oneOf {e : Expr} {values values' : List SqlValue}
    (h : values.length = values'.length) :
    (oneOf e values).shape = (oneOf e values').shape := by
  simp only [shape, List.map_const', h]

section
variable {ctx : FilterContext} {c : ColumnRef} {v v' : RawValue} {e e' : Expr}

theorem TextFilter.shape_build {op : TextOperator} (h : build ctx c v op = some e)
    (h' : build ctx c v' op = some e')
    (hlist : op = .oneOf →
      (v.splitList ctx.separator).length = (v'.splitList ctx.separator).length) :
    e.shape = e'.shape := by
  cases op with
  | oneOf =>
    rw [build_oneOf h, build_oneOf h']
    exact Expr.shape_oneOf (by simpa using hlist rfl)
  | _ =>
    cases h
    cases h'
    simp only [Expr.compareTo, Expr.shape]

/-- A list of numbers makes a condition with as many values as it has items. -/
theorem NumberFilter.build_oneOf (h : build ctx c v .oneOf = some e) :
    ∃ values, values.length = (v.splitList ctx.separator).length ∧
      e = .oneOf (subject ctx c) values := by
  simp only [build] at h
  split at h
  · cases h
  · obtain ⟨values, hvalues, rfl⟩ := Option.map_eq_some_iff.mp h
    exact ⟨values, length_of_mapM_eq_some hvalues, rfl⟩

theorem NumberFilter.shape_build {op : NumberOperator} (h : build ctx c v op = some e)
    (h' : build ctx c v' op = some e')
    (hlist : op = .oneOf →
      (v.splitList ctx.separator).length = (v'.splitList ctx.separator).length) :
    e.shape = e'.shape := by
  cases op with
  | compare r =>
    obtain ⟨x, -, rfl⟩ := Option.map_eq_some_iff.mp h
    obtain ⟨x', -, rfl⟩ := Option.map_eq_some_iff.mp h'
    rfl
  | between =>
    simp only [build, Option.bind_eq_bind, Option.bind_eq_some_iff, Option.pure_def,
      Option.some.injEq] at h h'
    obtain ⟨ends, -, low, -, high, -, rfl⟩ := h
    obtain ⟨ends', -, low', -, high', -, rfl⟩ := h'
    rfl
  | oneOf =>
    obtain ⟨values, hvalues, rfl⟩ := build_oneOf h
    obtain ⟨values', hvalues', rfl⟩ := build_oneOf h'
    exact Expr.shape_oneOf (by rw [hvalues, hvalues', hlist rfl])

/-- A list of dates makes a condition with as many values as it has items. -/
theorem DateFilter.build_oneOf (h : build ctx c v .oneOf = some e) :
    ∃ values, values.length = (v.splitList ctx.separator).length ∧
      e = .oneOf (subject ctx c) values := by
  simp only [build] at h
  split at h
  · cases h
  · obtain ⟨dates, hdates, rfl⟩ := Option.map_eq_some_iff.mp h
    exact ⟨dates.map .date, by rw [List.length_map, length_of_mapM_eq_some hdates], rfl⟩

theorem DateFilter.shape_build {op : DateOperator} (h : build ctx c v op = some e)
    (h' : build ctx c v' op = some e')
    (hlist : op = .oneOf →
      (v.splitList ctx.separator).length = (v'.splitList ctx.separator).length) :
    e.shape = e'.shape := by
  cases op with
  | compare r =>
    obtain ⟨d, -, rfl⟩ := Option.map_eq_some_iff.mp h
    obtain ⟨d', -, rfl⟩ := Option.map_eq_some_iff.mp h'
    rfl
  | between | betweenMonths =>
    simp only [build, Option.bind_eq_bind, Option.bind_eq_some_iff, Option.pure_def,
      Option.some.injEq] at h h'
    obtain ⟨ends, -, low, -, high, -, rfl⟩ := h
    obtain ⟨ends', -, low', -, high', -, rfl⟩ := h'
    rfl
  | oneOf =>
    obtain ⟨values, hvalues, rfl⟩ := build_oneOf h
    obtain ⟨values', hvalues', rfl⟩ := build_oneOf h'
    exact Expr.shape_oneOf (by rw [hvalues, hvalues', hlist rfl])
  | month =>
    obtain ⟨d, -, rfl⟩ := Option.map_eq_some_iff.mp h
    obtain ⟨d', -, rfl⟩ := Option.map_eq_some_iff.mp h'
    rfl
  | isNull | isNotNull =>
    cases h
    cases h'
    rfl

/-- Values for one operator of a table make conditions of one shape, if this is so for each operator
and only the one for lists asks for lists of one length. -/
theorem shape_of_code {Op : Type} {table : List Op} {codeOf : Op → String} {one : Op}
    {build : RawValue → Op → Option Expr} {separator : String}
    (hbuild : ∀ {v v' : RawValue} {e e' : Expr} {op : Op},
      build v op = some e → build v' op = some e' →
      (op = one → (v.splitList separator).length = (v'.splitList separator).length) →
      e.shape = e'.shape)
    (hone : codeOf one = "in") {w w' : FilterValue}
    (h : (table.find? (codeOf · == w.operator)).bind (build w.value) = some e)
    (h' : (table.find? (codeOf · == w'.operator)).bind (build w'.value) = some e')
    (hop : w.operator = w'.operator)
    (hlist : w.operator = "in" →
      (w.value.splitList separator).length = (w'.value.splitList separator).length) :
    e.shape = e'.shape := by
  obtain ⟨op, hfind, h⟩ := Option.bind_eq_some_iff.mp h
  obtain ⟨op', hfind', h'⟩ := Option.bind_eq_some_iff.mp h'
  obtain rfl : op = op' := Option.some.inj (hfind.symm.trans (hop ▸ hfind'))
  have hcode : codeOf op = w.operator := by simpa using List.find?_some hfind
  refine hbuild h h' fun heq => hlist ?_
  rw [← hcode, heq, hone]

/-- Values for one operator of a domain make conditions of one shape, lists of one length given. -/
theorem Filterer.shape_buildDomain {domain : Domain} {w w' : FilterValue}
    (h : buildDomain domain ctx c w = some e) (h' : buildDomain domain ctx c w' = some e')
    (hop : w.operator = w'.operator)
    (hlist : w.operator = "in" →
      (w.value.splitList ctx.separator).length = (w'.value.splitList ctx.separator).length) :
    e.shape = e'.shape := by
  cases domain with
  | text => exact shape_of_code TextFilter.shape_build rfl h h' hop hlist
  | number => exact shape_of_code NumberFilter.shape_build rfl h h' hop hlist
  | date => exact shape_of_code DateFilter.shape_build rfl h h' hop hlist

end

/-! ## Places of one kind -/

/-- Whether a value is the null. -/
def Json.isNull : Json → Bool
  | null => true
  | _ => false

/-- What the text of a query shows of its cursor: the direction, and whether its value is null. -/
def Cursor.outline (c : Cursor) : Bool × Bool :=
  (c.forward, c.value.isNull)

/-- The value of a cursor is compared with unless it is the null. -/
theorem Cursor.isNone_of_sqlValue {c : Cursor} {v : Option SqlValue} (h : c.sqlValue = .ok v) :
    v.isNone = c.value.isNull := by
  obtain ⟨value, forward⟩ := c
  cases value <;> cases h <;> rfl

theorem Cursor.shape_placeOf {forward : Bool} {value : Expr} {v v' : Option SqlValue}
    (h : v.isNone = v'.isNone) :
    (placeOf forward value v).shape = (placeOf forward value v').shape := by
  cases v with
  | none =>
    cases v' with
    | none => rfl
    | some v' => cases h
  | some v =>
    cases v' with
    | none => cases h
    | some v' => cases forward <;> rfl

theorem Cursor.shape_condition {c c' : Cursor} {value place place' : Expr}
    (h : c.condition value = .ok place) (h' : c'.condition value = .ok place')
    (hc : c.outline = c'.outline) : place.shape = place'.shape := by
  obtain ⟨hforward, hnull⟩ := Prod.mk.inj hc
  obtain ⟨v, hv, rfl⟩ := condition_eq_ok.mp h
  obtain ⟨v', hv', rfl⟩ := condition_eq_ok.mp h'
  rw [← hforward]
  apply shape_placeOf
  rw [isNone_of_sqlValue hv, isNone_of_sqlValue hv', hnull]

theorem Cursor.shape_mapM_condition {c c' : Option Cursor} {value : Expr}
    {place place' : Option Expr}
    (h : c.mapM (condition · value) = .ok place) (h' : c'.mapM (condition · value) = .ok place')
    (hc : c.map outline = c'.map outline) : place.map Expr.shape = place'.map Expr.shape := by
  cases c with
  | none =>
    cases c' with
    | none =>
      cases h
      cases h'
      rfl
    | some c' => cases hc
  | some c =>
    cases c' with
    | none => cases hc
    | some c' =>
      obtain ⟨e, he, rfl⟩ := mapM_some_eq_ok.mp h
      obtain ⟨e', he', rfl⟩ := mapM_some_eq_ok.mp h'
      exact congrArg some (shape_condition he he' (Option.some.inj hc))

/-- Queries of one listing whose cursors have one outline have one text. -/
theorem DistinctListing.sql_eq_of_outline {d : DistinctListing} {dialect : Dialect}
    {cursor cursor' : Option String} {q q' : DistinctQuery}
    (h : (d.withCursor cursor).build dialect = .ok q)
    (h' : (d.withCursor cursor').build dialect = .ok q')
    (hc : q.cursor.map Cursor.outline = q'.cursor.map Cursor.outline) :
    ((Query.select q.select).statement dialect).sql =
      ((Query.select q'.select).statement dialect).sql := by
  obtain ⟨s, c, place, hs, -, hplace, rfl⟩ := (build_eq_ok ..).mp h
  obtain ⟨s', c', place', hs', -, hplace', rfl⟩ := (build_eq_ok ..).mp h'
  obtain rfl : s = s' := Except.ok.inj (hs.symm.trans hs')
  have hc : c.map Cursor.outline = c'.map Cursor.outline := hc
  have hdirection : direction c = direction c' := by
    cases c <;> cases c' <;> simp_all [direction, Cursor.outline]
  have hshape : place.toList.map Expr.shape = place'.toList.map Expr.shape := by
    rw [← Option.toList_map, ← Option.toList_map, Cursor.shape_mapM_condition hplace hplace' hc]
  -- Now the two queries differ in the condition of their places only.
  simp only [queryOf, ← hdirection]
  exact Select.sql_eq { d.valuesOf s.value (direction c) with limit := some (d.pageSize + 1) }
    (by rw [List.map_append, List.map_append, hshape])

/-! ## No text of a request in a statement -/

/-- **What a request says is bound.**  Values for one operator of a built-in filterer make
statements of one text, lists of one length given, by themselves and as conditions of any query.
The text of the query for a page of a listing shows of its cursor no more than the outline. -/
theorem sql_independent_of_values (dialect : Dialect) :
    (∀ (settings : Settings) (c : ColumnRef) (domain : Domain) (value value' : RawValue)
        (e e' : Expr),
      (Filterer.builtIn domain).build ⟨dialect, settings⟩ c value = some e →
      (Filterer.builtIn domain).build ⟨dialect, settings⟩ c value' = some e' →
      let w := FilterValue.ofRaw settings.filters domain value
      let w' := FilterValue.ofRaw settings.filters domain value'
      w.operator = w'.operator →
      (w.operator = "in" → (w.value.splitList settings.filters.separatorInUse).length =
        (w'.value.splitList settings.filters.separatorInUse).length) →
      (e.statement dialect).sql = (e'.statement dialect).sql ∧
        (e.statement dialect).values.length = (e'.statement dialect).values.length ∧
        ∀ s : Select, ((Query.select (s.filter e)).statement dialect).sql =
          ((Query.select (s.filter e')).statement dialect).sql) ∧
      ∀ (d : DistinctListing) (cursor cursor' : Option String) (q q' : DistinctQuery),
        (d.withCursor cursor).build dialect = .ok q →
        (d.withCursor cursor').build dialect = .ok q' →
        q.cursor.map Cursor.outline = q'.cursor.map Cursor.outline →
        ((Query.select q.select).statement dialect).sql =
          ((Query.select q'.select).statement dialect).sql := by
  constructor
  · intro settings c domain value value' e e' h h' w w' hop hlist
    have hshape : e.shape = e'.shape := Filterer.shape_buildDomain h h' hop hlist
    refine ⟨(Expr.sameShape_statement hshape).1, (Expr.sameShape_statement hshape).2,
      fun s => s.sql_eq ?_⟩
    simp only [List.map_append, List.map_cons, hshape]
  · intro d cursor cursor' q q' h h' hc
    exact DistinctListing.sql_eq_of_outline h h' hc

/-- Quotes, comment marks and wildcards stay out of the text, in a filter and in a cursor. -/
theorem sql_independent_of_quotes :
    let c : ColumnRef := { column := "meta", path := ["label"] }
    let d : DistinctListing := {
      definition := { fields := [.bare "name"] }
      table := ⟨"t"⟩
      base := .ofTable "t" ["name"]
      request := { field := "name" }
      settings := {} }
    (∃ e e', (Filterer.builtIn .text).build ⟨.mysql, {}⟩ c (.single "con|' OR 1=1 --") = some e ∧
      (Filterer.builtIn .text).build ⟨.mysql, {}⟩ c (.single "con|%?") = some e' ∧ e ≠ e' ∧
      (e.statement .mysql).sql = (e'.statement .mysql).sql) ∧
    ∃ q q', (d.withCursor (some (Cursor.encode ⟨.string "'; --", true⟩))).build .mysql = .ok q ∧
      (d.withCursor (some (Cursor.encode ⟨.string "?", true⟩))).build .mysql = .ok q' ∧
      q.select ≠ q'.select ∧
      ((Query.select q.select).statement .mysql).sql =
        ((Query.select q'.select).statement .mysql).sql := by
  intro c d
  obtain ⟨hfilter, hcursor⟩ := sql_independent_of_values .mysql
  constructor
  · have he : (Filterer.builtIn .text).build ⟨.mysql, {}⟩ c (.single "con|' OR 1=1 --") =
        some (.like (c.toCastExpr .mysql "CHAR") "%' OR 1=1 --%") := by cbv
    have he' : (Filterer.builtIn .text).build ⟨.mysql, {}⟩ c (.single "con|%?") =
        some (.like (c.toCastExpr .mysql "CHAR") "%\\%?%") := by cbv
    have hop : (FilterValue.ofRaw {} .text (.single "con|' OR 1=1 --")).operator = "con" := by cbv
    have hop' : (FilterValue.ofRaw {} .text (.single "con|%?")).operator = "con" := by cbv
    refine ⟨_, _, he, he', by decide,
      (hfilter {} c .text _ _ _ _ he he' (hop.trans hop'.symm) fun h => ?_).1⟩
    exact absurd (hop.symm.trans h) (by decide)
  · have hbuild : ∀ text, (d.withCursor (some (Cursor.encode ⟨.string text, true⟩))).build .mysql =
        .ok (d.queryOf ⟨.column (some "t") "name", []⟩ (some ⟨.string text, true⟩)
          (some ((Expr.column (some "t") "name").compareTo .greater (.text text)))) := by
      intro text
      have hsource : d.source .mysql = .ok ⟨.column (some "t") "name", []⟩ := by cbv
      have hdecode : Cursor.decode (Cursor.encode ⟨.string text, true⟩) =
          .ok ⟨.string text, true⟩ :=
        Cursor.decode_encode (.string text) (Nat.zero_le _)
      refine (DistinctListing.build_eq_ok ..).mpr
        ⟨_, some ⟨.string text, true⟩, _, hsource, ?_, rfl, rfl⟩
      simp [DistinctListing.withCursor, hdecode]
    exact ⟨_, _, hbuild "'; --", hbuild "?", by decide,
      hcursor d _ _ _ _ (hbuild "'; --") (hbuild "?") rfl⟩

end RequestQuery
