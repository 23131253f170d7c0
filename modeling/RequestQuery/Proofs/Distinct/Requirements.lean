import RequestQuery.Proofs.Definition.Addons
import RequestQuery.Proofs.Distinct.Source

/-! # When a listing fails

A request for distinct values has to meet five requirements, which are checked in
a fixed order.  The first that is not met makes the error, and so decides whose
mistake it is: that of the client or that of the configuration
(`DistinctListing.build_requirements`).  Nothing else makes a request fail.  What
a filter on the values says is no requirement: where its operator is unknown, or
its operand cannot be read, there is no condition.  And the filterer in the
settings is not asked for unless there is a filter to apply.
-/
namespace RequestQuery

/-! ## Checks one after the other -/

section
variable {α ε : Type} {check : α → Except ε Unit}

theorem forM_eq_ok_iff {items : List α} :
    forM items check = .ok () ↔ ∀ a ∈ items, check a = .ok () := by
  induction items with
  | nil => simp [pure, Except.pure]
  | cons first rest ih =>
    rw [List.forM_cons, List.forall_mem_cons, ← ih]
    cases check first <;> simp [bind, Except.bind]

/-- The first check that fails gives the error. -/
theorem forM_eq_error {before after : List α} {a : α} {e : ε}
    (hbefore : ∀ b ∈ before, check b = .ok ()) (h : check a = .error e) :
    forM (before ++ a :: after) check = .error e := by
  rw [List.forM_append, forM_eq_ok_iff.mpr hbefore, List.forM_cons, h]
  rfl

theorem map_eq_ok_iff {x : Except ε α} : x.map (fun _ => ()) = .ok () ↔ ∃ a, x = .ok a := by
  cases x <;> simp [Except.map]

theorem map_eq_error_iff {x : Except ε α} {e : ε} :
    x.map (fun _ => ()) = .error e ↔ x = .error e := by
  cases x <;> simp [Except.map]

end

theorem Filterer.exists_named_iff {name : String} :
    (∃ filterer, Filterer.named name = .ok filterer) ↔ ∃ domain, Domain.read name = .ok domain := by
  unfold Filterer.named
  cases Domain.read name <;> simp

theorem QueryError.message_unknownFilterer (name : String) : (unknownFilterer name).message =
    "configuration error: Filterer [" ++ name ++ "] does not exist." := by
  have hwords : "configuration error: Filterer [" = "configuration error: " ++ "Filterer [" := by
    decide
  have hmessage : (unknownFilterer name).message =
      "configuration error: " ++ ("Filterer [" ++ name ++ "] does not exist.") := rfl
  simp only [hmessage, hwords, String.append_assoc]

/-! ## Values that a cursor can be at -/

/-- Whether a value has parts: such a value is not compared with. -/
def Json.IsCompound : Json → Prop
  | .array _ | .object _ => True
  | _ => False

namespace Cursor

variable {c : Cursor}

theorem exists_sqlValue_iff : (∃ v, c.sqlValue = .ok v) ↔ ¬ c.value.IsCompound := by
  unfold sqlValue
  cases c.value <;> simp [Json.IsCompound]

theorem eq_of_sqlValue_eq_error {e : QueryError} (h : c.sqlValue = .error e) : e = .invalidCursor := by
  unfold sqlValue at h
  cases hvalue : c.value <;> simp_all

theorem eq_of_decode_eq_error {text : String} {e : QueryError} (h : decode text = .error e) :
    e = .invalidCursor := by
  simp only [decode] at h
  split at h <;> cases h
  rfl

end Cursor

/-! ## Requirements -/

/-- What a request for distinct values has to meet. -/
inductive Requirement where
  /-- The definition resolves with all addons. -/
  | definition
  /-- The field is one that requests may filter by. -/
  | field
  /-- There is a filterer, if there is a filter. -/
  | filterer
  /-- The cursor, if there is one, can be read. -/
  | cursor
  /-- The cursor is at a value that the values of the field can be compared with. -/
  | comparable
  deriving DecidableEq, Repr

namespace Requirement

/-- The requirements in the order in which they are checked. -/
def inOrder : List Requirement := [definition, field, filterer, cursor, comparable]

theorem mem_inOrder (r : Requirement) : r ∈ inOrder := by
  cases r <;> decide

/-- Whether a listing meets a requirement. -/
def IsMet (d : DistinctListing) : Requirement → Prop
  | definition => ∃ fields, d.definition.resolve d.table .all d.settings = .ok fields
  | field => ∀ fields, d.definition.resolve d.table .all d.settings = .ok fields →
      d.request.field ∈ fields.filters.names
  | filterer => d.request.filter ≠ none → d.filterer = none →
      ∃ domain, Domain.read d.settings.distinct.defaultFilterer = .ok domain
  | cursor => ∀ text, d.request.cursor = some text → ∃ c, Cursor.decode text = .ok c
  | comparable => ∀ text, d.request.cursor = some text →
      ∀ c, Cursor.decode text = .ok c → ¬ c.value.IsCompound

/-- Whether an error is the one for a requirement that a listing does not meet. -/
def IsReportedAs (d : DistinctListing) (e : QueryError) : Requirement → Prop
  | definition => e.kind = .config ∧ d.definition.resolve d.table .all d.settings = .error e
  | field => e.kind = .badRequest ∧ e.message = "Invalid distinct field."
  | filterer => e.kind = .config ∧ e.message = "configuration error: Filterer [" ++
      d.settings.distinct.defaultFilterer ++ "] does not exist."
  | cursor | comparable => e.kind = .badRequest ∧ e.message = "Invalid cursor."

end Requirement

namespace DistinctListing

/-- Checks a requirement, the earlier ones being met. -/
def check (d : DistinctListing) : Requirement → Except QueryError Unit
  | .definition => (d.definition.resolve d.table .all d.settings).map fun _ => ()
  | .field =>
    match d.definition.resolve d.table .all d.settings with
    | .ok fields =>
      if d.request.field ∈ fields.filters.names then .ok () else .error .invalidDistinctField
    | .error _ => .ok ()
  | .filterer => if d.request.filter.isSome then d.chosenFilterer.map fun _ => () else .ok ()
  | .cursor => (d.request.cursor.mapM Cursor.decode).map fun _ => ()
  | .comparable =>
    match d.request.cursor.mapM Cursor.decode with
    | .ok (some c) => c.sqlValue.map fun _ => ()
    | _ => .ok ()

variable (d : DistinctListing) (dialect : Dialect)

/-- The first three checks are those of what the listing reads from. -/
theorem source_checks : (d.source dialect).map (fun _ => ()) =
    forM [Requirement.definition, .field, .filterer] d.check := by
  unfold source
  simp only [List.forM_cons, List.forM_nil, check]
  cases d.definition.resolve d.table .all d.settings with
  | error e => rfl
  | ok fields =>
    by_cases hfield : d.request.field ∈ fields.filters.names
    · obtain ⟨allowed, hallowed⟩ := Keyed.exists_get?_iff.mpr hfield
      rw [← ResolvedFields.filter?] at hallowed
      cases d.request.filter <;> cases d.chosenFilterer <;>
        simp [hfield, hallowed, bind, Except.bind, pure, Except.pure, Functor.map, Except.map]
    · have hnone : fields.filter? d.request.field = none := Keyed.get?_eq_none_iff.mpr hfield
      simp [hfield, hnone, bind, Except.bind, Except.map]

/-- The last two checks are those of the place where the page begins. -/
theorem place_checks (value : Expr) :
    ((d.request.cursor.mapM Cursor.decode).bind
      fun cursor => cursor.mapM (Cursor.condition · value)).map (fun _ => ()) =
        forM [Requirement.cursor, .comparable] d.check := by
  simp only [List.forM_cons, List.forM_nil, check]
  cases d.request.cursor.mapM Cursor.decode with
  | error e => rfl
  | ok cursor =>
    cases cursor with
    | none => rfl
    | some c =>
      cases h : c.sqlValue <;>
        simp [Cursor.condition, h, bind, Except.bind, pure, Except.pure, Functor.map, Except.map]

/-- A query is built exactly if all checks pass, and otherwise the first that fails gives the
error. -/
theorem build_checks : (d.build dialect).map (fun _ => ()) = forM Requirement.inOrder d.check := by
  have horder :
      Requirement.inOrder = [.definition, .field, .filterer] ++ [.cursor, .comparable] := rfl
  -- the source is read before the cursor, so its checks come first
  rw [build_eq, horder, List.forM_append, ← source_checks d dialect]
  cases d.source dialect with
  | error e => rfl
  | ok s =>
    refine Eq.trans ?_ (d.place_checks s.value)
    simp only [bind, Except.bind, pure, Except.pure]
    cases d.request.cursor.mapM Cursor.decode with
    | error e => rfl
    | ok cursor =>
      simp only
      cases cursor.mapM (Cursor.condition · s.value) <;> rfl

variable {d}

theorem check_eq_ok_iff (r : Requirement) : d.check r = .ok () ↔ r.IsMet d := by
  cases r with
  | definition => exact map_eq_ok_iff
  | field =>
    simp only [check, Requirement.IsMet]
    cases d.definition.resolve d.table .all d.settings with
    | error e =>
      -- no field is looked up where there are none
      simp
    | ok fields =>
      by_cases hfield : d.request.field ∈ fields.filters.names <;> simp [hfield]
  | filterer =>
    simp only [check, Requirement.IsMet, chosenFilterer]
    cases d.request.filter with
    | none => simp
    | some text =>
      cases d.filterer with
      | none => simp [map_eq_ok_iff, Filterer.exists_named_iff]
      | some filterer => simp [Except.map]
  | cursor =>
    simp only [check, Requirement.IsMet, map_eq_ok_iff]
    cases d.request.cursor with
    | none => simp [pure, Except.pure]
    | some text =>
      simp only [mapM_some_eq_ok, Option.some.injEq, forall_eq']
      rw [exists_comm]
      simp
  | comparable =>
    simp only [check, Requirement.IsMet]
    cases d.request.cursor with
    | none => simp [pure, Except.pure]
    | some text =>
      simp only [Option.mapM_some, Option.some.injEq, forall_eq']
      cases Cursor.decode text with
      | error e =>
        -- a cursor that cannot be read is at no value
        simp [Functor.map, Except.map]
      | ok c =>
        rw [Except.map_ok]
        simp only [Except.ok.injEq, forall_eq', ← Cursor.exists_sqlValue_iff, map_eq_ok_iff]

/-- All addons together fail to resolve only by a mistake of the configuration. -/
theorem kind_of_resolve_all {e : QueryError}
    (h : d.definition.resolve d.table .all d.settings = .error e) : e.kind = .config := by
  by_cases hbroken : d.settings.HasBrokenAddon
  · have hconfig : ∃ filterer, d.definition.resolve d.table .all d.settings =
        .error (.unknownFilterer filterer) := QueryDefinition.resolve_of_hasBrokenAddon hbroken
    obtain ⟨filterer, hfilterer⟩ := hconfig
    cases hfilterer.symm.trans h
    rfl
  · have hfine : ∃ fields, d.definition.resolve d.table .all d.settings = .ok fields :=
      QueryDefinition.exists_resolve_all hbroken
    obtain ⟨fields, hfields⟩ := hfine
    cases hfields.symm.trans h

theorem isReportedAs_of_check {r : Requirement} {e : QueryError} (h : d.check r = .error e) :
    r.IsReportedAs d e := by
  cases r with
  | definition =>
    have herror := map_eq_error_iff.mp h
    exact ⟨kind_of_resolve_all herror, herror⟩
  | field =>
    simp only [check] at h
    split at h
    · split at h <;> cases h
      exact ⟨rfl, rfl⟩
    · cases h
  | filterer =>
    simp only [check, chosenFilterer] at h
    split at h
    · split at h
      · cases h
      · cases Filterer.eq_of_named_eq_error (map_eq_error_iff.mp h)
        exact ⟨rfl, QueryError.message_unknownFilterer _⟩
    · cases h
  | cursor =>
    obtain ⟨text, -, hdecode⟩ := exists_of_mapM_eq_error (map_eq_error_iff.mp h)
    cases Cursor.eq_of_decode_eq_error hdecode
    exact ⟨rfl, rfl⟩
  | comparable =>
    simp only [check] at h
    split at h
    · cases Cursor.eq_of_sqlValue_eq_error (map_eq_error_iff.mp h)
      exact ⟨rfl, rfl⟩
    · cases h

/-! ## What fails a request -/

/-- The listing with another filter on the values, or none. -/
def withFilter (d : DistinctListing) (filter : Option String) : DistinctListing :=
  { d with request := { d.request with filter } }

/-- The listing under settings that name another filterer for the values. -/
def withDefaultFilterer (d : DistinctListing) (name : String) : DistinctListing :=
  { d with settings :=
      { d.settings with distinct := { d.settings.distinct with defaultFilterer := name } } }

theorem build_eq_error_iff {e : QueryError} :
    d.build dialect = .error e ↔ forM Requirement.inOrder d.check = .error e := by
  rw [← build_checks d dialect, map_eq_error_iff]

theorem exists_build_iff :
    (∃ q, d.build dialect = .ok q) ↔ ∀ r : Requirement, r.IsMet d := by
  rw [← map_eq_ok_iff, build_checks, forM_eq_ok_iff]
  simp only [check_eq_ok_iff, Requirement.mem_inOrder, forall_const]

/-- Without a filter the filterer that the settings name is not asked for. -/
theorem build_withDefaultFilterer (name : String) (h : d.request.filter = none) :
    (d.withDefaultFilterer name).build dialect = d.build dialect := by
  unfold build withDefaultFilterer
  simp [h]
  rfl

/-- If there is a filterer for it, a filter passes the checks as no filter does. -/
theorem check_withFilter {text : String}
    (h : Requirement.filterer.IsMet (d.withFilter (some text))) :
    (d.withFilter (some text)).check = (d.withFilter none).check := by
  funext r
  cases r with
  | filterer => exact (check_eq_ok_iff _).mpr h
  | definition => rfl
  | field => rfl
  | cursor => rfl
  | comparable => rfl

theorem build_eq_error_of_first {before after : List Requirement} {r : Requirement}
    (horder : Requirement.inOrder = before ++ r :: after) (hbefore : ∀ r' ∈ before, r'.IsMet d)
    (hr : ¬ r.IsMet d) : ∃ e, d.build dialect = .error e ∧ r.IsReportedAs d e := by
  cases hcheck : d.check r with
  | ok => exact absurd ((check_eq_ok_iff r).mp hcheck) hr
  | error e =>
    refine ⟨e, (build_eq_error_iff dialect).mpr ?_, isReportedAs_of_check hcheck⟩
    rw [horder]
    exact forM_eq_error (fun r' hr' => (check_eq_ok_iff r').mpr (hbefore r' hr')) hcheck

/-- **When a listing fails.**  A query is built exactly if all requirements are met.  Otherwise the
first that is not met, in the order of the checks, gives the error.  Without a filter the filterer
that the settings name has no influence; and if there is a filterer, what a filter says has none on
whether the request fails, and how. -/
theorem build_requirements (d : DistinctListing) (dialect : Dialect) :
    ((∃ q, d.build dialect = .ok q) ↔ ∀ r : Requirement, r.IsMet d) ∧
    (∀ before r after, Requirement.inOrder = before ++ r :: after →
      (∀ r' ∈ before, r'.IsMet d) → ¬ r.IsMet d →
      ∃ e, d.build dialect = .error e ∧ r.IsReportedAs d e) ∧
    (d.request.filter = none →
      ∀ name, (d.withDefaultFilterer name).build dialect = d.build dialect) ∧
    (∀ text, Requirement.filterer.IsMet (d.withFilter (some text)) →
      ∀ e, (d.withFilter (some text)).build dialect = .error e ↔
        (d.withFilter none).build dialect = .error e) := by
  refine ⟨exists_build_iff dialect, ?_, ?_, ?_⟩
  · intro before r after horder hbefore hr
    exact build_eq_error_of_first dialect horder hbefore hr
  · intro h name
    exact build_withDefaultFilterer dialect name h
  · intro text h e
    rw [build_eq_error_iff, build_eq_error_iff, check_withFilter h]

/-- A request with three faults fails by the first of them, and once that is mended by the next. -/
theorem build_requirements_three_faults :
    let asked (request : DistinctRequest) : DistinctListing :=
      { definition := { fields := [.bare "name"] }, table := ⟨"t"⟩, base := .ofTable "t" ["name"]
        request, settings := { distinct := { defaultFilterer := "missing" } } }
    (∃ e, (asked ⟨"state", some "xx|?", some "%"⟩).build .sqlite = .error e ∧
      e.kind = .badRequest ∧ e.message = "Invalid distinct field.") ∧
    (∃ e, (asked ⟨"name", some "xx|?", some "%"⟩).build .sqlite = .error e ∧
      e.kind = .config ∧
      e.message = "configuration error: Filterer [" ++ "missing" ++ "] does not exist.") ∧
    (∃ e, (asked ⟨"name", none, some "%"⟩).build .sqlite = .error e ∧
      e.kind = .badRequest ∧ e.message = "Invalid cursor.") ∧
    ∃ q, (asked ⟨"name", none, none⟩).build .sqlite = .ok q := by
  intro asked
  have hresolve (request : DistinctRequest) :
      (asked request).definition.resolve ⟨"t"⟩ .all (asked request).settings =
        .ok (.ofSpecs ⟨"t"⟩ (.bare "name" :: builtInAddon.2)) := rfl
  have hnames :
      (ResolvedFields.ofSpecs ⟨"t"⟩ (.bare "name" :: builtInAddon.2)).filters.names =
        ["name", "created_at", "updated_at"] := by decide
  have hdefinition (request : DistinctRequest) : Requirement.definition.IsMet (asked request) :=
    ⟨_, hresolve request⟩
  have hfield (request : DistinctRequest) : Requirement.field.IsMet (asked request) ↔
      request.field ∈ ["name", "created_at", "updated_at"] := by
    rw [← hnames]
    constructor
    · exact fun h => h _ (hresolve request)
    · intro h fields hfields
      cases (hresolve request).symm.trans hfields
      exact h
  have hfilterer (request : DistinctRequest) : Requirement.filterer.IsMet (asked request) ↔
      request.filter = none := by
    have hname : Domain.read "missing" = .error "missing" := by decide
    simp [Requirement.IsMet, asked, hname]
  have hcursor : Cursor.decode "%" = .error .invalidCursor := rfl
  refine ⟨?_, ?_, ?_, ?_⟩
  · obtain ⟨e, he, hkind, hmessage⟩ :=
      (build_requirements (asked ⟨"state", some "xx|?", some "%"⟩) .sqlite).2.1
        [.definition] .field _ rfl (by simp [hdefinition]) (by simp [hfield])
    exact ⟨e, he, hkind, hmessage⟩
  · obtain ⟨e, he, hkind, hmessage⟩ :=
      (build_requirements (asked ⟨"name", some "xx|?", some "%"⟩) .sqlite).2.1
        [.definition, .field] .filterer _ rfl (by simp [hdefinition, hfield]) (by simp [hfilterer])
    exact ⟨e, he, hkind, hmessage⟩
  · obtain ⟨e, he, hkind, hmessage⟩ :=
      (build_requirements (asked ⟨"name", none, some "%"⟩) .sqlite).2.1
        [.definition, .field, .filterer] .cursor _ rfl (by simp [hdefinition, hfield, hfilterer])
        (by simp [Requirement.IsMet, asked, hcursor])
    exact ⟨e, he, hkind, hmessage⟩
  · refine (build_requirements (asked ⟨"name", none, none⟩) .sqlite).1.mpr fun r => ?_
    cases r with
    | definition => exact hdefinition _
    | field => simp [hfield]
    | filterer => simp [hfilterer]
    | cursor => simp [Requirement.IsMet, asked]
    | comparable => simp [Requirement.IsMet, asked]

end DistinctListing
end RequestQuery
