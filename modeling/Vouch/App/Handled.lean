/-
  Vouch.App.Handled

  Which requests to `GET /assets` end with an exception nobody handles.

  The parameters that reach the database are those of the filters and of the
  cursor.  A statement runs exactly when each of its clauses can be bound
  (`execute_ok_iff`), whatever the tables hold; so a request is answered exactly
  when its filter values can be bound, which takes a driver that sends them and
  columns that they fit, and its cursor names a position.
-/

import Vouch.App.Traversal

namespace Vouch

open Py (Python Datetime Decimal)
open Sql (Numeric)

-- ============================================================================
-- Running a statement
-- ============================================================================

/-- Mapping a list succeeds exactly when every element maps. -/
theorem mapM_ok_iff {α β ε : Type} {f : α → Except ε β} {xs : List α} :
    (∃ ys, xs.mapM f = .ok ys) ↔ ∀ x ∈ xs, ∃ y, f x = .ok y := by
  induction xs with
  | nil => simp [pure, Except.pure]
  | cons x xs ih =>
    rw [List.mapM_cons, List.forall_mem_cons, ← ih]
    cases hx : f x with
    | error e => simp [bind, Except.bind]
    | ok y =>
      cases hxs : xs.mapM f with
      | error e => simp [bind, Except.bind]
      | ok ys => simp [bind, Except.bind, pure, Except.pure]

theorem exists_mem_of_mapM {α β ε : Type} {f : α → Except ε β} {xs : List α} {ys : List β}
    (h : xs.mapM f = .ok ys) {x : α} (hx : x ∈ xs) : ∃ y ∈ ys, f x = .ok y := by
  induction xs generalizing ys with
  | nil => exact absurd hx List.not_mem_nil
  | cons w xs ih =>
    rw [List.mapM_cons] at h
    cases hw : f w with
    | error e =>
      rw [hw] at h
      cases h
    | ok y =>
      rw [hw] at h
      cases hxs : xs.mapM f with
      | error e =>
        rw [hxs] at h
        cases h
      | ok zs =>
        rw [hxs] at h
        obtain rfl : y :: zs = ys := Except.ok.inj h
        rcases List.mem_cons.mp hx with rfl | hx
        · exact ⟨y, List.mem_cons_self, hw⟩
        · obtain ⟨z, hz, hfz⟩ := ih hxs hx
          exact ⟨z, List.mem_cons_of_mem _ hz, hfz⟩

section Execute

variable {py : Python} {db : Database}

theorem mem_assets_of_source {s : Select} {p : Asset × Option User} (h : p ∈ s.source db) :
    p.1 ∈ db.assets := by
  rw [Select.source] at h
  split at h
  · obtain ⟨a, ha, hp⟩ := List.mem_flatMap.mp h
    obtain ⟨u, -, rfl⟩ := List.mem_map.mp hp
    exact ha
  · obtain ⟨a, ha, rfl⟩ := List.mem_map.mp h
    exact ha

/-- Every returned row is stored and satisfies each clause of the statement. -/
theorem mem_of_execute {s : Select} {rows : List Asset} (h : s.execute py db = .ok rows) {a : Asset}
    (ha : a ∈ rows) {c : Clause Decimal Datetime} (hc : c ∈ s.clauses) :
    a ∈ db.assets ∧ ∃ b u, c.bind py = .ok b ∧ b.eval db a u = true := by
  rw [Select.execute] at h
  cases hbind : s.clauses.mapM (Clause.bind py) with
  | error e =>
    rw [hbind] at h
    cases h
  | ok bs =>
    rw [hbind] at h
    have hselected : a ∈ ((s.source db).filter fun p => bs.all (Clause.eval db p.1 p.2)).map
        Prod.fst := by
      simp only [bind, Except.bind] at h
      split at h <;> obtain rfl := Except.ok.inj h
      · have ha := List.mem_of_mem_take ha
        split at ha
        · exact Keyset.mem_sortByKey.mp ha
        · exact ha
      · split at ha
        · exact Keyset.mem_sortByKey.mp ha
        · exact ha
    obtain ⟨p, hp, rfl⟩ := List.mem_map.mp hselected
    obtain ⟨hsource, hall⟩ := List.mem_filter.mp hp
    obtain ⟨b, hb, hcb⟩ := exists_mem_of_mapM hbind hc
    exact ⟨mem_assets_of_source hsource, b, p.2, hcb, List.all_eq_true.mp hall b hb⟩

/-- A statement whose clauses are bound returns rows of the tables. -/
theorem execute_of_bind {s : Select} {bs : List BoundClause}
    (h : s.clauses.mapM (Clause.bind py) = .ok bs) : ∃ rows, s.execute py db = .ok rows := by
  rw [Select.execute, h]
  cases s.limit with
  | some n => exact ⟨_, rfl⟩
  | none => exact ⟨_, rfl⟩

/-- A statement whose clauses cannot be bound fails with the same error over
    all tables. -/
theorem execute_of_bind_error {s : Select} {e : DatabaseError}
    (h : s.clauses.mapM (Clause.bind py) = .error e) : s.execute py db = .error e := by
  rw [Select.execute, h]
  rfl

variable (db) in
/-- A statement succeeds exactly when each of its clauses can be bound. -/
theorem execute_ok_iff {s : Select} :
    (∃ rows, s.execute py db = .ok rows) ↔ ∀ c ∈ s.clauses, ∃ b, c.bind py = .ok b := by
  rw [← mapM_ok_iff]
  cases h : s.clauses.mapM (Clause.bind py) with
  | error e => simp [execute_of_bind_error h]
  | ok bs => simp [execute_of_bind h]

end Execute

/-- A page of a positive size is built from any rows. -/
theorem buildPage_ok (py : Python) {limit : ℕ} (hpos : 1 ≤ limit) (rows : List Asset) :
    ∃ page, buildPage py limit rows = .ok page := by
  rw [buildPage]
  split
  · next hlen =>
    have hne : rows.take limit ≠ [] := by
      intro hnil
      have hzero := congrArg List.length hnil
      rw [List.length_take, List.length_nil] at hzero
      omega
    rw [List.getLast?_eq_some_getLast hne]
    exact ⟨_, rfl⟩
  · exact ⟨_, rfl⟩

-- ============================================================================
-- Parameters inside their columns
-- ============================================================================

/-- The cursor names a position: its components parse, and the timestamp has an
    instant. -/
def NamesPosition (py : Python) (cursor : String) : Prop :=
  ∃ createdAt id t u, decodeCursor? py cursor = some (createdAt, id) ∧
    py.fromisoformat createdAt = some t ∧ py.parseUUID id = some u ∧ (py.toUtc t).isSome

section Bindable

variable {py : Python}

theorem map_ok_iff {ε α β : Type} {f : α → β} {x : Except ε α} :
    (∃ y, x.map f = .ok y) ↔ ∃ a, x = .ok a := by
  cases x <;> simp [Except.map]

theorem map_error_iff {ε α β : Type} {f : α → β} {x : Except ε α} {e : ε} :
    x.map f = .error e ↔ x = .error e := by
  cases x <;> simp [Except.map]

/-- The filter clauses can be bound exactly when the filter values can. -/
theorem clauses_bind_iff {f : Filters} :
    (∀ c ∈ f.clauses, ∃ b, c.bind py = .ok b) ↔ f.Bindable py := by
  have hcategory : (∀ c ∈ (f.category.map Clause.category).toList, ∃ b, Clause.bind py c = .ok b) ↔
      ∀ label ∈ f.category, label ∈ assetCategoryLabels := by
    cases f.category with
    | none => simp
    | some label => by_cases h : label ∈ assetCategoryLabels <;> simp [Clause.bind, h]
  have hmin : (∀ c ∈ (f.minDailyRate.map Clause.minDailyRate).toList,
      ∃ b, Clause.bind py c = .ok b) ↔
        ∀ r ∈ f.minDailyRate, BindableRate py r := by
    cases f.minDailyRate with
    | none => simp
    | some r => simp [Clause.bind, map_ok_iff, bindRate_ok_iff]
  have hmax : (∀ c ∈ (f.maxDailyRate.map Clause.maxDailyRate).toList,
      ∃ b, Clause.bind py c = .ok b) ↔
        ∀ r ∈ f.maxDailyRate, BindableRate py r := by
    cases f.maxDailyRate with
    | none => simp
    | some r => simp [Clause.bind, map_ok_iff, bindRate_ok_iff]
  have hdates : ∀ c ∈ dateClauses f.startsOn f.endsOn, ∃ b, Clause.bind py c = .ok b := by
    cases f.startsOn <;> cases f.endsOn <;> simp [dateClauses, dateOverlapClauses, Clause.bind]
  rw [Filters.clauses]
  rw [List.forall_mem_append, List.forall_mem_append, List.forall_mem_append, hcategory, hmin,
    hmax]
  refine ⟨?_, ?_⟩
  · rintro ⟨⟨⟨h₁, h₂⟩, h₃⟩, -⟩
    exact ⟨h₁, h₂, h₃⟩
  · intro h
    exact ⟨⟨⟨h.category, h.minDailyRate⟩, h.maxDailyRate⟩, hdates⟩

/-- The clauses of a whole search statement. -/
theorem statementOf_bind_iff {f : Filters} {cs : List (Clause Decimal Datetime)} {limit : ℕ} :
    (∀ c ∈ (statementOf f cs limit).clauses, ∃ b, c.bind py = .ok b) ↔
      f.Bindable py ∧ ∀ c ∈ cs, ∃ b, c.bind py = .ok b := by
  show (∀ c ∈ ((publicVisibilityClauses {}).clauses ++ f.clauses) ++ cs, _) ↔ _
  have hpublic : ∀ c ∈ (publicVisibilityClauses {}).clauses, ∃ b, Clause.bind py c = .ok b := by
    simp [publicVisibilityClauses, Select.where, Clause.bind]
  rw [List.forall_mem_append, List.forall_mem_append, clauses_bind_iff]
  exact and_congr_left fun _ => and_iff_right hpublic

end Bindable

-- ============================================================================
-- Outcomes of a search
-- ============================================================================

section Outcomes

variable {py : Python} {db : Database}

/-- A cursor names a position exactly when its clause is built and bound. -/
theorem namesPosition_iff {cursor : String} :
    NamesPosition py cursor ↔ ∃ c, cursorClause py cursor = .ok c ∧ ∃ b, c.bind py = .ok b := by
  rw [NamesPosition, cursorClause, decodeCursor]
  cases hd : decodeCursor? py cursor with
  | none => simp [bind, Except.bind]
  | some x =>
    obtain ⟨createdAt, id⟩ := x
    cases ht : py.fromisoformat createdAt with
    | none => simp [bind, Except.bind, ht]
    | some t =>
      cases hu : py.parseUUID id with
      | none => simp [bind, Except.bind, ht, hu]
      | some u => cases hz : py.toUtc t <;> simp [bind, Except.bind, ht, hu, hz, Clause.bind]

theorem cursorClauses_bind_iff {cursor : Option String} :
    (∃ cs, cursorClauses py cursor = .ok cs ∧ ∀ c ∈ cs, ∃ b, c.bind py = .ok b) ↔
      ∀ c ∈ cursor, NamesPosition py c := by
  cases cursor with
  | none => simp [cursorClauses]
  | some cursor =>
    simp only [Option.mem_some_iff, forall_eq', namesPosition_iff, cursorClauses]
    cases cursorClause py cursor <;> simp [Except.map]

/-- Every cursor the service issues names a position. -/
theorem namesPosition_cursorOf (hpy : py.RoundTrip) (k : Position) :
    NamesPosition py (cursorOf py k) := by
  rw [namesPosition_iff]
  refine ⟨_, cursorClause_cursorOf hpy k, ?_⟩
  rw [Clause.bind, Python.toUtc_ofInstant]
  exact ⟨_, rfl⟩

/-- A statement's page, or the error of its clauses. -/
theorem run_ok_iff {s : Select} {limit : ℕ} (hpos : 1 ≤ limit) :
    (∃ page, (do buildPage py limit (← s.run py db)) = .ok page) ↔
      ∀ c ∈ s.clauses, ∃ b, c.bind py = .ok b := by
  rw [← execute_ok_iff db, Select.run]
  cases hx : s.execute py db with
  | error e => simp [Except.mapError, bind, Except.bind]
  | ok rows => simp [Except.mapError, bind, Except.bind, buildPage_ok py hpos rows]

/-- Once a statement runs, only the database can raise. -/
theorem run_error {s : Select} {limit : ℕ} (hpos : 1 ≤ limit) {e : Exc}
    (h : (do buildPage py limit (← s.run py db)) = .error e) : ∃ d, e = .database d := by
  rw [Select.run] at h
  cases hx : s.execute py db with
  | error d =>
    rw [hx] at h
    exact ⟨d, (Except.error.inj h).symm⟩
  | ok rows =>
    rw [hx] at h
    obtain ⟨page, hpage⟩ := buildPage_ok py hpos rows
    have hok : buildPage py limit rows = .error e := h
    rw [hpage] at hok
    cases hok

/-- A search returns a page exactly when its filter values can be bound and its
    cursor, if any, names a position. -/
theorem search_ok_iff {q : SearchParams} (hpos : 1 ≤ q.limit) (hmax : q.limit ≤ maxPageLimit) :
    (∃ page, (searchPublicAssets py db q).result = .ok page) ↔
      q.toFilters.Bindable py ∧ ∀ c ∈ q.cursor, NamesPosition py c := by
  rw [← cursorClauses_bind_iff]
  cases hc : cursorClauses py q.cursor with
  | error e => simp [searchPublicAssets_eq_error hc]
  | ok cs =>
    rw [searchPublicAssets_eq hc hmax, run_ok_iff hpos, statementOf_bind_iff]
    simp

variable (py db) in
/-- An accepted request is answered with a page exactly then. -/
theorem listAssets_ok_iff {p : ListParams} (haccepted : p.Accepted) :
    (∃ page, (listAssets py db p).result = .ok page) ↔
      p.toFilters.Bindable py ∧ ∀ c ∈ p.cursor, NamesPosition py c := by
  rw [listAssets_eq (validateRequest_eq_ok_iff.mpr haccepted)]
  show (∃ page, Except.map _ _ = .ok page) ↔ _
  rw [map_ok_iff]
  exact search_ok_iff p.one_le_limit p.limit_le

end Outcomes

-- ============================================================================
-- Cursors
-- ============================================================================

/-- The error of a cursor that cannot be decoded. -/
def invalidCursor : Exc := .api (cursorDecodeError.init none [])

/-- The request ends with a page, or with `invalid_cursor` before any statement
    runs; and a cursor the early check accepts is parsed. -/
def CursorHandled (py : Python) (db : Database) (p : ListParams) : Prop :=
  ((∃ page, (listAssets py db p).result = .ok page) ∨
    ((listAssets py db p).result = .error invalidCursor ∧ (listAssets py db p).executed = [])) ∧
  ∀ cursor ∈ p.cursor, ∀ x, decodeCursor py cursor = .ok x →
    ∃ clause, cursorClause py cursor = .ok clause

/-- A cursor that `decode_cursor` rejects ends the request before any statement. -/
theorem listAssets_of_undecodable {py : Python} {db : Database} {p : ListParams}
    (haccepted : p.Accepted) {cursor : String} (hc : p.cursor = some cursor)
    (hd : decodeCursor? py cursor = none) : listAssets py db p = ⟨[], .error invalidCursor⟩ := by
  have herror : decodeCursor py cursor = .error invalidCursor := by
    simp only [decodeCursor, hd, invalidCursor]
  rw [listAssets]
  simp only [validateRequest_eq_ok_iff.mpr haccepted, hc, validateCursor, herror, Except.map]
  rfl

/-- A request that is otherwise valid ends with a page or with `invalid_cursor`
    exactly when its cursor is undecodable or names a position. -/
theorem cursorHandled_iff {py : Python} {db : Database} {p : ListParams}
    (haccepted : p.Accepted) (hbindable : p.toFilters.Bindable py) :
    CursorHandled py db p ↔
      ∀ cursor ∈ p.cursor, decodeCursor? py cursor = none ∨ NamesPosition py cursor := by
  have hok := listAssets_ok_iff py db haccepted
  rw [and_iff_right hbindable] at hok
  refine ⟨?_, ?_⟩
  · rintro ⟨hresult, hparsed⟩ cursor hc
    cases hd : decodeCursor? py cursor with
    | none => exact .inl rfl
    | some x =>
      right
      rcases hresult with hpage | ⟨-, hexecuted⟩
      · exact hok.mp hpage cursor hc
      · -- a cursor that parses reaches the database, so nothing was raised before
        obtain ⟨clause, hclause⟩ := hparsed cursor hc x (by simp only [decodeCursor, hd])
        have hcs : cursorClauses py p.cursor = .ok [clause] := by
          rw [hc, cursorClauses, hclause]
          rfl
        rw [listAssets_eq (validateRequest_eq_ok_iff.mpr haccepted),
          searchPublicAssets_eq (q := ⟨p.toFilters, p.limit, p.cursor⟩) hcs p.limit_le] at hexecuted
        cases hexecuted
  · intro hcursor
    cases hc : p.cursor with
    | none => exact ⟨.inl (hok.mpr (by simp [hc])), by simp [hc]⟩
    | some cursor =>
      have honly : ∀ c ∈ p.cursor, c = cursor := by simp [hc]
      rcases hcursor cursor hc with hd | hnames
      · refine ⟨.inr ?_, ?_⟩
        · rw [listAssets_of_undecodable haccepted hc hd]
          exact ⟨rfl, rfl⟩
        · intro c hc' x hx
          rw [honly c hc', decodeCursor, hd] at hx
          cases hx
      · obtain ⟨clause, hclause, -⟩ := namesPosition_iff.mp hnames
        refine ⟨.inl (hok.mpr fun c hc' => honly c hc' ▸ hnames), ?_⟩
        intro c hc' x _
        exact ⟨clause, honly c hc' ▸ hclause⟩

/-- A page is requested with its default parameters and a forged cursor, the
    encoding of `{"created_at":"x","id":"y"}`. -/
def forgedRequest : ListParams := { cursor := some "eyJjcmVhdGVkX2F0IjoieCIsImlkIjoieSJ9" }

theorem listAssets_forged :
    (listAssets Py.reference sampleDb forgedRequest).result = .error .valueError := by
  decide +kernel

/-- The forged cursor passes the early check and then raises a `ValueError`. -/
theorem cursorHandled_forged :
    forgedRequest.Accepted ∧ forgedRequest.toFilters.Bindable Py.reference ∧
      (listAssets Py.reference sampleDb forgedRequest).result = .error .valueError ∧
      ¬ CursorHandled Py.reference sampleDb forgedRequest := by
  have haccepted : forgedRequest.Accepted := ⟨by simp [forgedRequest], .inl ⟨rfl, rfl⟩⟩
  have hresult := listAssets_forged
  refine ⟨haccepted, by decide, hresult, ?_⟩
  rintro ⟨⟨page, hpage⟩ | ⟨herror, -⟩, -⟩
  · rw [hresult] at hpage
    cases hpage
  · rw [hresult] at herror
    cases herror

/-- A cursor that names the position of an asset of the sample is handled. -/
theorem cursorHandled_iff_sample :
    CursorHandled Py.reference sampleDb
      { cursor := some (cursorOf Py.reference (toLex (4000, 13))) } := by
  rw [cursorHandled_iff ⟨by simp, .inl ⟨rfl, rfl⟩⟩ (by decide)]
  intro cursor hc
  obtain rfl := Option.some.inj hc
  exact .inr (namesPosition_cursorOf Py.reference_roundTrip _)

-- ============================================================================
-- Requests without a cursor
-- ============================================================================

/-- The request ends with a page, or with an API error that the client receives
    as a 4xx envelope. -/
def Handled (py : Python) (db : Database) (requestId : String) (p : ListParams) : Prop :=
  (∃ page, (listAssets py db p).result = .ok page) ∨
    ∃ e, (listAssets py db p).result = .error (.api e) ∧ 400 ≤ e.statusCode ∧ e.statusCode < 500 ∧
      respondList py db requestId p = ⟨e.statusCode, .error (e.envelope requestId)⟩

/-- Without a cursor, a request is handled exactly when its city or dates are
    rejected or its filter values can be bound. -/
theorem handled_iff {py : Python} {db : Database} {requestId : String} {p : ListParams}
    (hcursor : p.cursor = none) :
    Handled py db requestId p ↔ (p.Accepted → p.toFilters.Bindable py) := by
  refine ⟨?_, ?_⟩
  · intro hhandled haccepted
    have hok := listAssets_ok_iff py db haccepted
    have hcs : cursorClauses py p.cursor = .ok [] := by rw [hcursor, cursorClauses]
    rcases hhandled with hpage | ⟨e, he, -⟩
    · exact (hok.mp hpage).1
    · -- an accepted request without a cursor can only fail in the database
      rw [listAssets_eq (validateRequest_eq_ok_iff.mpr haccepted),
        searchPublicAssets_eq (q := ⟨p.toFilters, p.limit, p.cursor⟩) hcs p.limit_le] at he
      obtain ⟨d, hd⟩ := run_error p.one_le_limit (map_error_iff.mp he)
      cases hd
  · intro hbindable
    cases hv : validateRequest p with
    | ok x =>
      have haccepted := validateRequest_eq_ok_iff.mp hv
      left
      rw [listAssets_ok_iff py db haccepted]
      exact ⟨hbindable haccepted, by simp [hcursor]⟩
    | error e =>
      obtain ⟨m, d, rfl⟩ := validateRequest_eq_error hv
      have hresult : (listAssets py db p).result = .error (.api (invalidRequestError.init m d)) := by
        rw [listAssets_of_rejected hv]
      refine .inr ⟨_, hresult, ?_, ?_, ?_⟩
      · show 400 ≤ 400
        exact le_refl _
      · show 400 < 500
        decide
      · rw [respondList, Outcome.respond, hresult]
        rfl

/-- A request for a category that is no label of the enum. -/
def boatRequest : ListParams := { category := some "boat" }

/-- It ends with an error of the database, which the client receives as a 500. -/
theorem handled_boat :
    (listAssets Py.reference sampleDb boatRequest).result =
        .error (.database (.invalidEnumLabel "boat")) ∧
      (respondList Py.reference sampleDb "r" boatRequest).status = 500 ∧
      ¬ Handled Py.reference sampleDb "r" boatRequest := by
  have hresult : (listAssets Py.reference sampleDb boatRequest).result =
      .error (.database (.invalidEnumLabel "boat")) := by
    decide +kernel
  refine ⟨hresult, ?_, ?_⟩
  · rw [respondList, Outcome.respond, hresult]
    rfl
  · rintro (⟨page, hpage⟩ | ⟨e, he, -⟩)
    · rw [hresult] at hpage
      cases hpage
    · rw [hresult] at he
      cases he

/-- A category of the enum with a rate of ten integer digits is handled. -/
theorem handled_iff_sample :
    Handled Py.reference sampleDb "r"
      { category := some "camera", minDailyRate := some ⟨9999999999, 0⟩ } := by
  rw [handled_iff rfl]
  intro _
  decide +kernel

end Vouch
