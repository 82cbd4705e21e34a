/-
  Vouch.App.Answers

  Every way a request to `GET /assets` can end, decided from the request alone.

  The checks run in the order of `list_assets`: city and dates, the early cursor
  check, the second parse of the cursor while the statement is built, and the
  binding of the parameters when it executes.  `answer` names the first that
  fails; `answer_exact` reads off the response and the number of statements the
  session executed, whatever the tables hold.
-/

import Vouch.App.Handled

namespace Vouch

open Py (Python)

-- ============================================================================
-- Answers
-- ============================================================================

/-- How a request ends. -/
inductive Answer where
  /-- City or dates are refused. -/
  | invalidRequest
  /-- `decode_cursor` refuses the cursor. -/
  | invalidCursor
  /-- The cursor decodes, but its components do not parse. -/
  | unparsedCursor
  /-- A parameter cannot be sent or does not fit its column. -/
  | databaseError
  | page
deriving DecidableEq, Repr

/-- The status of the response. -/
def Answer.status : Answer → Nat
  | .invalidRequest | .invalidCursor => 400
  | .unparsedCursor | .databaseError => 500
  | .page => 200

/-- The code in the error envelope, where there is one. -/
def Answer.code : Answer → Option String
  | .invalidRequest => some "invalid_request"
  | .invalidCursor => some "invalid_cursor"
  | .unparsedCursor | .databaseError | .page => none

/-- The number of statements the session executed. -/
def Answer.statements : Answer → Nat
  | .invalidRequest | .invalidCursor | .unparsedCursor => 0
  | .databaseError | .page => 1

/-- The code a client reads in a response. -/
def Response.code (r : Response) : Option String :=
  match r.body with
  | .error detail => some detail.code
  | _ => none

instance (p : ListParams) : Decidable p.Accepted :=
  decidable_of_iff
    ((∀ c ∈ p.city, c = "lagos") ∧ ((p.startsOn = none ∧ p.endsOn = none) ∨
      ∃ s ∈ p.startsOn, ∃ e ∈ p.endsOn, s ≤ e))
    ⟨fun ⟨h₁, h₂⟩ => ⟨h₁, h₂.imp id fun ⟨s, hs, e, he, hle⟩ => ⟨s, e, hs, he, hle⟩⟩,
      fun ⟨h₁, h₂⟩ => ⟨h₁, h₂.imp id fun ⟨s, e, hs, he, hle⟩ => ⟨s, hs, e, he, hle⟩⟩⟩

/-- The answer to a request that passed the checks of the route, and whose
    cursor, if any, parses to something the driver can or cannot bind. -/
def boundAnswer (py : Python) (f : Filters) (fits : Bool) : Answer :=
  if f.Bindable py ∧ fits = true then .page else .databaseError

/-- The answer to a request. -/
def answer (py : Python) (p : ListParams) : Answer :=
  if p.Accepted then
    match p.cursor with
    | none => boundAnswer py p.toFilters true
    | some cursor =>
        match decodeCursor? py cursor with
        | none => .invalidCursor
        | some (createdAtIso, idStr) =>
            match py.fromisoformat createdAtIso, py.parseUUID idStr with
            | some t, some _ => boundAnswer py p.toFilters (py.toUtc t).isSome
            | _, _ => .unparsedCursor
  else .invalidRequest

-- ============================================================================
-- Responses
-- ============================================================================

/-- A request ended with this response, after this many statements. -/
def Answers (py : Python) (db : Database) (requestId : String) (p : ListParams) (x : Answer) :
    Prop :=
  (respondList py db requestId p).status = x.status ∧
    (respondList py db requestId p).code = x.code ∧
    (listAssets py db p).executed.length = x.statements

section Answers

variable {py : Python} {db : Database} {requestId : String} {p : ListParams}

/-- A request that raises an API error before the session is used. -/
theorem answers_of_api {e : VouchAPIError} (h : listAssets py db p = ⟨[], .error (.api e)⟩)
    {x : Answer} (hstatus : e.statusCode = x.status) (hcode : some e.code = x.code)
    (hstatements : x.statements = 0) : Answers py db requestId p x := by
  rw [Answers, respondList, Outcome.respond, h]
  exact ⟨hstatus, hcode, hstatements.symm⟩

theorem answers_of_rejected (h : ¬ p.Accepted) :
    Answers py db requestId p .invalidRequest := by
  cases hv : validateRequest p with
  | ok x => exact absurd (validateRequest_eq_ok_iff.mp hv) h
  | error e =>
    obtain ⟨m, d, rfl⟩ := validateRequest_eq_error hv
    exact answers_of_api (listAssets_of_rejected hv) rfl rfl rfl

theorem answers_of_undecodable (h : p.Accepted) {cursor : String} (hc : p.cursor = some cursor)
    (hd : decodeCursor? py cursor = none) : Answers py db requestId p .invalidCursor :=
  answers_of_api (listAssets_of_undecodable h hc hd) rfl rfl rfl

/-- A request whose cursor decodes and does not parse. -/
theorem answers_of_unparsed (h : p.Accepted)
    (hc : cursorClauses py p.cursor = .error .valueError) :
    Answers py db requestId p .unparsedCursor := by
  have hlist : listAssets py db p = ⟨[], .error .valueError⟩ := by
    rw [listAssets_eq (validateRequest_eq_ok_iff.mpr h),
      searchPublicAssets_eq_error (q := ⟨p.toFilters, p.limit, p.cursor⟩) hc]
    rfl
  rw [Answers, respondList, Outcome.respond, hlist]
  exact ⟨rfl, rfl, rfl⟩

/-- A request whose cursor, if any, gives clauses: one statement runs, and
    returns a page exactly when filters and clauses can be bound. -/
theorem answers_of_clauses (h : p.Accepted) {cs : List (Clause Py.Decimal Py.Datetime)}
    (hc : cursorClauses py p.cursor = .ok cs) {fits : Bool}
    (hfits : (∀ c ∈ cs, ∃ b, c.bind py = .ok b) ↔ fits = true) :
    Answers py db requestId p (boundAnswer py p.toFilters fits) := by
  have hsearch := @searchPublicAssets_eq py db ⟨p.toFilters, p.limit, p.cursor⟩ _ hc p.limit_le
  have hlist := @listAssets_eq py db p (validateRequest_eq_ok_iff.mpr h)
  have hexecuted : (listAssets py db p).executed.length = 1 := by
    rw [hlist, hsearch]
    rfl
  have hpage : (∃ page, (listAssets py db p).result = .ok page) ↔
      p.toFilters.Bindable py ∧ fits = true := by
    rw [hlist, hsearch]
    show (∃ page, Except.map _ _ = .ok page) ↔ _
    rw [map_ok_iff, run_ok_iff p.one_le_limit, statementOf_bind_iff, hfits]
  rw [Answers, respondList, Outcome.respond, boundAnswer]
  cases hresult : (listAssets py db p).result with
  | ok page =>
    rw [if_pos (hpage.mp ⟨page, hresult⟩)]
    exact ⟨rfl, rfl, hexecuted⟩
  | error e =>
    have hnot : ¬ (p.toFilters.Bindable py ∧ fits = true) := by
      intro hb
      obtain ⟨page, hok⟩ := hpage.mpr hb
      rw [hresult] at hok
      cases hok
    -- only the database can raise once the statement runs
    rw [hlist, hsearch] at hresult
    obtain ⟨d, rfl⟩ := run_error p.one_le_limit (map_error_iff.mp hresult)
    rw [if_neg hnot]
    exact ⟨rfl, rfl, hexecuted⟩

end Answers

/-- **The answer to every request.**  Status, error code and the number of
    executed statements follow from the request alone. -/
theorem answer_exact (py : Python) (db : Database) (requestId : String) (p : ListParams) :
    Answers py db requestId p (answer py p) := by
  rw [answer]
  by_cases haccepted : p.Accepted
  · rw [if_pos haccepted]
    cases hc : p.cursor with
    | none =>
      have hcs : cursorClauses py p.cursor = .ok [] := by rw [hc, cursorClauses]
      exact answers_of_clauses haccepted hcs (by simp)
    | some cursor =>
      cases hd : decodeCursor? py cursor with
      | none =>
        simp only [hd]
        exact answers_of_undecodable haccepted hc hd
      | some x =>
        obtain ⟨createdAtIso, idStr⟩ := x
        have hclauses : cursorClauses py p.cursor = (cursorClause py cursor).map ([·]) := by
          rw [hc, cursorClauses]
        rw [cursorClause, decodeCursor, hd] at hclauses
        simp only [hd, bind, Except.bind] at hclauses ⊢
        cases ht : py.fromisoformat createdAtIso with
        | none =>
          simp only [ht, Except.map] at hclauses ⊢
          exact answers_of_unparsed haccepted hclauses
        | some t =>
          cases hu : py.parseUUID idStr with
          | none =>
            simp only [ht, hu, Except.map] at hclauses ⊢
            exact answers_of_unparsed haccepted hclauses
          | some u =>
            simp only [ht, hu, Except.map] at hclauses ⊢
            apply answers_of_clauses haccepted hclauses
            cases hz : py.toUtc t <;> simp [Clause.bind, hz]
  · rw [if_neg haccepted]
    exact answers_of_rejected haccepted

/-- A rate with more decimal places than a `numeric` has. -/
example : answer Py.reference { minDailyRate := some ⟨1, -16384⟩ } = .databaseError := by
  decide +kernel

end Vouch
