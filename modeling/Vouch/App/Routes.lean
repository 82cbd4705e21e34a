/-
  Vouch.App.Routes

  The two endpoints of `app/api/routes/assets.py`, and the HTTP response a
  request ends with.

  `ListParams` is a request FastAPI has accepted: its `limit` is inside the
  declared bounds.  A handler's `VouchAPIError` becomes an envelope
  (`_error_response`); any other exception reaches the server-error middleware.
-/

import Vouch.App.Assets
import Vouch.App.Inventory

namespace Vouch

open Py (Python UUID)

/-- The query parameters of `GET /assets`. -/
structure ListParams extends Filters where
  limit : Nat := defaultLimit
  cursor : Option String := none
  city : Option String := none
  /-- `Query(ge=1)` -/
  one_le_limit : 1 ≤ limit := by decide
  /-- `Query(le=MAX_LIMIT)` -/
  limit_le : limit ≤ maxLimit := by decide

/-- `PageMeta` -/
structure PageMeta where
  limit : Nat
  nextCursor : Option String
deriving DecidableEq

/-- `Page[PublicAsset]` -/
structure PublicPage where
  items : List PublicAsset
  pagination : PageMeta
deriving DecidableEq

/-- The page a client of the endpoint sees. -/
def PublicPage.toPage (p : PublicPage) : Keyset.Page PublicAsset String :=
  ⟨p.items, p.pagination.nextCursor⟩

/-- Raise before the session is used. -/
def Outcome.raise {α : Type} (e : Exc) : Outcome α := ⟨[], .error e⟩

/-- Continue with a value computed after the session was used. -/
def Outcome.map {α β : Type} (f : α → β) (o : Outcome α) : Outcome β :=
  ⟨o.executed, o.result.map f⟩

/-- The city and date checks of `list_assets`. -/
def validateRequest (p : ListParams) : Except Exc Unit :=
  match p.city with
  | some city =>
      if city ≠ "lagos" then
        .error (.api (invalidRequestError.init
          (some "Only 'lagos' is currently available for inventory search.")
          [("city", city), ("reason", "abuja_not_yet_launched")]))
      else validateDates p.toFilters
  | none => validateDates p.toFilters
where
  /-- `details` of the two date errors. -/
  dateDetails (f : Filters) : List (String × String) :=
    [("starts_on", Py.strOptDate f.startsOn), ("ends_on", Py.strOptDate f.endsOn)]
  /-- The date pair is complete and ordered. -/
  validateDates (f : Filters) : Except Exc Unit :=
    if f.startsOn.isNone ≠ f.endsOn.isNone then
      .error (.api (invalidRequestError.init
        (some "Both 'starts_on' and 'ends_on' are required together for date filtering.")
        (dateDetails f)))
    else match f.startsOn, f.endsOn with
      | some startsOn, some endsOn =>
          if endsOn < startsOn then
            .error (.api (invalidRequestError.init
              (some "'starts_on' must not be after 'ends_on'.") (dateDetails f)))
          else .ok ()
      | _, _ => .ok ()

/-- The early cursor check of `list_assets`. -/
def validateCursor (py : Python) : Option String → Except Exc Unit
  | some cursor => (decodeCursor py cursor).map fun _ => ()
  | none => .ok ()

/-- `list_assets` -/
def listAssets (py : Python) (db : Database) (p : ListParams) : Outcome PublicPage :=
  match validateRequest p with
  | .error e => .raise e
  | .ok () =>
      match validateCursor py p.cursor with
      | .error e => .raise e
      | .ok () =>
          (searchPublicAssets py db ⟨p.toFilters, p.limit, p.cursor⟩).map fun page =>
            ⟨page.items.map PublicAsset.modelValidate, ⟨p.limit, page.nextCursor⟩⟩

/-- City absent or Lagos; dates absent, or both given and in order. -/
structure ListParams.Accepted (p : ListParams) : Prop where
  city : ∀ c ∈ p.city, c = "lagos"
  dates : (p.startsOn = none ∧ p.endsOn = none) ∨
    ∃ s e, p.startsOn = some s ∧ p.endsOn = some e ∧ s ≤ e

/-- Accepted dates are in order. -/
theorem ListParams.Accepted.ordered {p : ListParams} (h : p.Accepted) :
    ∀ s ∈ p.startsOn, ∀ e ∈ p.endsOn, s ≤ e := by
  intro s hs e he
  rcases h.dates with ⟨hnone, -⟩ | ⟨s', e', hs', he', hle⟩
  · rw [hnone] at hs
    cases hs
  · rw [hs'] at hs
    rw [he'] at he
    obtain rfl := Option.some.inj hs
    obtain rfl := Option.some.inj he
    exact hle

theorem validateDates_eq_ok {f : Filters} : validateRequest.validateDates f = .ok () ↔
    (f.startsOn = none ∧ f.endsOn = none) ∨
      ∃ s e, f.startsOn = some s ∧ f.endsOn = some e ∧ s ≤ e := by
  rw [validateRequest.validateDates]
  cases f.startsOn with
  | none => cases f.endsOn with
    | none => simp
    | some e => simp
  | some s => cases f.endsOn with
    | none => simp
    | some e =>
      by_cases hlt : e < s
      · simp [hlt]
      · simp [hlt, not_lt.mp hlt]

/-- The checks pass exactly on the accepted requests. -/
theorem validateRequest_eq_ok_iff {p : ListParams} : validateRequest p = .ok () ↔ p.Accepted := by
  rw [validateRequest]
  cases hc : p.city with
  | none =>
    show validateRequest.validateDates p.toFilters = .ok () ↔ _
    rw [validateDates_eq_ok]
    exact ⟨fun h => ⟨by simp [hc], h⟩, fun h => h.dates⟩
  | some c =>
    by_cases hlagos : c = "lagos"
    · show (if c ≠ "lagos" then _ else validateRequest.validateDates p.toFilters) = .ok () ↔ _
      rw [if_neg (not_not.mpr hlagos), validateDates_eq_ok]
      refine ⟨fun h => ⟨?_, h⟩, fun h => h.dates⟩
      intro c' hc'
      rw [hc] at hc'
      rw [← Option.some.inj hc', hlagos]
    · show (if c ≠ "lagos" then _ else validateRequest.validateDates p.toFilters) = .ok () ↔ _
      rw [if_pos hlagos]
      refine ⟨?_, ?_⟩
      · intro h
        cases h
      · intro h
        exact absurd (h.city c hc) hlagos

/-- A failed check is a 400 `invalid_request`, whatever its message and details. -/
theorem validateRequest_eq_error {p : ListParams} {e : Exc} (h : validateRequest p = .error e) :
    ∃ m d, e = .api (invalidRequestError.init m d) := by
  have hdates : ∀ f, validateRequest.validateDates f = .error e →
      ∃ m d, e = .api (invalidRequestError.init m d) := by
    intro f hf
    rw [validateRequest.validateDates] at hf
    split at hf
    · cases hf
      exact ⟨_, _, rfl⟩
    · split at hf
      · split at hf
        · cases hf
          exact ⟨_, _, rfl⟩
        · cases hf
      · cases hf
  rw [validateRequest] at h
  split at h
  · split at h
    · cases h
      exact ⟨_, _, rfl⟩
    · exact hdates _ h
  · exact hdates _ h

/-- A request that fails its checks ends there. -/
theorem listAssets_of_rejected {py : Python} {db : Database} {p : ListParams} {e : Exc}
    (h : validateRequest p = .error e) : listAssets py db p = ⟨[], .error e⟩ := by
  rw [listAssets, h]
  rfl

/-- A request that passes its checks is the search itself: the early cursor
    check raises nothing that the search would not raise by itself. -/
theorem listAssets_eq {py : Python} {db : Database} {p : ListParams}
    (h : validateRequest p = .ok ()) :
    listAssets py db p =
      (searchPublicAssets py db ⟨p.toFilters, p.limit, p.cursor⟩).map fun page =>
        ⟨page.items.map PublicAsset.modelValidate, ⟨p.limit, page.nextCursor⟩⟩ := by
  rw [listAssets, h]
  cases hc : p.cursor with
  | none => rfl
  | some cursor =>
    cases hd : decodeCursor py cursor with
    | ok x => simp only [validateCursor, hd, Except.map]
    | error e =>
      have hsearch : searchPublicAssets py db ⟨p.toFilters, p.limit, some cursor⟩ =
          ⟨[], .error e⟩ := by
        simp only [searchPublicAssets, searchStatement, cursorClause, hd, bind, Except.bind]
      rw [hsearch]
      simp only [validateCursor, hd, Except.map]
      rfl

/-- `get_asset` -/
def getAsset (py : Python) (db : Database) (assetId : UUID) : Outcome PublicAsset :=
  (getPublicAsset py db assetId).map PublicAsset.modelValidate

theorem getAsset_of_ok {py : Python} {db : Database} {assetId : UUID} {a : Asset}
    (h : (getPublicAsset py db assetId).result = .ok a) :
    (getAsset py db assetId).result = .ok (PublicAsset.modelValidate a) := by
  show Except.map _ (getPublicAsset py db assetId).result = _
  rw [h]
  rfl

theorem getAsset_of_error {py : Python} {db : Database} {assetId : UUID} {e : Exc}
    (h : (getPublicAsset py db assetId).result = .error e) :
    (getAsset py db assetId).result = .error e := by
  show Except.map _ (getPublicAsset py db assetId).result = _
  rw [h]
  rfl

-- ============================================================================
-- Responses
-- ============================================================================

/-- A response body. -/
inductive Body where
  | page (items : List PublicAssetJson) (pagination : PageMeta)
  | asset (a : PublicAssetJson)
  | error (detail : ErrorDetail)
  /-- The plain text of the server-error middleware. -/
  | internalServerError
deriving DecidableEq

structure Response where
  status : Nat
  body : Body
deriving DecidableEq

/-- The response to an exception. -/
def Exc.respond (requestId : String) : Exc → Response
  | .api e => ⟨e.statusCode, .error (e.envelope requestId)⟩
  | _ => ⟨500, .internalServerError⟩

/-- The response to a handler's outcome. -/
def Outcome.respond {α : Type} (body : α → Body) (requestId : String) (o : Outcome α) : Response :=
  match o.result with
  | .ok x => ⟨200, body x⟩
  | .error e => e.respond requestId

/-- The response to `GET /assets`. -/
def respondList (py : Python) (db : Database) (requestId : String) (p : ListParams) : Response :=
  (listAssets py db p).respond
    (fun page => .page (page.items.map PublicAsset.serialize) page.pagination) requestId

/-- The response to `GET /assets/{asset_id}`. -/
def respondDetail (py : Python) (db : Database) (requestId : String) (assetId : UUID) : Response :=
  (getAsset py db assetId).respond (fun a => .asset a.serialize) requestId

end Vouch
