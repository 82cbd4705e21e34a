/-
  Vouch.App.Inventory

  `app/services/inventory.py`: the statements of the public search and detail
  queries, their execution, and the page built from the rows.

  A statement is a list of WHERE clauses over `assets`, joined with `users`.
  Before it runs, every parameter is bound at the type of the column it is
  compared with (`Clause.bind`), and a parameter that the driver cannot send, or
  that is outside that type, fails the statement whatever the tables hold.
-/

import Vouch.App.Pagination
import Vouch.Db.Models
import Vouch.Keyset.Page

namespace Vouch

open Py (Python UUID Instant Date Datetime Decimal Timestamptz)
open Sql (Numeric)

-- ============================================================================
-- Statements
-- ============================================================================

/-- A WHERE clause on an asset and its joined user.  Amounts have type `ρ` and
    timestamps type `τ`: `Decimal` and `Datetime` as written, column values
    once bound. -/
inductive Clause (ρ τ : Type) where
  /-- `Asset.listing_status == s` -/
  | listingStatus (s : ListingStatus)
  /-- `Asset.is_available.is_(True)` -/
  | isAvailable
  /-- `Asset.deleted_at.is_(None)` -/
  | notDeleted
  /-- `Asset.city == c` -/
  | city (c : City)
  /-- `User.is_active.is_(True)` -/
  | vendorActive
  /-- `User.deleted_at.is_(None)` -/
  | vendorNotDeleted
  /-- `Asset.id == u` -/
  | id (u : UUID)
  /-- `Asset.category == label` -/
  | category (label : String)
  /-- `Asset.daily_rate >= r` -/
  | minDailyRate (r : ρ)
  /-- `Asset.daily_rate <= r` -/
  | maxDailyRate (r : ρ)
  /-- `NOT EXISTS` of a blocked window overlapping the dates -/
  | noBlockedWindow (startsOn endsOn : Int)
  /-- `NOT EXISTS` of a confirmed or active booking overlapping the dates -/
  | noActiveBooking (startsOn endsOn : Int)
  /-- `created_at >= t AND NOT (created_at = t AND id <= u)` -/
  | afterCursor (createdAt : τ) (id : UUID)

/-- `SELECT assets.* FROM assets …` -/
structure Select where
  /-- `JOIN users ON users.id = assets.vendor_id` -/
  join : Bool := false
  clauses : List (Clause Decimal Datetime) := []
  /-- `ORDER BY created_at ASC, id ASC` -/
  ordered : Bool := false
  limit : Option Nat := none

/-- `query.where(*cs)` -/
def Select.where (s : Select) (cs : List (Clause Decimal Datetime)) : Select :=
  { s with clauses := s.clauses ++ cs }

/-- `_public_visibility_clauses` -/
def publicVisibilityClauses (query : Select) : Select :=
  let filtered := query.where [.listingStatus .active, .isAvailable, .notDeleted, .city .lagos]
  { filtered with join := true }.where [.vendorActive, .vendorNotDeleted]

/-- `_date_overlap_clauses`: the window clause and the booking clause. -/
def dateOverlapClauses {ρ τ : Type} (startsOn endsOn : Int) : Clause ρ τ × Clause ρ τ :=
  (.noBlockedWindow startsOn endsOn, .noActiveBooking startsOn endsOn)

-- ============================================================================
-- Execution
-- ============================================================================

/-- A clause whose parameters have the types of their columns. -/
abbrev BoundClause := Clause (Numeric 12 2) Timestamptz

/-- The labels of the `assetcategory` type. -/
def assetCategoryLabels : List String :=
  ["camera", "lens", "lighting", "audio", "drone", "gimbal", "other"]

/-- Bind an amount at `NUMERIC(12, 2)`: the driver sends it, the server casts it. -/
def bindRate (py : Python) (r : Decimal) : Except DatabaseError (Numeric 12 2) :=
  match py.numericParameter r with
  | none => .error .invalidNumber
  | some q =>
      match Numeric.cast 12 2 q with
      | some n => .ok n
      | none => .error .numericOverflow

/-- Bind a clause's parameters. -/
def Clause.bind (py : Python) : Clause Decimal Datetime → Except DatabaseError BoundClause
  | .listingStatus s => .ok (.listingStatus s)
  | .isAvailable => .ok .isAvailable
  | .notDeleted => .ok .notDeleted
  | .city c => .ok (.city c)
  | .vendorActive => .ok .vendorActive
  | .vendorNotDeleted => .ok .vendorNotDeleted
  | .id u => .ok (.id u)
  | .category label =>
      if label ∈ assetCategoryLabels then .ok (.category label)
      else .error (.invalidEnumLabel label)
  | .minDailyRate r => (bindRate py r).map .minDailyRate
  | .maxDailyRate r => (bindRate py r).map .maxDailyRate
  | .noBlockedWindow s e => .ok (.noBlockedWindow s e)
  | .noActiveBooking s e => .ok (.noActiveBooking s e)
  | .afterCursor t u => match py.toUtc t with
      | some t' => .ok (.afterCursor t' u)
      | none => .error .timestampOverflow

/-- The clause is true of an asset and the user it is joined with. -/
def Clause.eval (db : Database) (a : Asset) (u : Option User) : BoundClause → Bool
  | .listingStatus s => a.listingStatus = s
  | .isAvailable => a.isAvailable
  | .notDeleted => a.deletedAt.isNone
  | .city c => a.city = c
  | .vendorActive => u.any fun u => u.isActive
  | .vendorNotDeleted => u.any fun u => u.deletedAt.isNone
  | .id x => a.id = x
  | .category label => a.category.value = label
  | .minDailyRate r => r ≤ a.dailyRate
  | .maxDailyRate r => a.dailyRate ≤ r
  | .noBlockedWindow startsOn endsOn => !db.availabilityWindows.any fun w =>
      w.assetId = a.id && w.isBlocked && w.startsAt ≤ endsOn && startsOn ≤ w.endsAt
  | .noActiveBooking startsOn endsOn => !db.bookings.any fun b =>
      b.assetId = a.id && b.status ∈ [BookingStatus.confirmed, .active] &&
        b.startsOn ≤ endsOn && startsOn ≤ b.endsOn
  | .afterCursor t x =>
      let createdAt := Timestamptz.ofInstant a.createdAt
      t ≤ createdAt && !(createdAt = t && a.id ≤ x)

/-- The rows of the FROM clause. -/
def Select.source (db : Database) (s : Select) : List (Asset × Option User) :=
  if s.join then
    db.assets.flatMap fun a =>
      (db.users.filter fun u => u.id = a.vendorId).map fun u => (a, some u)
  else db.assets.map fun a => (a, none)

/-- The sort key of the inventory: `(created_at, id)`. -/
def assetKey (a : Asset) : Instant ×ₗ UUID := toLex (a.createdAt, a.id)

/-- `await session.execute(stmt)`, reduced to the assets it returns. -/
def Select.execute (py : Python) (db : Database) (s : Select) :
    Except DatabaseError (List Asset) := do
  let bound ← s.clauses.mapM (Clause.bind py)
  let rows := ((s.source db).filter fun p => bound.all (Clause.eval db p.1 p.2)).map Prod.fst
  let rows := if s.ordered then Keyset.sortByKey assetKey rows else rows
  match s.limit with
  | some n => .ok (rows.take n)
  | none => .ok rows

/-- The same; an error of the database escapes to the caller. -/
def Select.run (py : Python) (db : Database) (s : Select) : Except Exc (List Asset) :=
  (s.execute py db).mapError .database

/-- How a session was used: the statements executed and the final result. -/
structure Outcome (α : Type) where
  executed : List Select
  result : Except Exc α

-- ============================================================================
-- The public query functions
-- ============================================================================

/-- The filters of a search. -/
structure Filters where
  category : Option String := none
  startsOn : Option Date := none
  endsOn : Option Date := none
  minDailyRate : Option Decimal := none
  maxDailyRate : Option Decimal := none
deriving DecidableEq

/-- The keyword arguments of `search_public_assets`. -/
structure SearchParams extends Filters where
  limit : Nat := 20
  cursor : Option String := none
deriving DecidableEq

/-- `AssetPage` -/
structure AssetPage where
  items : List Asset
  nextCursor : Option String
deriving DecidableEq

/-- The clause of a cursor; parsing it may raise. -/
def cursorClause (py : Python) (cursor : String) :
    Except Exc (Clause Decimal Datetime) := do
  let (createdAtIso, idStr) ← decodeCursor py cursor
  match py.fromisoformat createdAtIso with
  | none => .error .valueError
  | some cursorDt =>
      match py.parseUUID idStr with
      | none => .error .valueError
      | some cursorId => .ok (.afterCursor cursorDt cursorId)

/-- The clauses of the date filter, when both dates are given. -/
def dateClauses : Option Date → Option Date → List (Clause Decimal Datetime)
  | some startsOn, some endsOn =>
      let (noBlock, noActive) := dateOverlapClauses startsOn.val endsOn.val
      [noBlock, noActive]
  | _, _ => []

/-- The filter clauses of the search. -/
def Filters.clauses (f : Filters) : List (Clause Decimal Datetime) :=
  (f.category.map .category).toList ++ (f.minDailyRate.map .minDailyRate).toList ++
    (f.maxDailyRate.map .maxDailyRate).toList ++ dateClauses f.startsOn f.endsOn

/-- The search statement; `limit` is already capped. -/
def searchStatement (py : Python) (q : SearchParams) (limit : Nat) : Except Exc Select := do
  let stmt := (publicVisibilityClauses {}).where q.clauses
  let stmt ← match q.cursor with
    | none => .ok stmt
    | some cursor => do
        let clause ← cursorClause py cursor
        .ok (stmt.where [clause])
  .ok { stmt with ordered := true, limit := some (limit + 1) }

/-- The page of the fetched rows; `rows[-1]` of no rows is an `IndexError`. -/
def buildPage (py : Python) (limit : Nat) (rows : List Asset) : Except Exc AssetPage :=
  if limit < rows.length then
    match (rows.take limit).getLast? with
    | some last => .ok ⟨rows.take limit,
        some (encodeCursor (py.isoformat (Datetime.ofInstant last.createdAt))
          (py.strUUID last.id))⟩
    | none => .error .indexError
  else .ok ⟨rows, none⟩

/-- `search_public_assets` -/
def searchPublicAssets (py : Python) (db : Database) (q : SearchParams) : Outcome AssetPage :=
  let limit := min q.limit maxPageLimit
  match searchStatement py q limit with
  | .error e => ⟨[], .error e⟩
  | .ok stmt => ⟨[stmt], do buildPage py limit (← stmt.run py db)⟩

/-- `result.scalar_one_or_none()` -/
def scalarOneOrNone : List Asset → Except Exc (Option Asset)
  | [] => .ok none
  | [a] => .ok (some a)
  | _ => .error .multipleResultsFound

/-- `get_public_asset` -/
def getPublicAsset (py : Python) (db : Database) (assetId : UUID) : Outcome Asset :=
  let stmt := publicVisibilityClauses (({} : Select).where [.id assetId])
  ⟨[stmt], do
    match ← scalarOneOrNone (← stmt.run py db) with
    | none => .error (.api (resourceNotFoundError.init none []))
    | some asset => .ok asset⟩

end Vouch
