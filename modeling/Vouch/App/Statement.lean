/-
  Vouch.App.Statement

  The statements of the inventory service as SQL.

  `Clause.toExpr` is the text SQLAlchemy renders for a clause, with its
  parameters bound; `Select.toQuery` the whole statement.  Over the stored rows,
  whatever the order of their columns, PostgreSQL's three-valued evaluation of
  that text returns rows that hold exactly the assets `Select.execute`
  returns (`statement_refines`): where a column is nullable, the statements test
  it with `IS NULL` only, and a comparison never meets a NULL.
-/

import Vouch.App.Listing
import Vouch.Db.Load
import Vouch.Py.Reference
import Vouch.Sql.Query

namespace Vouch

open Py (Python Timestamptz)
open Sql (Value Row Data Expr Operand Query Scope Truth Datum CmpOp Numeric)

-- ============================================================================
-- Rendering
-- ============================================================================

/-- `column = value` of `assets`. -/
def assetIs (column : String) (v : Value) : Expr := .cmp .eq (.col "assets" column) (.param v)

/-- The rows of a table that belong to the asset, meet a condition, and overlap
    the dates in two columns. -/
def overlapExists (table startColumn endColumn : String) (condition : Expr)
    (startsOn endsOn : Int) : Expr :=
  .existsIn table (.and (.cmp .eq (.col table "asset_id") (.col "assets" "id"))
    (.and condition
      (.and (.cmp .le (.col table startColumn) (.param (.date endsOn)))
        (.cmp .ge (.col table endColumn) (.param (.date startsOn))))))

/-- The SQL of a clause. -/
def Clause.toExpr : BoundClause → Expr
  | .listingStatus s => assetIs "listing_status" (.enum s.value)
  | .isAvailable => .isTrue "assets" "is_available"
  | .notDeleted => .isNull "assets" "deleted_at"
  | .city c => assetIs "city" (.enum c.value)
  | .vendorActive => .isTrue "users" "is_active"
  | .vendorNotDeleted => .isNull "users" "deleted_at"
  | .id u => assetIs "id" (.uuid u)
  | .category label => assetIs "category" (.enum label)
  | .minDailyRate r => .cmp .ge (.col "assets" "daily_rate") (.param (.numeric r.unscaled))
  | .maxDailyRate r => .cmp .le (.col "assets" "daily_rate") (.param (.numeric r.unscaled))
  | .noBlockedWindow startsOn endsOn =>
      .not (overlapExists "availability_windows" "starts_at" "ends_at"
        (.isTrue "availability_windows" "is_blocked") startsOn endsOn)
  | .noActiveBooking startsOn endsOn =>
      .not (overlapExists "bookings" "starts_on" "ends_on"
        (.inList (.col "bookings" "status")
          [.enum BookingStatus.confirmed.value, .enum BookingStatus.active.value])
        startsOn endsOn)
  | .afterCursor t u =>
      .and (.cmp .ge (.col "assets" "created_at") (.timestamptz t))
        (.not (.and (.cmp .eq (.col "assets" "created_at") (.timestamptz t))
          (.cmp .le (.col "assets" "id") (.param (.uuid u)))))

/-- The SQL of a statement with a JOIN, its clauses bound. -/
def Select.toQuery (s : Select) (bound : List BoundClause) : Query where
  table := "assets"
  join := some ("users", .cmp .eq (.col "users" "id") (.col "assets" "vendor_id"))
  conditions := bound.map Clause.toExpr
  orderBy := if s.ordered then ["created_at", "id"] else []
  limit := s.limit

-- ============================================================================
-- Clauses
-- ============================================================================

/-- An asset and its user, in scope. -/
def scopeOf (a : Asset) (u : User) : Scope := [("users", u.toRow), ("assets", a.toRow)]

section Clauses

variable {db : Database} (a : Asset) (u : User)

theorem eval_assetIs {column : String} {v w : Value} {b : Bool} (d : Data)
    (hget : a.toRow.get column = v) (h : CmpOp.eq.eval v w = .ofBool b) :
    (assetIs column w).eval d (scopeOf a u) = .ofBool b := by
  rw [assetIs, Expr.eval, Operand.eval, scopeOf, Scope.get_of_ne _ _ _ (by decide), Scope.get_self,
    hget]
  exact h

/-- An enumeration's labels tell its members apart. -/
theorem eval_label {T : Type} [DecidableEq T] {value : T → String}
    (hvalue : Function.Injective value) (x y : T) :
    CmpOp.eq.eval (.enum (value x)) (.enum (value y)) = .ofBool (decide (x = y)) := by
  have hlabel : (value x == value y) = decide (x = y) := by
    rw [Bool.eq_iff_iff, beq_iff_eq, decide_eq_true_iff]
    exact hvalue.eq_iff
  rw [← hlabel]
  rfl

theorem isNull_nullable {α : Type} {f : α → Value} (hf : ∀ x, (f x).isNull = false) (o : Option α) :
    (nullable f o).isNull = o.isNone := by
  cases o with
  | none => rfl
  | some x => exact hf x

/-- The rows that belong to the asset, meet the condition and overlap the dates. -/
theorem eval_overlapExists {α : Type} {rows : List α} {toRow : α → Row}
    {table startColumn endColumn : String} {condition : Expr} {assetId : α → Py.UUID}
    {meets : α → Bool} {lo hi : α → Int} (hdata : db.data table = rows.map toRow)
    (htable : "assets" ≠ table) (hasset : ∀ x, (toRow x).get "asset_id" = .uuid (assetId x))
    (hlo : ∀ x, (toRow x).get startColumn = .date (lo x))
    (hhi : ∀ x, (toRow x).get endColumn = .date (hi x))
    (hmeets : ∀ x, condition.eval db.data ((table, toRow x) :: scopeOf a u) = .ofBool (meets x))
    (s e : Int) :
    (overlapExists table startColumn endColumn condition s e).eval db.data (scopeOf a u) =
      .ofBool (rows.any fun x => assetId x = a.id && meets x && lo x ≤ e && s ≤ hi x) := by
  rw [overlapExists, Expr.eval, hdata, List.any_map]
  congr 2
  funext x
  have hself : ∀ column, Scope.get ((table, toRow x) :: scopeOf a u) table column =
      (toRow x).get column := fun column => Scope.get_self _ _ _ _
  have hid : Scope.get ((table, toRow x) :: scopeOf a u) "assets" "id" = .uuid a.id := by
    rw [Scope.get_of_ne _ _ _ htable]
    rfl
  have heq : CmpOp.eq.compare (.value (.uuid (assetId x))) (.value (.uuid a.id)) =
      .ofBool (assetId x = a.id) := rfl
  have hle : CmpOp.le.compare (.value (.date (lo x))) (.value (.date e)) =
      .ofBool (lo x ≤ e) := rfl
  have hge : CmpOp.ge.compare (.value (.date (hi x))) (.value (.date s)) =
      .ofBool (s ≤ hi x) := rfl
  simp only [Function.comp_apply, Expr.eval, Operand.eval, hself, hid, hasset, hlo, hhi, hmeets,
    heq, hle, hge, Truth.and_ofBool, Truth.ofBool_eq_true, Bool.decide_eq_true, Bool.and_assoc]

/-- A clause's SQL is true where the clause holds, and false elsewhere: it is
    never unknown. -/
theorem eval_toExpr (c : BoundClause) :
    c.toExpr.eval db.data (scopeOf a u) = .ofBool (c.eval db a (some u)) := by
  cases c with
  | listingStatus s => exact eval_assetIs a u _ rfl (eval_label ListingStatus.value_injective _ _)
  | isAvailable => rfl
  | notDeleted => exact congrArg Truth.ofBool (isNull_nullable (fun _ => rfl) a.deletedAt)
  | city c => exact eval_assetIs a u _ rfl (eval_label City.value_injective _ _)
  | vendorActive => rfl
  | vendorNotDeleted => exact congrArg Truth.ofBool (isNull_nullable (fun _ => rfl) u.deletedAt)
  | id x => exact eval_assetIs a u _ rfl rfl
  | category label => exact eval_assetIs a u _ rfl rfl
  | minDailyRate r => rfl
  | maxDailyRate r => rfl
  | noBlockedWindow s e =>
    rw [Clause.toExpr, Expr.eval, eval_overlapExists a u (data_availabilityWindows db) (by decide)
      (fun _ => rfl) (fun _ => rfl) (fun _ => rfl) (fun _ => rfl), Truth.not_ofBool]
    rfl
  | noActiveBooking s e =>
    have hstatus : ∀ b : Booking, Expr.eval db.data (("bookings", b.toRow) :: scopeOf a u)
        (.inList (.col "bookings" "status")
          [.enum BookingStatus.confirmed.value, .enum BookingStatus.active.value]) =
        .ofBool (b.status ∈ [BookingStatus.confirmed, .active]) := by
      intro b
      have hget : Scope.get (("bookings", b.toRow) :: scopeOf a u) "bookings" "status" =
          .enum b.status.value := rfl
      rw [Expr.eval, Operand.eval, hget]
      cases b.status <;> rfl
    rw [Clause.toExpr, Expr.eval, eval_overlapExists a u (data_bookings db) (by decide)
      (fun _ => rfl) (fun _ => rfl) (fun _ => rfl) hstatus, Truth.not_ofBool]
    rfl
  | afterCursor t x =>
    have hge : CmpOp.ge.compare (.value (.timestamptz a.createdAt)) (.timestamptz t) =
        .ofBool (t ≤ Timestamptz.ofInstant a.createdAt) := rfl
    have heq : CmpOp.eq.compare (.value (.timestamptz a.createdAt)) (.timestamptz t) =
        .ofBool (Timestamptz.ofInstant a.createdAt = t) := rfl
    have hle : CmpOp.le.compare (.value (.uuid a.id)) (.value (.uuid x)) =
        .ofBool (a.id ≤ x) := rfl
    show Truth.and (CmpOp.ge.compare (.value (.timestamptz a.createdAt)) (.timestamptz t))
      (Truth.not (Truth.and
        (CmpOp.eq.compare (.value (.timestamptz a.createdAt)) (.timestamptz t))
        (CmpOp.le.compare (.value (.uuid a.id)) (.value (.uuid x))))) = _
    rw [hge, heq, hle, Truth.and_ofBool, Truth.not_ofBool, Truth.and_ofBool]
    rfl

end Clauses

-- ============================================================================
-- Statements
-- ============================================================================

section Statements

variable {py : Python} {s : Select} {bound : List BoundClause}

/-- The key order of two stored assets is the order of their key columns. -/
theorem sortsUpTo_toRow (a b : Asset) :
    Row.sortsUpTo ["created_at", "id"] a.toRow b.toRow = true ↔ assetKey a ≤ assetKey b := by
  have hlex : assetKey a ≤ assetKey b ↔
      a.createdAt < b.createdAt ∨ a.createdAt = b.createdAt ∧ a.id ≤ b.id := Prod.Lex.le_iff
  have hcreated : Value.sortsWith (.timestamptz a.createdAt) (.timestamptz b.createdAt) =
      decide (a.createdAt = b.createdAt) := by
    simp [Value.sortsWith, Value.isNull, Value.sameKey, Value.equal?]
  have hid : Value.sortsWith (.uuid a.id) (.uuid b.id) = decide (a.id = b.id) := by
    simp [Value.sortsWith, Value.isNull, Value.sameKey, Value.equal?]
  have hcreated' : Value.sortsUpTo (.timestamptz a.createdAt) (.timestamptz b.createdAt) =
      decide (a.createdAt ≤ b.createdAt) := by
    simp [Value.sortsUpTo, Value.isNull, Value.le?]
  have hid' : Value.sortsUpTo (.uuid a.id) (.uuid b.id) = decide (a.id ≤ b.id) := by
    simp [Value.sortsUpTo, Value.isNull, Value.le?]
  show (if Value.sortsWith (.timestamptz a.createdAt) (.timestamptz b.createdAt) = true then
    (if Value.sortsWith (.uuid a.id) (.uuid b.id) = true then true
      else Value.sortsUpTo (.uuid a.id) (.uuid b.id))
    else Value.sortsUpTo (.timestamptz a.createdAt) (.timestamptz b.createdAt)) = true ↔ _
  rw [hlex, hcreated, hid, hcreated', hid']
  by_cases hc : a.createdAt = b.createdAt
  · by_cases hi : a.id = b.id
    · simp [hc, hi]
    · simp [hc, hi]
  · simp [hc, lt_iff_le_and_ne]

/-- The assets of a database, each with the users its vendor id names. -/
def joined (db : Database) : List (Asset × User) :=
  db.assets.flatMap fun a => (db.users.filter fun u => u.id = a.vendorId).map fun u => (a, u)

theorem source_joined (db : Database) (hjoin : s.join = true) :
    s.source db = (joined db).map fun p => (p.1, some p.2) := by
  rw [Select.source, if_pos hjoin, joined, List.map_flatMap]
  simp only [List.map_map]
  rfl

theorem source_toQuery (db : Database) :
    (s.toQuery bound).source db.data = (joined db).map fun p => scopeOf p.1 p.2 := by
  show (db.data "assets").flatMap _ = _
  rw [data_assets, joined, List.map_flatMap, List.flatMap_map]
  apply List.flatMap_congr
  intro a _
  show ((db.data "users").map _).filter _ = _
  rw [data_users, List.map_map, List.filter_map, List.map_map]
  have hon : ∀ u : User, CmpOp.eq.compare (.value (.uuid u.id)) (.value (.uuid a.vendorId)) =
      .ofBool (u.id = a.vendorId) := fun _ => rfl
  refine congrArg (List.map fun u => scopeOf a u) (List.filter_congr fun u _ => ?_)
  show decide (CmpOp.eq.compare (.value (.uuid u.id)) (.value (.uuid a.vendorId)) = .true) = _
  rw [hon, Truth.decide_ofBool]

/-- The rows that a statement's SQL selects are those of the assets that the
    statement selects. -/
theorem selected_toQuery (db : Database) (hjoin : s.join = true) :
    (s.toQuery bound).selected db.data =
      (((s.source db).filter fun p => bound.all (Clause.eval db p.1 p.2)).map Prod.fst).map
        Asset.toRow := by
  rw [Query.selected, source_toQuery, source_joined db hjoin, List.filter_map, List.filter_map,
    List.map_map, List.map_map, List.map_map]
  refine congrArg (List.map fun p : Asset × User => p.1.toRow) (List.filter_congr fun p _ => ?_)
  show ((bound.map Clause.toExpr).all fun e => e.eval db.data (scopeOf p.1 p.2) = .true) =
    bound.all (Clause.eval db p.1 (some p.2))
  rw [List.all_map]
  refine congrArg (fun f => List.all bound f) (funext fun c => ?_)
  rw [Function.comp_apply, eval_toExpr, Truth.decide_ofBool]

/-- Over the rows of a database, a statement's SQL returns the rows of the
    assets that the statement returns. -/
theorem run_toQuery (db : Database) (hjoin : s.join = true)
    (hbound : s.clauses.mapM (Clause.bind py) = .ok bound) :
    ∃ assets, s.execute py db = .ok assets ∧
      (s.toQuery bound).run db.data = assets.map Asset.toRow := by
  have hsort : ∀ l : List Asset, (Keyset.sortByKey assetKey l).map Asset.toRow =
      (l.map Asset.toRow).insertionSort fun r s => Row.sortsUpTo ["created_at", "id"] r s := by
    intro l
    exact List.map_insertionSort _ _ _ _ fun a _ b _ => (sortsUpTo_toRow a b).symm
  simp only [Select.execute, hbound, bind, Except.bind, Query.run, selected_toQuery db hjoin]
  cases hord : s.ordered <;> cases hlimit : s.limit <;>
    simp [Select.toQuery, hord, hlimit, hsort, List.map_take]

/-- Rows of a valid table are read alike, in whatever order they list their
    columns. -/
theorem mapM_read_project {d : Data} (hvalid : schema0002.Valid d) {rows : List Row}
    (hrows : ∀ r ∈ rows, r ∈ d "assets") :
    (rows.map (Row.project · Migration0002.assets.columnNames)).mapM Asset.codec.read =
      rows.mapM Asset.codec.read := by
  induction rows with
  | nil => rfl
  | cons r rows ih =>
    obtain ⟨hr, hrows⟩ := List.forall_mem_cons.mp hrows
    have hconforms := (hvalid Migration0002.assets (by simp [schema0002])).1 r hr
    rw [List.map_cons, List.mapM_cons, List.mapM_cons, ih hrows,
      Sql.RowCodec.read_project Asset.codec_fits (by decide) hconforms]

/-- The tables that are read are the stored ones with their columns in order. -/
theorem run_arranged {d : Data} {db : Database} (hvalid : schema0002.Valid d)
    (hdata : db.data = schema0002.arrange d) :
    (s.toQuery bound).run db.data =
      ((s.toQuery bound).run d).map (Row.project · Migration0002.assets.columnNames) := by
  rw [hdata]
  exact Query.run_mapRows (fun t r hr c => hvalid.get_arrange t r hr c) _

end Statements

/-- A statement with a JOIN, over any rows that the migrated schema admits. -/
theorem execute_refines {py : Python} {d : Data} {db : Database} (hvalid : schema0002.Valid d)
    (hwithin : ∀ name, schema0002.table? name = none → d name = [])
    (hread : Tables.read d = some db) {s : Select} {bound : List BoundClause}
    (hjoin : s.join = true) (hbound : s.clauses.mapM (Clause.bind py) = .ok bound) :
    ∃ assets, s.execute py db = .ok assets ∧
      ((s.toQuery bound).run d).mapM Asset.codec.read = some assets := by
  obtain ⟨db', hread', hdata, -⟩ := read_of_valid hvalid hwithin
  obtain rfl := Option.some.inj (hread.symm.trans hread')
  obtain ⟨assets, hexecute, hrun⟩ := run_toQuery db hjoin hbound
  refine ⟨assets, hexecute, ?_⟩
  rw [← mapM_read_project hvalid fun r hr => Query.stored_of_run hr, ← run_arranged hvalid hdata,
    hrun, ← Asset.codec_store]
  exact Sql.RowCodec.mapM_read_store (by decide) assets

/-- The statement of a search joins the users. -/
theorem join_of_search {py : Python} {db : Database} {q : SearchParams} {s : Select}
    (hs : s ∈ (searchPublicAssets py db q).executed) : s.join = true := by
  rw [searchPublicAssets, searchStatement_eq] at hs
  cases hcs : cursorClauses py q.cursor with
  | error e =>
    rw [hcs] at hs
    cases hs
  | ok cs =>
    rw [hcs] at hs
    obtain rfl := List.mem_singleton.mp hs
    rfl

/-- **The statements refine their SQL.**  Over any rows that the migrated schema
    admits, whatever the order of their columns, the SQL of each statement that a
    search or a detail request executes returns rows that hold the assets the
    statement returns from the records of the tables. -/
theorem statement_refines {py : Python} {d : Data} {db : Database} (hvalid : schema0002.Valid d)
    (hwithin : ∀ name, schema0002.table? name = none → d name = [])
    (hread : Tables.read d = some db) (q : SearchParams) (id : Py.UUID) {s : Select}
    (hs : s ∈ (searchPublicAssets py db q).executed ∨ s ∈ (getPublicAsset py db id).executed)
    {bound : List BoundClause} (hbound : s.clauses.mapM (Clause.bind py) = .ok bound) :
    ∃ assets, s.execute py db = .ok assets ∧
      ((s.toQuery bound).run d).mapM Asset.codec.read = some assets := by
  apply execute_refines hvalid hwithin hread _ hbound
  rcases hs with hs | hs
  · exact join_of_search hs
  · obtain rfl := List.mem_singleton.mp hs
    rfl

/-- The search for cameras on day 101. -/
def cameraSearch : SearchParams :=
  { category := some "camera", startsOn := some 101, endsOn := some 101 }

/-- Over the sample. -/
theorem statement_refines_sample :
    ∃ assets, (statementOf cameraSearch.toFilters [] 20).execute Py.reference sampleDb =
        .ok assets ∧
      (((statementOf cameraSearch.toFilters [] 20).toQuery [.listingStatus .active, .isAvailable,
          .notDeleted, .city .lagos, .vendorActive, .vendorNotDeleted, .category "camera",
          .noBlockedWindow 101 101, .noActiveBooking 101 101]).run sampleDb.data).mapM
        Asset.codec.read = some assets :=
  statement_refines sampleDb_valid (fun _ => data_of_none sampleDb) (read_data sampleDb)
    cameraSearch 12 (.inl (List.mem_singleton_self _)) rfl

end Vouch
