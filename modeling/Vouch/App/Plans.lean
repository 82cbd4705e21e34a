/-
  Vouch.App.Plans

  No plan of the database changes an answer.

  PostgreSQL may read the rows of each table in any order, and the assets from
  `ix_assets_public_lagos` alone.  The visibility clauses of every statement
  imply the predicate of that partial index (`covers_of_public`), the search is
  ordered by a key that tells assets apart, and a detail request finds at most
  one row.  So whatever is read, the result is the same (`plan_independent`).
-/

import Vouch.App.Detail
import Vouch.App.Handled
import Vouch.App.Statement
import Vouch.Sql.Scan

namespace Vouch

open Py (Python Instant UUID)
open Sql (Value Row Data Expr Query Scope Truth CmpOp Cond Scans)
open Migration0002 (ixAssetsPublicLagos)

-- ============================================================================
-- The partial index
-- ============================================================================

/-- What every public statement asks of an asset. -/
def indexedClauses : List (Clause Py.Decimal Py.Datetime) :=
  [.listingStatus .active, .isAvailable, .notDeleted]

theorem isTrue_eq {v : Value} (h : v.isTrue = true) : v = .bool true := by
  cases v with
  | bool b => exact congrArg Value.bool h
  | _ => cases h

section Covers

variable {d : Data} {r u : Row}

/-- A row that passes these clauses is in the partial index. -/
theorem covers_of_public (hactive : (assetIs "listing_status" (.enum "active")).eval d
      [("users", u), ("assets", r)] = .true)
    (havailable : (Expr.isTrue "assets" "is_available").eval d
      [("users", u), ("assets", r)] = .true)
    (hdeleted : (Expr.isNull "assets" "deleted_at").eval d
      [("users", u), ("assets", r)] = .true) : ixAssetsPublicLagos.Covers r := by
  have hget : ∀ column, Scope.get [("users", u), ("assets", r)] "assets" column =
      r.get column := by
    intro column
    rw [Scope.get_of_ne _ _ _ (by decide), Scope.get_self]
  have hlabel : CmpOp.eq.eval (r.get "listing_status") (.enum "active") = .true := by
    rw [assetIs, Expr.eval, Sql.Operand.eval, hget] at hactive
    exact hactive
  have hbool : r.get "is_available" = .bool true := by
    rw [Expr.eval, hget, Truth.ofBool_eq_true] at havailable
    exact isTrue_eq havailable
  have hnull : (r.get "deleted_at").isNull = true := by
    rw [Expr.eval, hget, Truth.ofBool_eq_true] at hdeleted
    exact hdeleted
  intro p hp
  obtain rfl := Option.some.inj hp
  refine Cond.selects_and (Cond.selects_and ?_ ?_) ?_
  · exact congrArg Except.ok hlabel
  · show Except.ok (CmpOp.eq.eval (r.get "is_available") (.bool true)) = .ok .true
    rw [hbool]
    rfl
  · exact congrArg (fun b => Except.ok (Truth.ofBool b)) hnull

end Covers

-- ============================================================================
-- The statements
-- ============================================================================

theorem avoids_toExpr (c : BoundClause) : c.toExpr.Avoids "assets" := by
  cases c <;> simp [Clause.toExpr, assetIs, overlapExists, Expr.Avoids]

theorem readsOnce_toQuery (s : Select) (bound : List BoundClause) :
    (s.toQuery bound).ReadsOnce := by
  refine ⟨?_, ?_⟩
  · intro p hp
    obtain ⟨c, -, rfl⟩ := List.mem_map.mp hp
    exact avoids_toExpr c
  · intro j hj
    obtain rfl := Option.some.inj hj
    exact ⟨(by decide : "users" ≠ "assets"), trivial⟩

section Statement

variable {py : Python} {db : Database} {q : SearchParams} {id : UUID} {s : Select}

theorem ordered_of_search (hs : s ∈ (searchPublicAssets py db q).executed) :
    ∃ cs n, s = statementOf q.toFilters cs n := by
  rw [searchPublicAssets, searchStatement_eq] at hs
  cases hcs : cursorClauses py q.cursor with
  | error e =>
    rw [hcs] at hs
    cases hs
  | ok cs =>
    rw [hcs] at hs
    exact ⟨cs, _, List.mem_singleton.mp hs⟩

theorem indexedClauses_public (query : Select) :
    indexedClauses ⊆ (publicVisibilityClauses query).clauses := by
  simp [indexedClauses, publicVisibilityClauses, Select.where]

/-- Each statement has the clauses of the index. -/
theorem indexedClauses_subset
    (hs : s ∈ (searchPublicAssets py db q).executed ∨ s ∈ (getPublicAsset py db id).executed) :
    indexedClauses ⊆ s.clauses := by
  rcases hs with hs | hs
  · obtain ⟨cs, n, rfl⟩ := ordered_of_search hs
    intro c hc
    have hpublic := indexedClauses_public {} hc
    exact List.mem_append_left _ (List.mem_append_left _ hpublic)
  · obtain rfl := List.mem_singleton.mp hs
    exact indexedClauses_public _

/-- A row that the statement selects is in the partial index. -/
theorem covers_of_hits {d : Data} {bound : List BoundClause}
    (hs : s ∈ (searchPublicAssets py db q).executed ∨ s ∈ (getPublicAsset py db id).executed)
    (hbound : s.clauses.mapM (Clause.bind py) = .ok bound) {r : Row}
    (hr : (s.toQuery bound).hits d r ≠ []) : ixAssetsPublicLagos.Covers r := by
  obtain ⟨env, henv, hall⟩ := Query.exists_scope_of_hits hr
  obtain ⟨u, -, rfl⟩ := List.mem_map.mp (List.mem_filter.mp henv).1
  have htrue : ∀ c ∈ indexedClauses, ∀ b, Clause.bind py c = .ok b →
      b.toExpr.eval d [("users", u), ("assets", r)] = .true := by
    intro c hc b hb
    obtain ⟨b', hb', heq⟩ := exists_mem_of_mapM hbound (indexedClauses_subset hs hc)
    obtain rfl := Except.ok.inj (hb.symm.trans heq)
    exact hall _ (List.mem_map_of_mem hb')
  exact covers_of_public (htrue (.listingStatus .active) (by simp [indexedClauses]) _ rfl)
    (htrue .isAvailable (by simp [indexedClauses]) _ rfl)
    (htrue .notDeleted (by simp [indexedClauses]) _ rfl)

end Statement

-- ============================================================================
-- The order of a search
-- ============================================================================

/-- The sort key of a stored asset. -/
def rowKey (r : Row) : Instant ×ₗ UUID :=
  match r.get "created_at", r.get "id" with
  | .timestamptz t, .uuid u => toLex (t, u)
  | _, _ => toLex (0, 0)

theorem rowKey_eq {r : Row} {a : Asset} (h : ∀ c, r.get c = a.toRow.get c) :
    rowKey r = assetKey a := by
  rw [rowKey, h, h]
  rfl

section Order

variable {d : Data} (hvalid : schema0002.Valid d)

include hvalid

/-- A stored row holds the values of an asset. -/
theorem exists_asset {r : Row} (hr : r ∈ d "assets") :
    ∃ a : Asset, ∀ c, r.get c = a.toRow.get c := by
  have hconforms := (hvalid Migration0002.assets (by simp [schema0002])).1 r hr
  obtain ⟨a, -, hstore⟩ := Asset.codec.read_of_conforms Asset.codec_fits hconforms
  rw [Asset.codec_store] at hstore
  refine ⟨a, fun c => ?_⟩
  rw [hstore, hconforms.get_project]

theorem sortsUpTo_iff_rowKey {r s : Row} (hr : r ∈ d "assets") (hs : s ∈ d "assets") :
    Row.sortsUpTo ["created_at", "id"] r s = true ↔ rowKey r ≤ rowKey s := by
  obtain ⟨a, ha⟩ := exists_asset hvalid hr
  obtain ⟨b, hb⟩ := exists_asset hvalid hs
  rw [Query.sortsUpTo_congr ha hb, rowKey_eq ha, rowKey_eq hb]
  exact sortsUpTo_toRow a b

/-- Two rows at one place of the order are one row. -/
theorem eq_of_rowKey {r s : Row} (hr : r ∈ d "assets") (hs : s ∈ d "assets")
    (h : rowKey r = rowKey s) : r = s := by
  have hkey := (hvalid Migration0002.assets (by simp [schema0002])).2 (.primaryKey ["id"])
    (by simp [Migration0002.assets, Migration0001.assets])
  have hpair : (d "assets").Pairwise fun r s => rowKey r ≠ rowKey s := by
    refine List.Pairwise.imp_of_mem ?_ hkey.2
    intro r s hr hs hne heq
    obtain ⟨a, ha⟩ := exists_asset hvalid hr
    obtain ⟨b, hb⟩ := exists_asset hvalid hs
    rw [rowKey_eq ha, rowKey_eq hb] at heq
    apply hne
    rw [agree_singleton, ha, hb]
    exact sameKey_uuid.mpr (congrArg (fun k => (ofLex k).2) heq)
  exact eq_of_key_eq hpair hr hs h

/-- A detail request selects one row at most. -/
theorem length_selected_detail (hwithin : ∀ name, schema0002.table? name = none → d name = [])
    {py : Python} {id : UUID} {s : Select} {bound : List BoundClause}
    (hs : s = publicVisibilityClauses (({} : Select).where [.id id]))
    (hbound : s.clauses.mapM (Clause.bind py) = .ok bound) :
    ((s.toQuery bound).selected d).length ≤ 1 := by
  obtain ⟨db, -, hdata, hdb⟩ := read_of_valid hvalid hwithin
  obtain ⟨assets, hexecute, hrun⟩ := run_toQuery db (s := s) (hs ▸ rfl) hbound
  obtain ⟨rows, hrows, hcases⟩ :=
    execute_detail py hdb.keysHold.assetIdsUnique hdb.keysHold.vendorsResolve id
  rw [hs] at hexecute
  obtain rfl := Except.ok.inj (hexecute.symm.trans hrows)
  have hlength : ((s.toQuery bound).run d).length = assets.length := by
    rw [← List.length_map, ← run_arranged hvalid hdata, hrun, List.length_map]
  have hselected : (s.toQuery bound).run d = (s.toQuery bound).selected d := by
    rw [hs]
    rfl
  rw [← hselected, hlength]
  rcases hcases with ⟨rfl, -⟩ | ⟨a, rfl, -⟩
  · exact Nat.zero_le 1
  · exact Nat.le_refl 1

end Order

/-- **Plans do not change answers.**  Let a plan read the rows of each table in
    any order, and of `assets` any rows that include those of the partial index.
    Each statement that a search or a detail request executes returns the same
    rows, in the same order. -/
theorem plan_independent {py : Python} {db : Database} {d d' : Data}
    (hvalid : schema0002.Valid d)
    (hwithin : ∀ name, schema0002.table? name = none → d name = [])
    {covers : Row → Bool} (hcovers : ∀ r, ixAssetsPublicLagos.Covers r → covers r)
    (hscan : Scans "assets" covers d d') (q : SearchParams) (id : UUID) {s : Select}
    (hs : s ∈ (searchPublicAssets py db q).executed ∨ s ∈ (getPublicAsset py db id).executed)
    {bound : List BoundClause} (hbound : s.clauses.mapM (Clause.bind py) = .ok bound) :
    (s.toQuery bound).run d' = (s.toQuery bound).run d := by
  have hperm : ((s.toQuery bound).selected d').Perm ((s.toQuery bound).selected d) :=
    Query.selected_perm (readsOnce_toQuery s bound) hscan fun r hr =>
      hcovers r (covers_of_hits hs hbound hr)
  rcases hs with hs | hs
  · obtain ⟨cs, n, rfl⟩ := ordered_of_search hs
    have hstored : ∀ r ∈ ((statementOf q.toFilters cs n).toQuery bound).selected d,
        r ∈ d "assets" := fun r hr => Query.stored_of_selected _ hr
    have hinj : ∀ r ∈ ((statementOf q.toFilters cs n).toQuery bound).selected d,
        ∀ s ∈ ((statementOf q.toFilters cs n).toQuery bound).selected d,
          rowKey r = rowKey s → r = s :=
      fun r hr s hs => eq_of_rowKey hvalid (hstored r hr) (hstored s hs)
    refine Query.run_of_ordered hperm (List.cons_ne_nil _ _) ?_ hinj
    exact fun r hr s hs => sortsUpTo_iff_rowKey hvalid (hstored r hr) (hstored s hs)
  · have hs := List.mem_singleton.mp hs
    refine Query.run_of_single hperm ?_ (length_selected_detail hvalid hwithin hs hbound)
    rw [hs]
    rfl

/-- The rows of the partial index and of the other tables, last row first. -/
def indexScan (d : Data) : Data := fun name =>
  if name = "assets" then ((d name).filter fun r => ixAssetsPublicLagos.Covers r).reverse
  else (d name).reverse

theorem indexScan_scans (d : Data) :
    Scans "assets" (fun r => ixAssetsPublicLagos.Covers r) d (indexScan d) := by
  refine ⟨?_, ?_⟩
  · exact List.reverse_perm _
  · intro name hname
    rw [indexScan, if_neg hname]
    exact List.reverse_perm _

theorem plan_independent_sample :
    ((statementOf cameraSearch.toFilters [] 20).toQuery [.listingStatus .active, .isAvailable,
        .notDeleted, .city .lagos, .vendorActive, .vendorNotDeleted, .category "camera",
        .noBlockedWindow 101 101, .noActiveBooking 101 101]).run (indexScan sampleDb.data) =
      ((statementOf cameraSearch.toFilters [] 20).toQuery [.listingStatus .active, .isAvailable,
        .notDeleted, .city .lagos, .vendorActive, .vendorNotDeleted, .category "camera",
        .noBlockedWindow 101 101, .noActiveBooking 101 101]).run sampleDb.data :=
  @plan_independent Py.reference sampleDb sampleDb.data _ sampleDb_valid
    (fun _ => data_of_none sampleDb) _ (fun _ => decide_eq_true) (indexScan_scans _)
    cameraSearch 12 _ (.inl (List.mem_singleton_self _)) _ rfl

end Vouch
