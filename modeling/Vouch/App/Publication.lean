/-
  Vouch.App.Publication

  Migration 0002 on a populated database.

  Both directions are run statement by statement with the rules of
  `Sql.Preserve`.  The schemas between the statements are `schemaUpTo n`: the
  assets table with the first `n` of the five new columns.  Whatever the rows
  hold, the upgrade leaves every asset a draft, and a draft is returned by no
  public statement (`mem_of_execute`).
-/

import Vouch.App.Detail
import Vouch.App.Handled
import Vouch.Sql.Preserve

namespace Vouch

open Py (Python UUID)
open Sql (Row Value Data Column Schema TableDef Ddl Constraint)

-- ============================================================================
-- Records before and after
-- ============================================================================

/-- The same database with converted asset rows. -/
def Tables.mapAssets {A B : Type} (f : A → B) (db : Tables A) : Tables B where
  users := db.users
  assets := db.assets.map f
  kycProfiles := db.kycProfiles
  availabilityWindows := db.availabilityWindows
  bookings := db.bookings
  handoverRecords := db.handoverRecords
  payments := db.payments

/-- An asset with the defaults of the new columns. -/
def Asset0001.draft (a : Asset0001) : Asset where
  toAsset0001 := a
  listingStatus := .draft
  minimumTrustTier := 0
  reviewActorId := none
  reviewedAt := none
  reviewReason := none

/-- Every asset a draft. -/
def Tables.withDrafts (db : Database0001) : Database := db.mapAssets Asset0001.draft

/-- The database without the new columns. -/
def Tables.forget (db : Database) : Database0001 := db.mapAssets Asset.toAsset0001

theorem rows_mapAssets {A B : Type} (f : A → B) (g : B → Row) (db : Tables A) :
    (db.mapAssets f).rows g = db.rows fun a => g (f a) := by
  funext t
  unfold Tables.rows Tables.mapAssets
  simp only [List.map_map, Function.comp_def]

/-- Rewriting the rows of the assets table. -/
theorem mapTable_rows {A : Type} (f : A → Row) (g : Row → Row) (db : Tables A) :
    (db.rows f).mapTable "assets" g = db.rows fun a => g (f a) := by
  funext t
  by_cases h : t = "assets"
  · subst h
    rw [Data.mapTable_self]
    show (db.assets.map f).map g = db.assets.map _
    rw [List.map_map]
    rfl
  · rw [Data.mapTable_of_ne _ _ h]
    unfold Tables.rows
    simp only [if_neg h]

theorem forget_withDrafts (db : Database0001) : db.withDrafts.forget = db := by
  obtain ⟨users, assets, _, _, _, _, _⟩ := db
  unfold Tables.forget Tables.withDrafts Tables.mapAssets
  simp only [List.map_map]
  congr
  exact List.map_id assets

-- ============================================================================
-- The schemas in between
-- ============================================================================

namespace Migration0002

/-- The columns the upgrade adds, in order. -/
def columns : List Column :=
  [listingStatus, minimumTrustTier, reviewActorId, reviewedAt, reviewReason]

/-- The assets table with the first `n` of them; the third brings a foreign key. -/
def assetsUpTo (n : ℕ) : TableDef where
  name := "assets"
  columns := Migration0001.assets.columns ++ columns.take n
  constraints := Migration0001.assets.constraints ++
    if 3 ≤ n then [.foreignKey ["review_actor_id"] "users" ["id"] none] else []

def schemaUpTo (n : ℕ) : Schema where
  types := schema0002.types
  tables := [Migration0001.users, assetsUpTo n, Migration0001.kycProfiles,
    Migration0001.availabilityWindows, Migration0001.bookings, Migration0001.handoverRecords,
    Migration0001.payments]
  indexes := schema0001.indexes

/-- All columns, and the CHECK on the trust tier. -/
def schemaChecked : Schema where
  types := schema0002.types
  tables := schema0002.tables
  indexes := schema0001.indexes

end Migration0002

open Migration0002

-- ============================================================================
-- Upgrade
-- ============================================================================

section Upgrade

variable {db : Database0001}

/-- One `ADD COLUMN` of the upgrade, on rows that store each asset as `f`. -/
theorem exec_addAssetColumn (S' : Schema) (c : Column) (references : Option (String × String))
    (v : Value) {S : Schema} {f : Asset0001 → Row} (hv : S.Valid (db.rows f))
    (halter : (Ddl.addColumn "assets" c references).alter S = .ok S')
    (hbackfill : c.backfill S.types = .ok v) (hfits : c.fits S.types v)
    (hfree : S.mentions "assets" c.name = false) (hnull : references ≠ none → v = .null) :
    (Ddl.addColumn "assets" c references).exec (S, db.rows f) =
        .ok (S', db.rows fun a => f a ++ [(c.name, v)]) ∧
      S'.Valid (db.rows fun a => f a ++ [(c.name, v)]) := by
  have hexec := Sql.exec_addColumn hv halter hbackfill hfits hfree hnull
  rw [mapTable_rows] at hexec
  exact ⟨hexec, (Sql.exec_cases hexec).2.2⟩

/-- The upgrade succeeds on every valid database and makes every asset a draft. -/
theorem run_upgrade (hvalid : db.Valid0001) :
    Sql.run Migration0002.upgrade (schema0001, db.data0001) =
        .ok (schema0002, db.withDrafts.data) ∧
      db.withDrafts.Valid := by
  have hdata : db.withDrafts.data = db.rows fun a => a.draft.toRow := rows_mapAssets _ _ _
  -- the type
  have h₀ : (Ddl.createType listingstatus true).exec (schema0001, db.data0001) =
      .ok (schemaUpTo 0, db.rows Asset0001.toRow) :=
    Sql.exec_of_weakens hvalid rfl rfl
  have v₀ : (schemaUpTo 0).Valid (db.rows Asset0001.toRow) := (Sql.exec_cases h₀).2.2
  -- the columns; no constraint mentions them, and the reference is NULL
  obtain ⟨h₁, v₁⟩ := exec_addAssetColumn (schemaUpTo 1) listingStatus none (.enum "draft") v₀
    rfl rfl rfl rfl (fun h => absurd rfl h)
  obtain ⟨h₂, v₂⟩ := exec_addAssetColumn (schemaUpTo 2) minimumTrustTier none (.int 0) v₁
    rfl rfl rfl rfl (fun h => absurd rfl h)
  obtain ⟨h₃, v₃⟩ := exec_addAssetColumn (schemaUpTo 3) reviewActorId (some ("users", "id")) .null v₂
    rfl rfl rfl rfl (fun _ => rfl)
  obtain ⟨h₄, v₄⟩ := exec_addAssetColumn (schemaUpTo 4) reviewedAt none .null v₃
    rfl rfl rfl rfl (fun h => absurd rfl h)
  obtain ⟨h₅, v₅⟩ := exec_addAssetColumn (schemaUpTo 5) reviewReason none .null v₄
    rfl rfl rfl rfl (fun h => absurd rfl h)
  have hrows : (db.rows fun a => ((((a.toRow ++ [(listingStatus.name, .enum "draft")]) ++
      [(minimumTrustTier.name, .int 0)]) ++ [(reviewActorId.name, .null)]) ++
      [(reviewedAt.name, .null)]) ++ [(reviewReason.name, .null)]) = db.withDrafts.data := by
    rw [hdata]
    rfl
  rw [hrows] at h₅ v₅
  have hassets : ∀ r ∈ db.withDrafts.data "assets", ∃ a : Asset0001, a.draft.toRow = r := by
    intro r hr
    rw [hdata] at hr
    obtain ⟨a, -, ha⟩ := List.mem_map.mp hr
    exact ⟨a, ha⟩
  -- the backfill sets drafts to draft
  have h₆ : (Ddl.update "assets" "listing_status" "draft" (isLabel "listing_status" "draft")).exec
      (schemaUpTo 5, db.withDrafts.data) = .ok (schemaUpTo 5, db.withDrafts.data) := by
    refine Sql.exec_update_same (v := .enum "draft") v₅ rfl rfl ?_ ?_
    · intro r _
      exact ⟨_, rfl⟩
    · intro r hr _
      obtain ⟨a, rfl⟩ := hassets r hr
      rfl
  -- the check passes on every row
  have h₇ : (Ddl.createCheck "ck_assets_minimum_trust_tier_valid" "assets" trustTierValid).exec
      (schemaUpTo 5, db.withDrafts.data) = .ok (schemaChecked, db.withDrafts.data) := by
    refine Sql.exec_createCheck v₅ rfl ?_
    intro r hr
    obtain ⟨a, rfl⟩ := hassets r hr
    exact ⟨.true, rfl, by decide⟩
  have h₈ : (Ddl.createIndex ixAssetsPublicLagos).exec (schemaChecked, db.withDrafts.data) =
      .ok (schema0002, db.withDrafts.data) :=
    Sql.exec_of_weakens (Sql.exec_cases h₇).2.2 rfl rfl
  have hrun : Sql.run Migration0002.upgrade (schema0001, db.data0001) =
      .ok (schema0002, db.withDrafts.data) := by
    rw [Migration0002.upgrade]
    rw [Sql.run_cons h₀, Sql.run_cons h₁, Sql.run_cons h₂, Sql.run_cons h₃, Sql.run_cons h₄,
      Sql.run_cons h₅, Sql.run_cons h₆, Sql.run_cons h₇, Sql.run_cons h₈]
    rfl
  exact ⟨hrun, Sql.run_valid hvalid hrun⟩

end Upgrade

-- ============================================================================
-- Downgrade
-- ============================================================================

section Downgrade

variable {db : Database}

/-- One `DROP COLUMN` of the downgrade. -/
theorem exec_dropAssetColumn (S' : Schema) (column : String) {S : Schema} {f : Asset → Row}
    (hv : S.Valid (db.rows f)) (halter : (Ddl.dropColumn "assets" column).alter S = .ok S') :
    (Ddl.dropColumn "assets" column).exec (S, db.rows f) =
        .ok (S', db.rows fun a => (f a).drop column) ∧
      S'.Valid (db.rows fun a => (f a).drop column) := by
  have hexec := Sql.exec_dropColumn hv halter
  rw [mapTable_rows] at hexec
  exact ⟨hexec, (Sql.exec_cases hexec).2.2⟩

/-- The downgrade succeeds on every valid database and forgets the new columns. -/
theorem run_downgrade (hvalid : db.Valid) :
    Sql.run Migration0002.downgrade (schema0002, db.data) = .ok (schema0001, db.forget.data0001) ∧
      db.forget.Valid0001 := by
  have h₀ : (Ddl.dropIndex "ix_assets_public_lagos" "assets").exec (schema0002, db.data) =
      .ok (schemaChecked, db.rows Asset.toRow) :=
    Sql.exec_of_weakens hvalid rfl rfl
  have h₁ : (Ddl.dropConstraint "ck_assets_minimum_trust_tier_valid" "assets").exec
      (schemaChecked, db.rows Asset.toRow) = .ok (schemaUpTo 5, db.rows Asset.toRow) :=
    Sql.exec_of_weakens (Sql.exec_cases h₀).2.2 rfl rfl
  obtain ⟨h₂, v₂⟩ := exec_dropAssetColumn (schemaUpTo 4) "review_reason" (Sql.exec_cases h₁).2.2 rfl
  obtain ⟨h₃, v₃⟩ := exec_dropAssetColumn (schemaUpTo 3) "reviewed_at" v₂ rfl
  obtain ⟨h₄, v₄⟩ := exec_dropAssetColumn (schemaUpTo 2) "review_actor_id" v₃ rfl
  obtain ⟨h₅, v₅⟩ := exec_dropAssetColumn (schemaUpTo 1) "minimum_trust_tier" v₄ rfl
  obtain ⟨h₆, v₆⟩ := exec_dropAssetColumn (schemaUpTo 0) "listing_status" v₅ rfl
  have hrows : (db.rows fun a => ((((a.toRow.drop "review_reason").drop "reviewed_at").drop
      "review_actor_id").drop "minimum_trust_tier").drop "listing_status") =
      db.forget.data0001 := by
    have hdata : db.forget.data0001 = db.rows fun a => a.toAsset0001.toRow := rows_mapAssets _ _ _
    rw [hdata]
    rfl
  rw [hrows] at h₆ v₆
  have h₇ : (Ddl.dropType "listingstatus" true).exec (schemaUpTo 0, db.forget.data0001) =
      .ok (schema0001, db.forget.data0001) :=
    Sql.exec_of_weakens v₆ rfl rfl
  have hrun : Sql.run Migration0002.downgrade (schema0002, db.data) =
      .ok (schema0001, db.forget.data0001) := by
    rw [Migration0002.downgrade]
    rw [Sql.run_cons h₀, Sql.run_cons h₁, Sql.run_cons h₂, Sql.run_cons h₃, Sql.run_cons h₄,
      Sql.run_cons h₅, Sql.run_cons h₆, Sql.run_cons h₇]
    rfl
  exact ⟨hrun, Sql.run_valid hvalid hrun⟩

end Downgrade

-- ============================================================================
-- What the public API finds
-- ============================================================================

/-- No page has an item or a cursor, and no id has a detail. -/
def FindsNothing (py : Python) (db : Database) : Prop :=
  (∀ p page, (listAssets py db p).result = .ok page →
    page.items = [] ∧ page.pagination.nextCursor = none) ∧
  ∀ id, (getAsset py db id).result = .error notFound

section Drafts

variable {py : Python} {db : Database} (hdraft : ∀ a ∈ db.assets, a.listingStatus = .draft)

include hdraft

theorem not_visible_of_draft : ∀ a ∈ db.assets, ¬ PubliclyVisible db a := by
  intro a ha hvis
  have hactive := hvis.active
  rw [hdraft a ha] at hactive
  cases hactive

/-- A public statement returns no draft. -/
theorem execute_of_draft {f : Filters} {cs : List (Clause Py.Decimal Py.Datetime)} {limit : ℕ}
    {rows : List Asset} (h : (statementOf f cs limit).execute py db = .ok rows) : rows = [] := by
  rw [List.eq_nil_iff_forall_not_mem]
  intro a ha
  have hclause : Clause.listingStatus ListingStatus.active ∈ (statementOf f cs limit).clauses := by
    simp [statementOf, publicVisibilityClauses, Select.where]
  obtain ⟨hmem, b, u, hb, heval⟩ := mem_of_execute h ha hclause
  obtain rfl : Clause.listingStatus .active = b := Except.ok.inj hb
  have hactive : a.listingStatus = .active := of_decide_eq_true heval
  rw [hdraft a hmem] at hactive
  cases hactive

theorem listAssets_of_draft {p : ListParams} {page : PublicPage}
    (h : (listAssets py db p).result = .ok page) :
    page.items = [] ∧ page.pagination.nextCursor = none := by
  cases hv : validateRequest p with
  | error e =>
    rw [listAssets_of_rejected hv] at h
    cases h
  | ok x =>
    rw [listAssets_eq hv] at h
    cases hc : cursorClauses py p.cursor with
    | error e =>
      rw [searchPublicAssets_eq_error (q := ⟨p.toFilters, p.limit, p.cursor⟩) hc] at h
      cases h
    | ok cs =>
      rw [searchPublicAssets_eq (q := ⟨p.toFilters, p.limit, p.cursor⟩) hc p.limit_le] at h
      cases hx : (statementOf p.toFilters cs p.limit).execute py db with
      | error e =>
        simp only [Outcome.map, Select.run, hx] at h
        cases h
      | ok rows =>
        obtain rfl := execute_of_draft hdraft hx
        simp only [Outcome.map, Select.run, hx] at h
        have hpage : (⟨[], ⟨p.limit, none⟩⟩ : PublicPage) = page := Except.ok.inj h
        subst hpage
        exact ⟨rfl, rfl⟩

/-- With drafts only, the public API finds nothing. -/
theorem findsNothing_of_draft (hkeys : db.KeysHold) : FindsNothing py db := by
  refine ⟨fun p page h => listAssets_of_draft hdraft h, ?_⟩
  intro id
  rcases getPublicAsset_cases py hkeys.assetIdsUnique hkeys.vendorsResolve id with
    ⟨a, ha, -⟩ | ⟨-, herr⟩
  · exact absurd ha.2.2 (not_visible_of_draft hdraft a ha.1)
  · exact getAsset_of_error herr

end Drafts

theorem listingStatus_withDrafts (db : Database0001) :
    ∀ a ∈ db.withDrafts.assets, a.listingStatus = .draft := by
  intro a ha
  obtain ⟨b, -, rfl⟩ := List.mem_map.mp ha
  rfl

/-- Migration 0002 publishes nothing and is reversible.  From every valid
    database `S` at revision 0001 the upgrade succeeds, leaves only drafts, and
    the downgrade leads back to `S`; from every valid database `T` at revision
    0002 a downgrade and an upgrade succeed, keep the older columns of every row
    and leave nothing visible. -/
theorem migration0002_safe (py : Python) {S : Database0001} (hS : S.Valid0001) {T : Database}
    (hT : T.Valid) :
    (∃ U : Database, Sql.run Migration0002.upgrade (schema0001, S.data0001) =
        .ok (schema0002, U.data) ∧
      U.Valid ∧ (∀ a ∈ U.assets, a.listingStatus = .draft) ∧ FindsNothing py U ∧
      Sql.run Migration0002.downgrade (schema0002, U.data) = .ok (schema0001, S.data0001)) ∧
    (∃ (D : Database0001) (U : Database),
      Sql.run Migration0002.downgrade (schema0002, T.data) = .ok (schema0001, D.data0001) ∧
      Sql.run Migration0002.upgrade (schema0001, D.data0001) = .ok (schema0002, U.data) ∧
      U.Valid ∧ U.forget = T.forget ∧ (∀ a ∈ U.assets, ¬ PubliclyVisible U a) ∧
      FindsNothing py U) := by
  refine ⟨?_, ?_⟩
  · obtain ⟨hrun, hvalid⟩ := run_upgrade hS
    obtain ⟨hback, -⟩ := run_downgrade hvalid
    rw [forget_withDrafts] at hback
    have hdraft := listingStatus_withDrafts S
    exact ⟨S.withDrafts, hrun, hvalid, hdraft, findsNothing_of_draft hdraft hvalid.keysHold, hback⟩
  · obtain ⟨hdown, hold⟩ := run_downgrade hT
    obtain ⟨hup, hvalid⟩ := run_upgrade hold
    have hdraft := listingStatus_withDrafts T.forget
    exact ⟨T.forget, T.forget.withDrafts, hdown, hup, hvalid, forget_withDrafts _,
      not_visible_of_draft hdraft, findsNothing_of_draft hdraft hvalid.keysHold⟩

/-- The sample without its newer columns, and the sample itself. -/
theorem migration0002_safe_sample :
    (∃ U : Database, Sql.run Migration0002.upgrade (schema0001, sampleDb.forget.data0001) =
        .ok (schema0002, U.data) ∧ FindsNothing Py.reference U) ∧
    ∃ U : Database, U.Valid ∧ U.forget = sampleDb.forget ∧ FindsNothing Py.reference U := by
  obtain ⟨⟨U, hrun, -, -, hnothing, -⟩, -, U', -, -, hvalid, hkept, -, hnothing'⟩ :=
    migration0002_safe Py.reference (run_downgrade sampleDb_valid).2 sampleDb_valid
  exact ⟨⟨U, hrun, hnothing⟩, U', hvalid, hkept, hnothing'⟩

end Vouch
