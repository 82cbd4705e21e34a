/-
  Vouch.App.Upgrade

  Both migrations on stored rows, whatever they hold.

  Migration 0001 creates its tables in an empty database and drops them from any
  other (`run_upgrade0001`, `run_downgrade0001`).  Migration 0002 appends five
  columns to every row of `assets` (`run_upgrade0002`) and takes them away again
  (`run_downgrade0002`), which leaves the rows as they were
  (`withoutListing_withDrafts`).
-/

import Vouch.App.Publication
import Vouch.Sql.Deployment

namespace Vouch

open Sql

-- ============================================================================
-- Migration 0001
-- ============================================================================

/-- The schema before the first migration. -/
def emptySchema : Schema := ⟨[], [], []⟩

theorem consistent_emptySchema {d : Data} (h : emptySchema.Consistent d) : d = fun _ => [] := by
  funext name
  exact h.within name rfl

/-- Revision 0001 is created in an empty database. -/
theorem run_upgrade0001 {d : Data} (h : emptySchema.Consistent d) :
    Sql.run Migration0001.upgrade (emptySchema, d) = .ok (schema0001, d) ∧ schema0001.Within d :=
  run_creating (by decide) h.valid h.within alterAll_upgrade0001

theorem schema0001_proper : schema0001.Proper := by decide

/-- And removed from any other, with all its rows. -/
theorem run_downgrade0001 {d : Data} (h : schema0001.Consistent d) :
    Sql.run Migration0001.downgrade (schema0001, d) = .ok (emptySchema, fun _ => []) := by
  obtain ⟨hrun, -⟩ := run_dropping (by decide) h.valid h.within schema0001_proper
    alterAll_downgrade0001
  have hempty : emptySchema.restrict d = fun _ => [] := rfl
  rw [← hempty]
  exact hrun

-- ============================================================================
-- Migration 0002
-- ============================================================================

/-- What migration 0002 appends to a row of `assets`. -/
def draftColumns : Row :=
  [("listing_status", .enum "draft"), ("minimum_trust_tier", .int 0), ("review_actor_id", .null),
   ("reviewed_at", .null), ("review_reason", .null)]

/-- The columns it adds. -/
def listingColumns : List String := draftColumns.map Prod.fst

/-- A row without them. -/
def withoutListing (r : Row) : Row := r.filter fun p => !listingColumns.contains p.1

/-- The data with every asset a draft. -/
def withDraftColumns (d : Data) : Data := d.mapTable "assets" (· ++ draftColumns)

/-- The data without the columns. -/
def withoutListingColumns (d : Data) : Data := d.mapTable "assets" withoutListing

theorem withoutListing_append {r : Row} (h : ∀ c ∈ listingColumns, c ∉ r.map Prod.fst) :
    withoutListing (r ++ draftColumns) = r := by
  have hold : r.filter (fun p => !listingColumns.contains p.1) = r := by
    rw [List.filter_eq_self]
    intro p hp
    have hfree : p.1 ∉ listingColumns := fun hc => h p.1 hc (List.mem_map_of_mem hp)
    simpa using hfree
  rw [withoutListing, List.filter_append, hold]
  exact List.append_nil r

/-- A row of `assets` at revision 0001 has none of the columns. -/
theorem fresh_of_conforms {r : Row} (h : Migration0001.assets.Conforms schema0001.types r) :
    ∀ c ∈ listingColumns, c ∉ r.map Prod.fst := by
  have hnew : ∀ c ∈ listingColumns, c ∉ Migration0001.assets.columns.map Column.name := by decide
  exact fun c hc hmem => hnew c hc (h.1.mem_iff.mp hmem)

theorem assets_mem_schema0001 : Migration0001.assets ∈ schema0001.tables := by
  simp [schema0001]

/-- One `ADD COLUMN` of the upgrade, on rows of assets rewritten by `f`. -/
theorem exec_addListingColumn (S' : Schema) (c : Column) (references : Option (String × String))
    (v : Value) {S : Schema} {d : Data} {f : Row → Row} (hv : S.Valid (d.mapTable "assets" f))
    (halter : (Ddl.addColumn "assets" c references).alter S = .ok S')
    (hbackfill : c.backfill S.types = .ok v) (hfits : c.fits S.types v)
    (hfree : S.mentions "assets" c.name = false) (hnull : references ≠ none → v = .null) :
    (Ddl.addColumn "assets" c references).exec (S, d.mapTable "assets" f) =
        .ok (S', d.mapTable "assets" fun r => f r ++ [(c.name, v)]) ∧
      S'.Valid (d.mapTable "assets" fun r => f r ++ [(c.name, v)]) := by
  have hexec := Sql.exec_addColumn hv halter hbackfill hfits hfree hnull
  rw [Data.mapTable_mapTable] at hexec
  exact ⟨hexec, (exec_cases hexec).2.2⟩

/-- One `DROP COLUMN` of the downgrade. -/
theorem exec_dropListingColumn (S' : Schema) (column : String) {S : Schema} {d : Data}
    {f : Row → Row} (hv : S.Valid (d.mapTable "assets" f))
    (halter : (Ddl.dropColumn "assets" column).alter S = .ok S') :
    (Ddl.dropColumn "assets" column).exec (S, d.mapTable "assets" f) =
        .ok (S', d.mapTable "assets" fun r => (f r).drop column) ∧
      S'.Valid (d.mapTable "assets" fun r => (f r).drop column) := by
  have hexec := Sql.exec_dropColumn hv halter
  rw [Data.mapTable_mapTable] at hexec
  exact ⟨hexec, (exec_cases hexec).2.2⟩

theorem Data.mapTable_id (d : Data) (table : String) : d.mapTable table (fun r => r) = d := by
  funext t
  by_cases h : t = table
  · rw [h, Data.mapTable_self]
    exact List.map_id _
  · rw [Data.mapTable_of_ne _ _ h]

section Upgrade

variable {d : Data} (h : schema0001.Consistent d)

include h

theorem fresh_of_mem : ∀ r ∈ d "assets", ∀ c ∈ listingColumns, c ∉ r.map Prod.fst :=
  fun r hr => fresh_of_conforms ((h.valid _ assets_mem_schema0001).1 r hr)

theorem exists_of_mem_withDraftColumns : ∀ r ∈ withDraftColumns d "assets",
    ∃ r₀, r = r₀ ++ draftColumns ∧ ∀ c ∈ listingColumns, c ∉ r₀.map Prod.fst := by
  intro r hr
  rw [withDraftColumns, Data.mapTable_self] at hr
  obtain ⟨r₀, hr₀, rfl⟩ := List.mem_map.mp hr
  exact ⟨r₀, rfl, fresh_of_mem h r₀ hr₀⟩

/-- The backfill sets drafts to draft. -/
theorem exec_backfill (hv : (Migration0002.schemaUpTo 5).Valid (withDraftColumns d)) :
    (Ddl.update "assets" "listing_status" "draft" (isLabel "listing_status" "draft")).exec
        (Migration0002.schemaUpTo 5, withDraftColumns d) =
      .ok (Migration0002.schemaUpTo 5, withDraftColumns d) := by
  refine exec_update_same (v := .enum "draft") hv rfl rfl (fun r _ => ⟨_, rfl⟩) ?_
  intro r hr _
  obtain ⟨r₀, rfl, hfresh⟩ := exists_of_mem_withDraftColumns h r hr
  have hset : r₀.set "listing_status" (.enum "draft") = r₀ :=
    Row.set_of_not_mem (hfresh _ (by decide))
  rw [Row.set, List.map_append]
  rw [Row.set] at hset
  rw [hset]
  rfl

/-- The check passes on every row. -/
theorem exec_checkTrustTier (hv : (Migration0002.schemaUpTo 5).Valid (withDraftColumns d)) :
    (Ddl.createCheck "ck_assets_minimum_trust_tier_valid" "assets"
        Migration0002.trustTierValid).exec (Migration0002.schemaUpTo 5, withDraftColumns d) =
      .ok (Migration0002.schemaChecked, withDraftColumns d) := by
  refine exec_createCheck hv rfl ?_
  intro r hr
  obtain ⟨r₀, rfl, hfresh⟩ := exists_of_mem_withDraftColumns h r hr
  have hget : Row.get (r₀ ++ draftColumns) "minimum_trust_tier" = .int 0 :=
    Row.get_append_right (hfresh _ (by decide))
  exact (Cond.Decides.between (Scalar.eval_col hget)).admits_iff.mpr ⟨by omega, by omega⟩

/-- Migration 0002 runs on every consistent database and appends its columns to
    the rows of `assets`. -/
theorem run_upgrade0002 : Sql.run Migration0002.upgrade (schema0001, d) =
    .ok (schema0002, withDraftColumns d) := by
  -- the type
  have h₀ : (Ddl.createType Migration0002.listingstatus true).exec (schema0001, d) =
      .ok (Migration0002.schemaUpTo 0, d) := exec_of_weakens h.valid rfl rfl
  have v₀ : (Migration0002.schemaUpTo 0).Valid (d.mapTable "assets" fun r => r) := by
    rw [Data.mapTable_id]
    exact (exec_cases h₀).2.2
  -- the columns; no constraint mentions them, and the reference is NULL
  obtain ⟨h₁, v₁⟩ := exec_addListingColumn (Migration0002.schemaUpTo 1)
    Migration0002.listingStatus none (.enum "draft") v₀ rfl rfl rfl rfl (fun h => absurd rfl h)
  obtain ⟨h₂, v₂⟩ := exec_addListingColumn (Migration0002.schemaUpTo 2)
    Migration0002.minimumTrustTier none (.int 0) v₁ rfl rfl rfl rfl (fun h => absurd rfl h)
  obtain ⟨h₃, v₃⟩ := exec_addListingColumn (Migration0002.schemaUpTo 3)
    Migration0002.reviewActorId (some ("users", "id")) .null v₂ rfl rfl rfl rfl (fun _ => rfl)
  obtain ⟨h₄, v₄⟩ := exec_addListingColumn (Migration0002.schemaUpTo 4)
    Migration0002.reviewedAt none .null v₃ rfl rfl rfl rfl (fun h => absurd rfl h)
  obtain ⟨h₅, v₅⟩ := exec_addListingColumn (Migration0002.schemaUpTo 5)
    Migration0002.reviewReason none .null v₄ rfl rfl rfl rfl (fun h => absurd rfl h)
  rw [Data.mapTable_id] at h₁
  have hdata : (d.mapTable "assets" fun r => ((((r ++
      [(Migration0002.listingStatus.name, .enum "draft")]) ++
      [(Migration0002.minimumTrustTier.name, .int 0)]) ++
      [(Migration0002.reviewActorId.name, .null)]) ++ [(Migration0002.reviewedAt.name, .null)]) ++
      [(Migration0002.reviewReason.name, .null)]) = withDraftColumns d := by
    simp only [List.append_assoc]
    rfl
  rw [hdata] at h₅ v₅
  have h₆ := exec_backfill h v₅
  have h₇ := exec_checkTrustTier h v₅
  have h₈ : (Ddl.createIndex Migration0002.ixAssetsPublicLagos).exec
      (Migration0002.schemaChecked, withDraftColumns d) = .ok (schema0002, withDraftColumns d) :=
    exec_of_weakens (exec_cases h₇).2.2 rfl rfl
  rw [Migration0002.upgrade]
  rw [run_cons h₀, run_cons h₁, run_cons h₂, run_cons h₃, run_cons h₄, run_cons h₅, run_cons h₆,
    run_cons h₇, run_cons h₈]
  rfl

/-- A row is as it was after an upgrade and a downgrade. -/
theorem withoutListing_withDrafts : withoutListingColumns (withDraftColumns d) = d := by
  rw [withoutListingColumns, withDraftColumns, Data.mapTable_mapTable]
  funext t
  by_cases ht : t = "assets"
  · subst ht
    rw [Data.mapTable_self]
    refine (List.map_congr_left fun r hr => ?_).trans (List.map_id _)
    exact withoutListing_append (fresh_of_mem h r hr)
  · rw [Data.mapTable_of_ne _ _ ht]

end Upgrade

theorem drop_columns (r : Row) : ((((r.drop "review_reason").drop "reviewed_at").drop
    "review_actor_id").drop "minimum_trust_tier").drop "listing_status" = withoutListing r := by
  simp only [Row.drop, List.filter_filter, withoutListing]
  apply List.filter_congr
  intro p _
  simp only [listingColumns, draftColumns, List.map_cons, List.map_nil, List.contains_cons,
    List.contains_nil, Bool.or_false, Bool.not_or, bne]

/-- The downgrade runs on every consistent database and takes the columns away. -/
theorem run_downgrade0002 {d : Data} (h : schema0002.Consistent d) :
    Sql.run Migration0002.downgrade (schema0002, d) =
      .ok (schema0001, withoutListingColumns d) := by
  have h₀ : (Ddl.dropIndex "ix_assets_public_lagos" "assets").exec (schema0002, d) =
      .ok (Migration0002.schemaChecked, d) := exec_of_weakens h.valid rfl rfl
  have h₁ : (Ddl.dropConstraint "ck_assets_minimum_trust_tier_valid" "assets").exec
      (Migration0002.schemaChecked, d) = .ok (Migration0002.schemaUpTo 5, d) :=
    exec_of_weakens (exec_cases h₀).2.2 rfl rfl
  have v₁ : (Migration0002.schemaUpTo 5).Valid (d.mapTable "assets" fun r => r) := by
    rw [Data.mapTable_id]
    exact (exec_cases h₁).2.2
  obtain ⟨h₂, v₂⟩ := exec_dropListingColumn (Migration0002.schemaUpTo 4) "review_reason" v₁ rfl
  obtain ⟨h₃, v₃⟩ := exec_dropListingColumn (Migration0002.schemaUpTo 3) "reviewed_at" v₂ rfl
  obtain ⟨h₄, v₄⟩ := exec_dropListingColumn (Migration0002.schemaUpTo 2) "review_actor_id" v₃ rfl
  obtain ⟨h₅, v₅⟩ := exec_dropListingColumn (Migration0002.schemaUpTo 1) "minimum_trust_tier" v₄ rfl
  obtain ⟨h₆, v₆⟩ := exec_dropListingColumn (Migration0002.schemaUpTo 0) "listing_status" v₅ rfl
  rw [Data.mapTable_id] at h₂
  simp only [drop_columns] at h₆ v₆
  have h₇ : (Ddl.dropType "listingstatus" true).exec
      (Migration0002.schemaUpTo 0, withoutListingColumns d) =
      .ok (schema0001, withoutListingColumns d) := exec_of_weakens v₆ rfl rfl
  rw [Migration0002.downgrade]
  rw [run_cons h₀, run_cons h₁, run_cons h₂, run_cons h₃, run_cons h₄, run_cons h₅, run_cons h₆]
  exact run_cons h₇

-- ============================================================================
-- The versions
-- ============================================================================

/-- `0001_initial_schema` -/
def initialSchema : Migration where
  revision := "0001_initial_schema"
  downRevision := none
  upgrade := Migration0001.upgrade
  downgrade := Migration0001.downgrade

/-- `0002_listing_publication_fields` -/
def listingPublicationFields : Migration where
  revision := "0002_listing_publication_fields"
  downRevision := some "0001_initial_schema"
  upgrade := Migration0002.upgrade
  downgrade := Migration0002.downgrade

/-- `migrations/versions` -/
def versions : List Migration := [initialSchema, listingPublicationFields]

/-- The schema a version stands for. -/
def schemaOf (version : Option String) : Schema :=
  if version = some listingPublicationFields.revision then schema0002
  else if version = some initialSchema.revision then schema0001
  else emptySchema

theorem schemaOf_base : schemaOf none = emptySchema := rfl

theorem schemaOf_initialSchema : schemaOf (some initialSchema.revision) = schema0001 := by
  simp [schemaOf, initialSchema, listingPublicationFields]

theorem schemaOf_listingPublicationFields :
    schemaOf (some listingPublicationFields.revision) = schema0002 := by
  simp [schemaOf]

theorem initialSchema_sound : initialSchema.Sound schemaOf := by
  refine ⟨?_, ?_⟩
  · intro d h
    rw [schemaOf_initialSchema]
    exact ⟨d, run_upgrade0001 h⟩
  · intro d h
    rw [schemaOf_initialSchema] at h ⊢
    exact ⟨fun _ => [], run_downgrade0001 h, fun _ _ => rfl⟩

theorem listingPublicationFields_sound : listingPublicationFields.Sound schemaOf := by
  have hdown : schemaOf listingPublicationFields.downRevision = schema0001 := schemaOf_initialSchema
  refine ⟨?_, ?_⟩
  · intro d h
    rw [hdown] at h ⊢
    rw [schemaOf_listingPublicationFields]
    exact ⟨_, run_upgrade0002 h, h.within.mapTable rfl⟩
  · intro d h
    rw [schemaOf_listingPublicationFields] at h ⊢
    rw [hdown]
    exact ⟨_, run_downgrade0002 h, h.within.mapTable rfl⟩

theorem versions_sound : ∀ m ∈ versions, m.Sound schemaOf := by
  simp only [versions, List.forall_mem_cons]
  exact ⟨initialSchema_sound, listingPublicationFields_sound, fun _ h => absurd h List.not_mem_nil⟩

end Vouch
