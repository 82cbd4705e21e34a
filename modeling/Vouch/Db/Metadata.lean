/-
  Vouch.Db.Metadata

  Everything the models declare, beside everything the migrations create.

  `Orm.metadata` is the metadata of `app/db/models`: the tables of `Db.Orm`, and
  `assets` and `availability_windows` with the types and indexes.  It differs
  from the head revision in one foreign key, which the others imply, so no
  script of statements tells the two apart.
-/

import Vouch.Db.Orm
import Vouch.Sql.SameRules

namespace Vouch

open Sql

-- ============================================================================
-- The models
-- ============================================================================

namespace Orm

/-- `Enum(KYCStatus, name="kycstatus")` -/
def kycstatus : EnumType := ⟨"kycstatus", ["pending", "submitted", "verified", "failed"]⟩

/-- `Enum(AssetCategory, name="assetcategory")` -/
def assetcategory : EnumType :=
  ⟨"assetcategory", ["camera", "lens", "lighting", "audio", "drone", "gimbal", "other"]⟩

/-- `Enum(City, name="city")` -/
def city : EnumType := ⟨"city", ["lagos", "abuja"]⟩

/-- `Enum(ListingStatus, name="listingstatus")` -/
def listingstatus : EnumType :=
  ⟨"listingstatus", ["draft", "review", "active", "paused", "rejected"]⟩

/-- `Enum(PaymentType, name="paymenttype")` -/
def paymenttype : EnumType :=
  ⟨"paymenttype", ["deposit", "rental_balance", "payout", "refund", "protection_waiver"]⟩

/-- `Enum(PaymentStatus, name="paymentstatus")` -/
def paymentstatus : EnumType :=
  ⟨"paymentstatus", ["pending", "authorized", "captured", "failed", "refunded"]⟩

/-- `Enum(DepositStatus, name="depositstatus")` -/
def depositstatus : EnumType := ⟨"depositstatus", ["held", "released", "claimed"]⟩

/-- `Enum(PayoutStatus, name="payoutstatus")` -/
def payoutstatus : EnumType := ⟨"payoutstatus", ["pending", "eligible", "paid"]⟩

/-- `Asset` -/
def assets : TableDef where
  name := "assets"
  columns :=
    [id,
     ⟨"vendor_id", .uuid, false, none⟩,
     ⟨"name", .text, false, none⟩,
     ⟨"description", .text, true, none⟩,
     ⟨"category", .enum "assetcategory", false, none⟩,
     ⟨"serial_number", .text, true, none⟩,
     ⟨"daily_rate", .numeric 12 2, false, none⟩,
     ⟨"deposit_amount", .numeric 12 2, false, none⟩,
     ⟨"is_available", .boolean, false, some (.literal "true")⟩,
     ⟨"city", .enum "city", false, none⟩,
     ⟨"condition_notes", .text, true, none⟩,
     ⟨"listing_status", .enum "listingstatus", false, some (.literal "draft")⟩,
     ⟨"minimum_trust_tier", .integer, false, some (.literal "0")⟩,
     ⟨"review_actor_id", .uuid, true, none⟩,
     ⟨"reviewed_at", .timestamptz, true, none⟩,
     ⟨"review_reason", .text, true, none⟩] ++ timestampMixin ++ softDeleteMixin
  constraints :=
    [.primaryKey ["id"],
     references "vendor_id" "users",
     references "review_actor_id" "users",
     .check (positive "daily_rate") "ck_assets_daily_rate_positive",
     .check (nonnegative "deposit_amount") "ck_assets_deposit_amount_nonnegative",
     .check (between "minimum_trust_tier" 0 2) "ck_assets_minimum_trust_tier_valid"]

/-- `AvailabilityWindow` -/
def availabilityWindows : TableDef where
  name := "availability_windows"
  columns :=
    [id,
     ⟨"asset_id", .uuid, false, none⟩,
     ⟨"starts_at", .date, false, none⟩,
     ⟨"ends_at", .date, false, none⟩,
     ⟨"is_blocked", .boolean, false, some (.literal "false")⟩] ++ timestampMixin
  constraints :=
    [.primaryKey ["id"],
     references "asset_id" "assets",
     .check (.cmp .le (.col "starts_at") (.col "ends_at"))
       "ck_availability_windows_valid_date_range"]

/-- `Index(name, column)` of a model -/
def index (name table column : String) : Index := ⟨name, table, [column], none⟩

/-- `Base.metadata` -/
def metadata : Schema where
  types := [renterrole, bookingstatus, handoverdirection, handoverstatus, kycstatus,
    assetcategory, city, listingstatus, paymenttype, paymentstatus, depositstatus, payoutstatus]
  tables := [users, bookings, handoverRecords, assets, kycProfiles, availabilityWindows, payments]
  indexes :=
    [index "ix_users_phone" "users" "phone",
     index "ix_bookings_asset_id" "bookings" "asset_id",
     index "ix_bookings_renter_id" "bookings" "renter_id",
     index "ix_bookings_vendor_id" "bookings" "vendor_id",
     index "ix_handover_records_booking_id" "handover_records" "booking_id",
     ⟨"ix_assets_public_lagos", "assets",
       ["city", "category", "daily_rate", "created_at", "id"],
       some (allOf (isLabel "listing_status" "active")
         [.cmp .eq (.col "is_available") (.lit (.bool true)), isUnset "deleted_at"])⟩,
     index "ix_assets_vendor_id" "assets" "vendor_id",
     index "ix_availability_windows_asset_id" "availability_windows" "asset_id",
     index "ix_payments_booking_id" "payments" "booking_id"]

end Orm

-- ============================================================================
-- Table by table
-- ============================================================================

theorem users_sameRules : Orm.users.SameRules Migration0001.users :=
  ⟨rfl, .refl _, mem_users⟩

theorem bookings_sameRules : Orm.bookings.SameRules Migration0001.bookings :=
  ⟨rfl, .refl _, mem_bookings⟩

theorem assets_sameRules : Orm.assets.SameRules Migration0002.assets := by
  refine ⟨rfl, by decide, ?_⟩
  intro k
  simp only [Orm.assets, Orm.references, Migration0002.assets, Migration0002.trustTierValid,
    Migration0001.assets, List.cons_append, List.nil_append, List.mem_cons, List.not_mem_nil,
    or_false]
  tauto

theorem kycProfiles_sameRules : Orm.kycProfiles.SameRules Migration0001.kycProfiles := by
  refine ⟨rfl, .refl _, ?_⟩
  intro k
  simp only [Orm.kycProfiles, Orm.references, Migration0001.kycProfiles, List.mem_cons,
    List.not_mem_nil, or_false]
  tauto

theorem availabilityWindows_sameRules :
    Orm.availabilityWindows.SameRules Migration0001.availabilityWindows := by
  refine ⟨rfl, .refl _, ?_⟩
  intro k
  simp only [Orm.availabilityWindows, Orm.references, Migration0001.availabilityWindows,
    List.mem_cons, List.not_mem_nil, or_false]
  tauto

theorem payments_sameRules : Orm.payments.SameRules Migration0001.payments := by
  refine ⟨rfl, .refl _, ?_⟩
  intro k
  simp only [Orm.payments, Orm.references, Migration0001.payments, List.mem_cons,
    List.not_mem_nil, or_false]
  tauto

-- ============================================================================
-- The schema as a whole
-- ============================================================================

/-- The tables of the models beside the three of `Orm.schema`. -/
def ormTables : List TableDef :=
  [Orm.assets, Orm.kycProfiles, Orm.availabilityWindows, Orm.payments]

theorem mem_types (e : EnumType) : e ∈ Orm.metadata.types ↔ e ∈ schema0002.types := by
  have hleft : ∀ e ∈ Orm.metadata.types, e ∈ schema0002.types := by decide
  have hright : ∀ e ∈ schema0002.types, e ∈ Orm.metadata.types := by decide
  exact ⟨hleft e, hright e⟩

theorem mem_types_migratedSchema (e : EnumType) :
    e ∈ (migratedSchema otherTypes ormTables).types ↔ e ∈ schema0002.types := by
  have hleft : ∀ e ∈ (migratedSchema otherTypes ormTables).types, e ∈ schema0002.types := by decide
  have hright : ∀ e ∈ schema0002.types, e ∈ (migratedSchema otherTypes ormTables).types := by decide
  exact ⟨hleft e, hright e⟩

theorem mem_indexes (i : Index) : i ∈ Orm.metadata.indexes ↔ i ∈ schema0002.indexes := by
  simp only [Orm.metadata, Orm.index, schema0002, schema0001, Migration0001.ixUsersPhone,
    Migration0001.ixAssetsVendorId, Migration0001.ixAvailabilityWindowsAssetId,
    Migration0001.ixBookingsAssetId, Migration0001.ixBookingsRenterId,
    Migration0001.ixBookingsVendorId, Migration0001.ixHandoverRecordsBookingId,
    Migration0001.ixPaymentsBookingId, Migration0001.index, Migration0002.ixAssetsPublicLagos,
    List.cons_append, List.nil_append, List.mem_cons, List.not_mem_nil, or_false]
  tauto

/-- Every table of the head revision is a model's, and the other way round. -/
theorem sameRules_of_mem {t : TableDef} (ht : t ∈ ormTables) :
    ∃ t' ∈ otherTables, t.SameRules t' := by
  simp only [ormTables, List.mem_cons, List.not_mem_nil, or_false] at ht
  rcases ht with rfl | rfl | rfl | rfl
  · exact ⟨_, by simp [otherTables], assets_sameRules⟩
  · exact ⟨_, by simp [otherTables], kycProfiles_sameRules⟩
  · exact ⟨_, by simp [otherTables], availabilityWindows_sameRules⟩
  · exact ⟨_, by simp [otherTables], payments_sameRules⟩

theorem sameRules_of_mem_otherTables {t' : TableDef} (ht : t' ∈ otherTables) :
    ∃ t ∈ ormTables, t.SameRules t' := by
  simp only [otherTables, List.mem_cons, List.not_mem_nil, or_false] at ht
  rcases ht with rfl | rfl | rfl | rfl
  · exact ⟨_, by simp [ormTables], assets_sameRules⟩
  · exact ⟨_, by simp [ormTables], kycProfiles_sameRules⟩
  · exact ⟨_, by simp [ormTables], availabilityWindows_sameRules⟩
  · exact ⟨_, by simp [ormTables], payments_sameRules⟩

theorem mem_tables_schema0002 (t : TableDef) : t ∈ schema0002.tables ↔
    t ∈ [Migration0001.users, Migration0001.bookings, Migration0001.handoverRecords] ++
      otherTables := by
  simp only [schema0002, otherTables, List.cons_append, List.nil_append, List.mem_cons,
    List.not_mem_nil, or_false]
  tauto

/-- The metadata of the models and the head revision enforce the same rules. -/
theorem metadata_equivalent : Equivalent Orm.metadata schema0002 := by
  -- the handover tables as in `Orm.schema`, then the others one by one
  have hothers : Equivalent (migratedSchema otherTypes ormTables) schema0002 := by
    refine .of_sameRules mem_types_migratedSchema ?_ ?_
    · intro t ht
      rcases List.mem_append.mp ht with ht | ht
      · exact ⟨t, (mem_tables_schema0002 t).mpr (List.mem_append_left _ ht), .refl t⟩
      · obtain ⟨t', ht', hsame⟩ := sameRules_of_mem ht
        exact ⟨t', (mem_tables_schema0002 t').mpr (List.mem_append_right _ ht'), hsame⟩
    · intro t' ht'
      rcases List.mem_append.mp ((mem_tables_schema0002 t').mp ht') with ht' | ht'
      · exact ⟨t', List.mem_append_left _ ht', .refl t'⟩
      · obtain ⟨t, ht, hsame⟩ := sameRules_of_mem_otherTables ht'
        exact ⟨t, List.mem_append_right _ ht, hsame⟩
  have htypes : ∀ e, e ∈ Orm.metadata.types ↔ e ∈ (Orm.schema otherTypes ormTables).types := by
    intro e
    rw [mem_types, ← mem_types_migratedSchema]
    exact Iff.rfl
  have hsplit : Equivalent Orm.metadata (Orm.schema otherTypes ormTables) :=
    .of_sameRules htypes (fun t ht => ⟨t, ht, .refl t⟩) fun t ht => ⟨t, ht, .refl t⟩
  exact (hsplit.trans (orm_equivalent otherTypes ormTables)).trans hothers

/-- The table a model declares for a migrated one: the same columns in some
    order, and the same constraints beside the foreign key of the vendor's
    signature. -/
def Declares (t' t : TableDef) : Prop :=
  t'.name = t.name ∧ t'.columns.Perm t.columns ∧
    ∀ k, k ∈ t'.constraints ↔ k ∈ t.constraints ∨
      (t.name = "handover_records" ∧ k = Orm.vendorSignerReference)

theorem declares_of_sameRules {t' t : TableDef} (h : t'.SameRules t)
    (hname : t.name ≠ "handover_records") : Declares t' t := by
  refine ⟨h.name, h.columns, fun k => ?_⟩
  rw [h.constraints, or_iff_left]
  exact fun hk => hname hk.1

theorem handoverRecords_declares :
    Declares Orm.handoverRecords Migration0001.handoverRecords := by
  refine ⟨rfl, .refl _, fun k => ?_⟩
  rw [mem_handoverRecords]
  exact or_congr_right (and_iff_right rfl).symm

/-- The models and the migrations have not drifted apart.  The metadata declares
    the types and indexes of the head revision and, table by table, its columns
    with their types, nullability and defaults and its constraints; the one
    foreign key it adds changes nothing: the same data is valid, and every
    script of statements has the same result under both. -/
theorem metadata_matches_head :
    (∀ e, e ∈ Orm.metadata.types ↔ e ∈ schema0002.types) ∧
    (∀ i, i ∈ Orm.metadata.indexes ↔ i ∈ schema0002.indexes) ∧
    (Orm.metadata.tables.map TableDef.name).Perm (schema0002.tables.map TableDef.name) ∧
    (∀ t ∈ schema0002.tables, ∃ t' ∈ Orm.metadata.tables, Declares t' t) ∧
    (∀ d, Orm.metadata.Valid d ↔ schema0002.Valid d) ∧
    ∀ script d, schema0002.Valid d →
      Dml.run Orm.metadata script d = Dml.run schema0002 script d := by
  refine ⟨mem_types, mem_indexes, by decide, ?_, metadata_equivalent.valid_iff, ?_⟩
  · simp only [schema0002, List.forall_mem_cons]
    refine ⟨?_, ?_, ?_, ?_, ?_, ?_, ?_, fun _ h => absurd h List.not_mem_nil⟩
    · exact ⟨Orm.users, by simp [Orm.metadata], declares_of_sameRules users_sameRules (by decide)⟩
    · exact ⟨Orm.assets, by simp [Orm.metadata], declares_of_sameRules assets_sameRules (by decide)⟩
    · exact ⟨Orm.kycProfiles, by simp [Orm.metadata],
        declares_of_sameRules kycProfiles_sameRules (by decide)⟩
    · exact ⟨Orm.availabilityWindows, by simp [Orm.metadata],
        declares_of_sameRules availabilityWindows_sameRules (by decide)⟩
    · exact ⟨Orm.bookings, by simp [Orm.metadata],
        declares_of_sameRules bookings_sameRules (by decide)⟩
    · exact ⟨Orm.handoverRecords, by simp [Orm.metadata], handoverRecords_declares⟩
    · exact ⟨Orm.payments, by simp [Orm.metadata],
        declares_of_sameRules payments_sameRules (by decide)⟩
  · intro script d hd
    exact metadata_equivalent.run_eq script ((metadata_equivalent.valid_iff d).mpr hd)

end Vouch
