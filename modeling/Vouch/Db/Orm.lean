/-
  Vouch.Db.Orm

  The tables `users`, `bookings`, `handover_records`, `kyc_profiles` and
  `payments` as the ORM models of `app/db/models` declare them, beside those
  migration 0001 creates.

  The last two declare the migrated constraints.  Of the others the models declare
  one foreign key more, from `vendor_signer_id` to `users`.  It follows from the
  composite key to the booking's vendor, so the two schemas are `Equivalent`
  whatever further tables stand beside them.  The columns of the mixins come last
  here; the order of columns constrains no row.
-/

import Vouch.Db.Valid
import Vouch.Sql.Dml
import Vouch.Sql.Preserve

namespace Vouch

open Sql

-- ============================================================================
-- The models
-- ============================================================================

namespace Orm

/-- `Enum(RenterRole, name="renterrole")`, which stores member names. -/
def renterrole : EnumType := ⟨"renterrole", ["renter", "vendor", "admin"]⟩

/-- `Enum(BookingStatus, name="bookingstatus")` -/
def bookingstatus : EnumType :=
  ⟨"bookingstatus", ["pending", "confirmed", "active", "completed", "cancelled", "disputed"]⟩

/-- `Enum(HandoverDirection, values_callable=…)`, which stores member values. -/
def handoverdirection : EnumType := ⟨"handoverdirection", ["pickup", "return"]⟩

/-- `Enum(HandoverStatus, values_callable=…)` -/
def handoverstatus : EnumType :=
  ⟨"handoverstatus", ["draft", "vendor_signed", "renter_signed", "completed"]⟩

/-- The `id` column of every model. -/
def id : Column := ⟨"id", .uuid, false, some (.call "gen_random_uuid()")⟩

/-- `TimestampMixin` -/
def timestampMixin : List Column :=
  [⟨"created_at", .timestamptz, false, some (.call "now()")⟩,
   ⟨"updated_at", .timestamptz, false, some (.call "now()")⟩]

/-- `SoftDeleteMixin` -/
def softDeleteMixin : List Column := [⟨"deleted_at", .timestamptz, true, none⟩]

/-- `ForeignKey("table.id")` on a column -/
def references (column table : String) : Constraint := .foreignKey [column] table ["id"] none

/-- `User` -/
def users : TableDef where
  name := "users"
  columns :=
    [id,
     ⟨"phone", .text, false, none⟩,
     ⟨"full_name", .text, false, none⟩,
     ⟨"email", .text, true, none⟩,
     ⟨"role", .enum "renterrole", false, none⟩,
     ⟨"is_active", .boolean, false, none⟩] ++ timestampMixin ++ softDeleteMixin
  constraints := [.primaryKey ["id"], .unique ["phone"] none, .unique ["email"] none]

/-- `Booking` -/
def bookings : TableDef where
  name := "bookings"
  columns :=
    [id,
     ⟨"asset_id", .uuid, false, none⟩,
     ⟨"renter_id", .uuid, false, none⟩,
     ⟨"vendor_id", .uuid, false, none⟩,
     ⟨"starts_on", .date, false, none⟩,
     ⟨"ends_on", .date, false, none⟩,
     ⟨"status", .enum "bookingstatus", false, some (.literal "pending")⟩,
     ⟨"total_rental_fee", .numeric 12 2, false, none⟩,
     ⟨"deposit_amount", .numeric 12 2, false, none⟩,
     ⟨"platform_note", .text, true, none⟩,
     ⟨"cancelled_at", .timestamptz, true, none⟩,
     ⟨"cancellation_reason", .text, true, none⟩] ++ timestampMixin
  constraints :=
    [.primaryKey ["id"],
     references "asset_id" "assets",
     references "renter_id" "users",
     references "vendor_id" "users",
     .check (positive "total_rental_fee") "ck_bookings_total_rental_fee_positive",
     .check (nonnegative "deposit_amount") "ck_bookings_deposit_amount_nonnegative",
     .check (.cmp .le (.col "starts_on") (.col "ends_on")) "ck_bookings_valid_date_range",
     .exclude "ex_bookings_no_active_asset_overlap" "asset_id" "starts_on" "ends_on"
       (.inList (.col "status") [.enum "confirmed", .enum "active"]),
     .unique ["id", "renter_id"] (some "uq_bookings_id_renter"),
     .unique ["id", "vendor_id"] (some "uq_bookings_id_vendor")]

/-- The foreign key that the migration does not create. -/
def vendorSignerReference : Constraint := references "vendor_signer_id" "users"

/-- `HandoverRecord` -/
def handoverRecords : TableDef where
  name := "handover_records"
  columns :=
    [id,
     ⟨"booking_id", .uuid, false, none⟩,
     ⟨"direction", .enum "handoverdirection", false, none⟩,
     ⟨"status", .enum "handoverstatus", false, some (.literal "draft")⟩,
     ⟨"condition_checklist", .jsonb, false, none⟩,
     ⟨"vendor_signer_id", .uuid, true, none⟩,
     ⟨"renter_signer_id", .uuid, true, none⟩,
     ⟨"vendor_signed_at", .timestamptz, true, none⟩,
     ⟨"renter_signed_at", .timestamptz, true, none⟩,
     ⟨"evidence_urls", .jsonb, true, none⟩,
     ⟨"location_lat", .numeric 9 6, true, none⟩,
     ⟨"location_lng", .numeric 9 6, true, none⟩,
     ⟨"notes", .text, true, none⟩] ++ timestampMixin
  constraints :=
    [.primaryKey ["id"],
     references "booking_id" "bookings",
     vendorSignerReference,
     references "renter_signer_id" "users",
     .check (.or (notLabel "status" "completed")
         (allOf (isSet "vendor_signer_id")
           [isSet "renter_signer_id", isSet "vendor_signed_at", isSet "renter_signed_at",
            isSet "evidence_urls",
            .cmp .eq (.jsonbTypeof "evidence_urls") (.lit (.text "array")),
            .cmp .gt (.jsonbArrayLength "evidence_urls") (.lit (.int 0))]))
       "ck_handover_records_completed_requirements",
     .foreignKey ["booking_id", "vendor_signer_id"] "bookings" ["id", "vendor_id"]
       (some "fk_handover_records_booking_vendor"),
     .foreignKey ["booking_id", "renter_signer_id"] "bookings" ["id", "renter_id"]
       (some "fk_handover_records_booking_renter"),
     .unique ["booking_id", "direction"] (some "uq_handover_records_booking_direction")]

/-- `KYCProfile` -/
def kycProfiles : TableDef where
  name := "kyc_profiles"
  columns :=
    [id,
     ⟨"user_id", .uuid, false, none⟩,
     ⟨"provider", .text, false, none⟩,
     ⟨"provider_reference", .text, true, none⟩,
     ⟨"status", .enum "kycstatus", false, none⟩,
     ⟨"tier", .integer, false, none⟩,
     ⟨"national_id_type", .text, true, none⟩,
     ⟨"verified_at", .timestamptz, true, none⟩] ++ timestampMixin
  constraints :=
    [.primaryKey ["id"],
     references "user_id" "users",
     .unique ["user_id"] none,
     .check (between "tier" 0 2) "ck_kyc_profiles_supported_tier",
     .check (.or (notLabel "status" "verified") (isSet "verified_at"))
       "ck_kyc_profiles_verified_at_required",
     .check (.or
         (allOf (isLabel "status" "verified") [isSet "verified_at", between "tier" 1 2])
         (allOf (notLabel "status" "verified")
           [isUnset "verified_at", .cmp .eq (.col "tier") (.lit (.int 0))]))
       "ck_kyc_profiles_verification_consistency",
     .unique ["provider_reference"] (some "uq_kyc_profiles_provider_reference")]

/-- `Payment` -/
def payments : TableDef where
  name := "payments"
  columns :=
    [id,
     ⟨"booking_id", .uuid, false, none⟩,
     ⟨"type", .enum "paymenttype", false, none⟩,
     ⟨"status", .enum "paymentstatus", false, none⟩,
     ⟨"amount", .numeric 12 2, false, none⟩,
     ⟨"currency", .text, false, none⟩,
     ⟨"provider", .text, false, none⟩,
     ⟨"provider_reference", .text, true, none⟩,
     ⟨"provider_virtual_account", .text, true, none⟩,
     ⟨"vendor_recipient_code", .text, true, none⟩,
     ⟨"vendor_subaccount_code", .text, true, none⟩,
     ⟨"platform_fee", .numeric 12 2, true, none⟩,
     ⟨"settlement_reference", .text, true, none⟩,
     ⟨"deposit_status", .enum "depositstatus", true, none⟩,
     ⟨"payout_status", .enum "payoutstatus", true, none⟩,
     ⟨"authorized_at", .timestamptz, true, none⟩,
     ⟨"captured_at", .timestamptz, true, none⟩,
     ⟨"failed_at", .timestamptz, true, none⟩,
     ⟨"deposit_held_at", .timestamptz, true, none⟩,
     ⟨"deposit_released_at", .timestamptz, true, none⟩,
     ⟨"deposit_claimed_at", .timestamptz, true, none⟩,
     ⟨"payout_eligible_at", .timestamptz, true, none⟩,
     ⟨"paid_at", .timestamptz, true, none⟩,
     ⟨"settled_at", .timestamptz, true, none⟩,
     ⟨"metadata", .jsonb, true, none⟩] ++ timestampMixin
  constraints :=
    [.primaryKey ["id"],
     references "booking_id" "bookings",
     .unique ["provider_reference"] none,
     .check (positive "amount") "ck_payments_amount_positive",
     .check (.or (notLabel "type" "payout")
         (.and (isSet "vendor_recipient_code") (isSet "platform_fee")))
       "ck_payments_payout_fields_required",
     .check (.or (isUnset "platform_fee") (nonnegative "platform_fee"))
       "ck_payments_platform_fee_nonnegative",
     .check (.or (.and (isLabel "type" "deposit") (isSet "deposit_status"))
         (allOf (notLabel "type" "deposit")
           [isUnset "deposit_status", isUnset "deposit_held_at", isUnset "deposit_released_at",
            isUnset "deposit_claimed_at"]))
       "ck_payments_deposit_lifecycle_type",
     .check (.or (.and (isLabel "type" "payout") (isSet "payout_status"))
         (allOf (notLabel "type" "payout")
           [isUnset "payout_status", isUnset "payout_eligible_at", isUnset "paid_at"]))
       "ck_payments_payout_lifecycle_type",
     .check (.or (isUnset "deposit_status")
         (allOf (isSet "deposit_held_at")
           [.or (notLabel "deposit_status" "released") (isSet "deposit_released_at"),
            .or (notLabel "deposit_status" "claimed") (isSet "deposit_claimed_at")]))
       "ck_payments_deposit_status_timestamps",
     -- AND binds tighter than OR
     .check (.or (isUnset "payout_status")
         (.and (.or (isLabel "payout_status" "pending") (isSet "payout_eligible_at"))
           (.or (notLabel "payout_status" "paid") (isSet "paid_at"))))
       "ck_payments_payout_status_timestamps"]

/-- The models' tables beside other types and tables. -/
def schema (types : List EnumType) (others : List TableDef) : Schema where
  types := [renterrole, bookingstatus, handoverdirection, handoverstatus] ++ types
  tables := [users, bookings, handoverRecords] ++ others
  indexes := []

end Orm

/-- The migrated tables beside the same types and tables. -/
def migratedSchema (types : List EnumType) (others : List TableDef) : Schema where
  types := [Migration0001.renterrole, Migration0001.bookingstatus,
    Migration0001.handoverdirection, Migration0001.handoverstatus] ++ types
  tables := [Migration0001.users, Migration0001.bookings, Migration0001.handoverRecords] ++ others
  indexes := []

-- ============================================================================
-- Equivalence
-- ============================================================================

section Equivalence

variable {types : List EnumType} {data : Data}

theorem mem_users (k : Constraint) :
    k ∈ Orm.users.constraints ↔ k ∈ Migration0001.users.constraints := by
  simp only [Orm.users, Migration0001.users, List.mem_cons, List.not_mem_nil, or_false]
  tauto

theorem mem_bookings (k : Constraint) :
    k ∈ Orm.bookings.constraints ↔ k ∈ Migration0001.bookings.constraints := by
  simp only [Orm.bookings, Orm.references, Migration0001.bookings,
    Migration0001.exBookingsNoActiveAssetOverlap, Migration0001.reserving, List.mem_cons,
    List.not_mem_nil, or_false]
  tauto

theorem mem_handoverRecords (k : Constraint) :
    k ∈ Orm.handoverRecords.constraints ↔
      k ∈ Migration0001.handoverRecords.constraints ∨ k = Orm.vendorSignerReference := by
  simp only [Orm.handoverRecords, Orm.references, Migration0001.handoverRecords,
    Migration0001.completedRequirements, List.mem_cons, List.not_mem_nil, or_false]
  tauto

theorem mem_handoverRecords_immediate (k : Constraint) (hk : k.isForeignKey = false) :
    k ∈ Orm.handoverRecords.constraints ↔ k ∈ Migration0001.handoverRecords.constraints := by
  rw [mem_handoverRecords]
  apply or_iff_left
  rintro rfl
  cases hk

/-- The extra foreign key holds wherever the migrated rules do. -/
theorem vendorSignerReference_holds
    (himm : Migration0001.handoverRecords.Immediate types data)
    (hfk : Migration0001.handoverRecords.ForeignKeysHold data)
    (hbookings : Migration0001.bookings.ForeignKeysHold data) :
    Orm.vendorSignerReference.Holds data "handover_records" := by
  have hpair := hfk
    (.foreignKey ["booking_id", "vendor_signer_id"] "bookings" ["id", "vendor_id"]
      (some "fk_handover_records_booking_vendor")) (by simp [Migration0001.handoverRecords]) rfl
  have hvendor := hbookings (.foreignKey ["vendor_id"] "users" ["id"] none)
    (by simp [Migration0001.bookings]) rfl
  refine Constraint.foreignKey_trans hpair ?_ hvendor
  -- `booking_id` is NOT NULL
  intro r hr
  have hfits := (himm.1 r hr).2 ⟨"booking_id", .uuid, false, none⟩
    (by simp [Migration0001.handoverRecords])
  cases hnull : (r.get "booking_id").isNull with
  | false => rfl
  | true =>
    rw [Column.fits, hnull, if_pos rfl] at hfits
    cases hfits

/-- The models and the migration enforce the same rules. -/
theorem orm_equivalent (types : List EnumType) (others : List TableDef) :
    Equivalent (Orm.schema types others) (migratedSchema types others) := by
  have himmediate : ∀ d, (Orm.schema types others).Immediate d ↔
      (migratedSchema types others).Immediate d := by
    intro d
    have husers := @TableDef.immediate_congr (migratedSchema types others).types d Orm.users
      Migration0001.users rfl rfl fun k _ => mem_users k
    have hbookings := @TableDef.immediate_congr (migratedSchema types others).types d Orm.bookings
      Migration0001.bookings rfl rfl fun k _ => mem_bookings k
    have hhandovers := @TableDef.immediate_congr (migratedSchema types others).types d
      Orm.handoverRecords Migration0001.handoverRecords rfl rfl mem_handoverRecords_immediate
    show (∀ t ∈ [Orm.users, Orm.bookings, Orm.handoverRecords] ++ others, _) ↔
      ∀ t ∈ [Migration0001.users, Migration0001.bookings, Migration0001.handoverRecords] ++ others, _
    rw [List.forall_mem_append, List.forall_mem_append]
    simp only [List.forall_mem_cons]
    exact and_congr (and_congr husers (and_congr hbookings (and_congr_left' hhandovers))) Iff.rfl
  refine ⟨himmediate, ?_⟩
  intro d himm
  have hrecords := (himmediate d).mp himm Migration0001.handoverRecords (by simp [migratedSchema])
  have husers := @TableDef.foreignKeysHold_congr d Orm.users Migration0001.users rfl
    fun k _ => mem_users k
  have hbookings := @TableDef.foreignKeysHold_congr d Orm.bookings Migration0001.bookings rfl
    fun k _ => mem_bookings k
  have hhandovers := @TableDef.foreignKeysHold_and d Orm.handoverRecords
    Migration0001.handoverRecords rfl Orm.vendorSignerReference rfl fun k _ => mem_handoverRecords k
  show (∀ t ∈ [Orm.users, Orm.bookings, Orm.handoverRecords] ++ others, _) ↔
    ∀ t ∈ [Migration0001.users, Migration0001.bookings, Migration0001.handoverRecords] ++ others, _
  rw [List.forall_mem_append, List.forall_mem_append]
  simp only [List.forall_mem_cons]
  rw [husers, hbookings, hhandovers]
  apply and_congr_left'
  apply and_congr_right
  intro _
  apply and_congr_right
  intro hfk
  apply and_congr_left'
  exact and_iff_left_of_imp fun h => vendorSignerReference_holds hrecords h hfk

/-- The ORM schema and the migrated schema accept the same data about handover
    signers.  The models declare a foreign key that the migration does not
    create, yet the same instances satisfy both schemas, and from each of them
    both accept and reject the same statements, with the same result. -/
theorem handover_schemas_agree (types : List EnumType) (others : List TableDef) :
    (Orm.vendorSignerReference ∈ Orm.handoverRecords.constraints ∧
      Orm.vendorSignerReference ∉ Migration0001.handoverRecords.constraints) ∧
    (∀ d, (Orm.schema types others).Valid d ↔ (migratedSchema types others).Valid d) ∧
    ∀ script d, (Orm.schema types others).Valid d →
      Dml.run (Orm.schema types others) script d =
        Dml.run (migratedSchema types others) script d := by
  have hequiv := orm_equivalent types others
  refine ⟨⟨?_, ?_⟩, hequiv.valid_iff, fun script d hd => hequiv.run_eq script hd⟩
  · simp [Orm.handoverRecords]
  · simp [Migration0001.handoverRecords, Orm.vendorSignerReference, Orm.references]

end Equivalence

-- ============================================================================
-- The current revision
-- ============================================================================

/-- The types and tables of the current revision that stand beside the three. -/
def otherTypes : List EnumType :=
  [Migration0001.kycstatus, Migration0001.assetcategory, Migration0001.city,
   Migration0001.paymenttype, Migration0001.paymentstatus, Migration0001.depositstatus,
   Migration0001.payoutstatus, Migration0002.listingstatus]

def otherTables : List TableDef :=
  [Migration0002.assets, Migration0001.kycProfiles, Migration0001.availabilityWindows,
   Migration0001.payments]

/-- A database is valid exactly when it satisfies what the models declare. -/
theorem valid_iff_orm (db : Database) :
    db.Valid ↔ (Orm.schema otherTypes otherTables).Valid db.data := by
  rw [(orm_equivalent otherTypes otherTables).valid_iff]
  apply Schema.valid_congr
  · intro e
    simp only [schema0002, Migration0001.enums, migratedSchema, otherTypes, List.cons_append,
      List.nil_append, List.mem_cons, List.not_mem_nil, or_false]
    tauto
  · intro t
    simp only [schema0002, migratedSchema, otherTables, List.cons_append, List.nil_append,
      List.mem_cons, List.not_mem_nil, or_false]
    tauto

/-- The vendor who signed the sample's return cannot be deleted, with or without
    the extra foreign key. -/
theorem handover_schemas_agree_sample :
    (Dml.run (Orm.schema otherTypes otherTables) [⟨"users", [.delete 0]⟩] sampleDb.data).isNone ∧
      (Dml.run (migratedSchema otherTypes otherTables) [⟨"users", [.delete 0]⟩]
        sampleDb.data).isNone := by
  have hvalid := (valid_iff_orm sampleDb).mp sampleDb_valid
  rw [(handover_schemas_agree otherTypes otherTables).2.2 _ _ hvalid]
  have hrejected : (Dml.run (migratedSchema otherTypes otherTables) [⟨"users", [.delete 0]⟩]
      sampleDb.data).isNone := by
    decide +kernel
  exact ⟨hrejected, hrejected⟩

end Vouch
