/-
  Vouch.Db.Migrations

  The scripts of `migrations/versions`, statement by statement, and the schemas
  they lead to.

  A column reads name, type, nullable, server default.  Constraints stand in
  the order in which the migration lists them.  Creating the extensions
  `pgcrypto` and `btree_gist` is left out, and taken to succeed: the exclusion
  constraint of `bookings` needs the latter to compare a `uuid` with `=` in a GiST
  index.  No downgrade drops them.
-/

import Vouch.Sql.Ddl

namespace Vouch

open Sql

-- ============================================================================
-- Expressions
-- ============================================================================

/-- `c IS NOT NULL` -/
def isSet (c : String) : Cond := .isNotNull (.col c)

/-- `c IS NULL` -/
def isUnset (c : String) : Cond := .isNull (.col c)

/-- `c = 'label'` -/
def isLabel (c label : String) : Cond := .cmp .eq (.col c) (.lit (.enum label))

/-- `c <> 'label'` -/
def notLabel (c label : String) : Cond := .cmp .ne (.col c) (.lit (.enum label))

/-- `c > 0` on a NUMERIC column -/
def positive (c : String) : Cond := .cmp .gt (.col c) (.lit (.numeric 0))

/-- `c >= 0` on a NUMERIC column -/
def nonnegative (c : String) : Cond := .cmp .ge (.col c) (.lit (.numeric 0))

/-- `c BETWEEN lo AND hi` on an INTEGER column -/
def between (c : String) (lo hi : Int) : Cond := .between (.col c) (.lit (.int lo)) (.lit (.int hi))

/-- `p₁ AND p₂ AND …`, grouped to the left. -/
def allOf (p : Cond) (ps : List Cond) : Cond := ps.foldl .and p

-- ============================================================================
-- 0001: enumerations and tables
-- ============================================================================

namespace Migration0001

def renterrole : EnumType := ⟨"renterrole", ["renter", "vendor", "admin"]⟩

def kycstatus : EnumType := ⟨"kycstatus", ["pending", "submitted", "verified", "failed"]⟩

def assetcategory : EnumType :=
  ⟨"assetcategory", ["camera", "lens", "lighting", "audio", "drone", "gimbal", "other"]⟩

def city : EnumType := ⟨"city", ["lagos", "abuja"]⟩

def bookingstatus : EnumType :=
  ⟨"bookingstatus", ["pending", "confirmed", "active", "completed", "cancelled", "disputed"]⟩

def handoverdirection : EnumType := ⟨"handoverdirection", ["pickup", "return"]⟩

def handoverstatus : EnumType :=
  ⟨"handoverstatus", ["draft", "vendor_signed", "renter_signed", "completed"]⟩

def paymenttype : EnumType :=
  ⟨"paymenttype", ["deposit", "rental_balance", "payout", "refund", "protection_waiver"]⟩

def paymentstatus : EnumType :=
  ⟨"paymentstatus", ["pending", "authorized", "captured", "failed", "refunded"]⟩

def depositstatus : EnumType := ⟨"depositstatus", ["held", "released", "claimed"]⟩

def payoutstatus : EnumType := ⟨"payoutstatus", ["pending", "eligible", "paid"]⟩

def enums : List EnumType :=
  [renterrole, kycstatus, assetcategory, city, bookingstatus, handoverdirection, handoverstatus,
   paymenttype, paymentstatus, depositstatus, payoutstatus]

def idColumn : Column := ⟨"id", .uuid, false, some (.call "gen_random_uuid()")⟩

def createdAt : Column := ⟨"created_at", .timestamptz, false, some (.call "now()")⟩

def updatedAt : Column := ⟨"updated_at", .timestamptz, false, some (.call "now()")⟩

def users : TableDef where
  name := "users"
  columns :=
    [idColumn,
     ⟨"phone", .text, false, none⟩,
     ⟨"full_name", .text, false, none⟩,
     ⟨"email", .text, true, none⟩,
     ⟨"role", .enum "renterrole", false, none⟩,
     ⟨"is_active", .boolean, false, none⟩,
     createdAt,
     updatedAt,
     ⟨"deleted_at", .timestamptz, true, none⟩]
  constraints :=
    [.primaryKey ["id"],
     .unique ["email"] none,
     .unique ["phone"] none]

def assets : TableDef where
  name := "assets"
  columns :=
    [idColumn,
     ⟨"vendor_id", .uuid, false, none⟩,
     ⟨"name", .text, false, none⟩,
     ⟨"description", .text, true, none⟩,
     ⟨"category", .enum "assetcategory", false, none⟩,
     ⟨"serial_number", .text, true, none⟩,
     ⟨"daily_rate", .numeric 12 2, false, none⟩,
     ⟨"deposit_amount", .numeric 12 2, false, none⟩,
     ⟨"is_available", .boolean, false, some (.literal "true")⟩,
     ⟨"city", .enum "city", false, none⟩,
     ⟨"condition_notes", .text, true, none⟩,
     createdAt,
     updatedAt,
     ⟨"deleted_at", .timestamptz, true, none⟩]
  constraints :=
    [.check (positive "daily_rate") "ck_assets_daily_rate_positive",
     .check (nonnegative "deposit_amount") "ck_assets_deposit_amount_nonnegative",
     .foreignKey ["vendor_id"] "users" ["id"] none,
     .primaryKey ["id"]]

def kycProfiles : TableDef where
  name := "kyc_profiles"
  columns :=
    [idColumn,
     ⟨"user_id", .uuid, false, none⟩,
     ⟨"provider", .text, false, none⟩,
     ⟨"provider_reference", .text, true, none⟩,
     ⟨"status", .enum "kycstatus", false, none⟩,
     ⟨"tier", .integer, false, none⟩,
     ⟨"national_id_type", .text, true, none⟩,
     ⟨"verified_at", .timestamptz, true, none⟩,
     createdAt,
     updatedAt]
  constraints :=
    [.foreignKey ["user_id"] "users" ["id"] none,
     .check (between "tier" 0 2) "ck_kyc_profiles_supported_tier",
     .check (.or (notLabel "status" "verified") (isSet "verified_at"))
       "ck_kyc_profiles_verified_at_required",
     .check (.or
         (allOf (isLabel "status" "verified") [isSet "verified_at", between "tier" 1 2])
         (allOf (notLabel "status" "verified")
           [isUnset "verified_at", .cmp .eq (.col "tier") (.lit (.int 0))]))
       "ck_kyc_profiles_verification_consistency",
     .primaryKey ["id"],
     .unique ["user_id"] none,
     .unique ["provider_reference"] (some "uq_kyc_profiles_provider_reference")]

def availabilityWindows : TableDef where
  name := "availability_windows"
  columns :=
    [idColumn,
     ⟨"asset_id", .uuid, false, none⟩,
     ⟨"starts_at", .date, false, none⟩,
     ⟨"ends_at", .date, false, none⟩,
     ⟨"is_blocked", .boolean, false, some (.literal "false")⟩,
     createdAt,
     updatedAt]
  constraints :=
    [.check (.cmp .le (.col "starts_at") (.col "ends_at"))
       "ck_availability_windows_valid_date_range",
     .foreignKey ["asset_id"] "assets" ["id"] none,
     .primaryKey ["id"]]

/-- `status IN ('confirmed', 'active')`, the WHERE of the exclusion constraint. -/
def reserving : Cond := .inList (.col "status") [.enum "confirmed", .enum "active"]

/-- No two reserving bookings of one asset overlap. -/
def exBookingsNoActiveAssetOverlap : Constraint :=
  .exclude "ex_bookings_no_active_asset_overlap" "asset_id" "starts_on" "ends_on" reserving

def bookings : TableDef where
  name := "bookings"
  columns :=
    [idColumn,
     ⟨"asset_id", .uuid, false, none⟩,
     ⟨"renter_id", .uuid, false, none⟩,
     ⟨"vendor_id", .uuid, false, none⟩,
     ⟨"starts_on", .date, false, none⟩,
     ⟨"ends_on", .date, false, none⟩,
     ⟨"status", .enum "bookingstatus", false, some (.literal "pending")⟩,
     ⟨"total_rental_fee", .numeric 12 2, false, none⟩,
     ⟨"deposit_amount", .numeric 12 2, false, none⟩,
     ⟨"platform_note", .text, true, none⟩,
     ⟨"cancelled_at", .timestamptz, true, none⟩,
     ⟨"cancellation_reason", .text, true, none⟩,
     createdAt,
     updatedAt]
  constraints :=
    [.check (nonnegative "deposit_amount") "ck_bookings_deposit_amount_nonnegative",
     .check (positive "total_rental_fee") "ck_bookings_total_rental_fee_positive",
     .check (.cmp .le (.col "starts_on") (.col "ends_on")) "ck_bookings_valid_date_range",
     exBookingsNoActiveAssetOverlap,
     .foreignKey ["asset_id"] "assets" ["id"] none,
     .foreignKey ["renter_id"] "users" ["id"] none,
     .foreignKey ["vendor_id"] "users" ["id"] none,
     .primaryKey ["id"],
     .unique ["id", "renter_id"] (some "uq_bookings_id_renter"),
     .unique ["id", "vendor_id"] (some "uq_bookings_id_vendor")]

/-- `ck_handover_records_completed_requirements` -/
def completedRequirements : Cond :=
  .or (notLabel "status" "completed")
    (allOf (isSet "vendor_signer_id")
      [isSet "renter_signer_id", isSet "vendor_signed_at", isSet "renter_signed_at",
       isSet "evidence_urls",
       .cmp .eq (.jsonbTypeof "evidence_urls") (.lit (.text "array")),
       .cmp .gt (.jsonbArrayLength "evidence_urls") (.lit (.int 0))])

def handoverRecords : TableDef where
  name := "handover_records"
  columns :=
    [idColumn,
     ⟨"booking_id", .uuid, false, none⟩,
     ⟨"direction", .enum "handoverdirection", false, none⟩,
     ⟨"status", .enum "handoverstatus", false, some (.literal "draft")⟩,
     ⟨"condition_checklist", .jsonb, false, none⟩,
     ⟨"vendor_signer_id", .uuid, true, none⟩,
     ⟨"renter_signer_id", .uuid, true, none⟩,
     ⟨"vendor_signed_at", .timestamptz, true, none⟩,
     ⟨"renter_signed_at", .timestamptz, true, none⟩,
     ⟨"evidence_urls", .jsonb, true, none⟩,
     ⟨"location_lat", .numeric 9 6, true, none⟩,
     ⟨"location_lng", .numeric 9 6, true, none⟩,
     ⟨"notes", .text, true, none⟩,
     createdAt,
     updatedAt]
  constraints :=
    [.check completedRequirements "ck_handover_records_completed_requirements",
     .foreignKey ["booking_id"] "bookings" ["id"] none,
     .foreignKey ["booking_id", "vendor_signer_id"] "bookings" ["id", "vendor_id"]
       (some "fk_handover_records_booking_vendor"),
     .foreignKey ["booking_id", "renter_signer_id"] "bookings" ["id", "renter_id"]
       (some "fk_handover_records_booking_renter"),
     .foreignKey ["renter_signer_id"] "users" ["id"] none,
     .primaryKey ["id"],
     .unique ["booking_id", "direction"] (some "uq_handover_records_booking_direction")]

def payments : TableDef where
  name := "payments"
  columns :=
    [idColumn,
     ⟨"booking_id", .uuid, false, none⟩,
     ⟨"type", .enum "paymenttype", false, none⟩,
     ⟨"status", .enum "paymentstatus", false, none⟩,
     ⟨"amount", .numeric 12 2, false, none⟩,
     ⟨"currency", .text, false, none⟩,
     ⟨"provider", .text, false, none⟩,
     ⟨"provider_reference", .text, true, none⟩,
     ⟨"provider_virtual_account", .text, true, none⟩,
     ⟨"vendor_recipient_code", .text, true, none⟩,
     ⟨"vendor_subaccount_code", .text, true, none⟩,
     ⟨"platform_fee", .numeric 12 2, true, none⟩,
     ⟨"settlement_reference", .text, true, none⟩,
     ⟨"deposit_status", .enum "depositstatus", true, none⟩,
     ⟨"payout_status", .enum "payoutstatus", true, none⟩,
     ⟨"authorized_at", .timestamptz, true, none⟩,
     ⟨"captured_at", .timestamptz, true, none⟩,
     ⟨"failed_at", .timestamptz, true, none⟩,
     ⟨"deposit_held_at", .timestamptz, true, none⟩,
     ⟨"deposit_released_at", .timestamptz, true, none⟩,
     ⟨"deposit_claimed_at", .timestamptz, true, none⟩,
     ⟨"payout_eligible_at", .timestamptz, true, none⟩,
     ⟨"paid_at", .timestamptz, true, none⟩,
     ⟨"settled_at", .timestamptz, true, none⟩,
     ⟨"metadata", .jsonb, true, none⟩,
     createdAt,
     updatedAt]
  constraints :=
    [.check (positive "amount") "ck_payments_amount_positive",
     .check (.or (notLabel "type" "payout")
         (.and (isSet "vendor_recipient_code") (isSet "platform_fee")))
       "ck_payments_payout_fields_required",
     .check (.or (isUnset "platform_fee") (nonnegative "platform_fee"))
       "ck_payments_platform_fee_nonnegative",
     .check (.or (.and (isLabel "type" "deposit") (isSet "deposit_status"))
         (allOf (notLabel "type" "deposit")
           [isUnset "deposit_status", isUnset "deposit_held_at", isUnset "deposit_released_at",
            isUnset "deposit_claimed_at"]))
       "ck_payments_deposit_lifecycle_type",
     .check (.or (.and (isLabel "type" "payout") (isSet "payout_status"))
         (allOf (notLabel "type" "payout")
           [isUnset "payout_status", isUnset "payout_eligible_at", isUnset "paid_at"]))
       "ck_payments_payout_lifecycle_type",
     .check (.or (isUnset "deposit_status")
         (allOf (isSet "deposit_held_at")
           [.or (notLabel "deposit_status" "released") (isSet "deposit_released_at"),
            .or (notLabel "deposit_status" "claimed") (isSet "deposit_claimed_at")]))
       "ck_payments_deposit_status_timestamps",
     -- AND binds tighter than OR
     .check (.or (isUnset "payout_status")
         (.and (.or (isLabel "payout_status" "pending") (isSet "payout_eligible_at"))
           (.or (notLabel "payout_status" "paid") (isSet "paid_at"))))
       "ck_payments_payout_status_timestamps",
     .foreignKey ["booking_id"] "bookings" ["id"] none,
     .primaryKey ["id"],
     .unique ["provider_reference"] none]

/-- `op.create_index(name, table, columns, unique=False)` -/
def index (name table column : String) : Index := ⟨name, table, [column], none⟩

def ixUsersPhone : Index := index "ix_users_phone" "users" "phone"

def ixAssetsVendorId : Index := index "ix_assets_vendor_id" "assets" "vendor_id"

def ixAvailabilityWindowsAssetId : Index :=
  index "ix_availability_windows_asset_id" "availability_windows" "asset_id"

def ixBookingsAssetId : Index := index "ix_bookings_asset_id" "bookings" "asset_id"

def ixBookingsRenterId : Index := index "ix_bookings_renter_id" "bookings" "renter_id"

def ixBookingsVendorId : Index := index "ix_bookings_vendor_id" "bookings" "vendor_id"

def ixHandoverRecordsBookingId : Index :=
  index "ix_handover_records_booking_id" "handover_records" "booking_id"

def ixPaymentsBookingId : Index := index "ix_payments_booking_id" "payments" "booking_id"

def upgrade : List Ddl :=
  enums.map (.createType · false) ++
  [.createTable users, .createIndex ixUsersPhone,
   .createTable assets, .createIndex ixAssetsVendorId,
   .createTable kycProfiles,
   .createTable availabilityWindows, .createIndex ixAvailabilityWindowsAssetId,
   .createTable bookings, .createIndex ixBookingsAssetId, .createIndex ixBookingsRenterId,
   .createIndex ixBookingsVendorId,
   .createTable handoverRecords, .createIndex ixHandoverRecordsBookingId,
   .createTable payments, .createIndex ixPaymentsBookingId]

def downgrade : List Ddl :=
  [.dropIndex "ix_payments_booking_id" "payments", .dropTable "payments",
   .dropIndex "ix_handover_records_booking_id" "handover_records", .dropTable "handover_records",
   .dropIndex "ix_bookings_vendor_id" "bookings", .dropIndex "ix_bookings_renter_id" "bookings",
   .dropIndex "ix_bookings_asset_id" "bookings", .dropTable "bookings",
   .dropIndex "ix_availability_windows_asset_id" "availability_windows",
   .dropTable "availability_windows",
   .dropTable "kyc_profiles",
   .dropIndex "ix_assets_vendor_id" "assets", .dropTable "assets",
   .dropIndex "ix_users_phone" "users", .dropTable "users"] ++
  enums.reverse.map fun e => .dropType e.name false

end Migration0001

/-- The schema at revision 0001. -/
def schema0001 : Schema where
  types := Migration0001.enums
  tables := [Migration0001.users, Migration0001.assets, Migration0001.kycProfiles,
    Migration0001.availabilityWindows, Migration0001.bookings, Migration0001.handoverRecords,
    Migration0001.payments]
  indexes := [Migration0001.ixUsersPhone, Migration0001.ixAssetsVendorId,
    Migration0001.ixAvailabilityWindowsAssetId, Migration0001.ixBookingsAssetId,
    Migration0001.ixBookingsRenterId, Migration0001.ixBookingsVendorId,
    Migration0001.ixHandoverRecordsBookingId, Migration0001.ixPaymentsBookingId]

/-- Revision 0001 creates its schema from nothing, and removes it again. -/
theorem alterAll_upgrade0001 : alterAll Migration0001.upgrade ⟨[], [], []⟩ = .ok schema0001 := rfl

theorem alterAll_downgrade0001 :
    alterAll Migration0001.downgrade schema0001 = .ok ⟨[], [], []⟩ := rfl

-- ============================================================================
-- 0002: listing publication
-- ============================================================================

namespace Migration0002

def listingstatus : EnumType :=
  ⟨"listingstatus", ["draft", "review", "active", "paused", "rejected"]⟩

def listingStatus : Column := ⟨"listing_status", .enum "listingstatus", false, some (.literal "draft")⟩

def minimumTrustTier : Column := ⟨"minimum_trust_tier", .integer, false, some (.literal "0")⟩

def reviewActorId : Column := ⟨"review_actor_id", .uuid, true, none⟩

def reviewedAt : Column := ⟨"reviewed_at", .timestamptz, true, none⟩

def reviewReason : Column := ⟨"review_reason", .text, true, none⟩

/-- `minimum_trust_tier BETWEEN 0 AND 2` -/
def trustTierValid : Cond := between "minimum_trust_tier" 0 2

/-- The partial index of the public search. -/
def ixAssetsPublicLagos : Index :=
  ⟨"ix_assets_public_lagos", "assets", ["city", "category", "daily_rate", "created_at", "id"],
   some (allOf (isLabel "listing_status" "active")
     [.cmp .eq (.col "is_available") (.lit (.bool true)), isUnset "deleted_at"])⟩

def upgrade : List Ddl :=
  [.createType listingstatus true,
   .addColumn "assets" listingStatus none,
   .addColumn "assets" minimumTrustTier none,
   .addColumn "assets" reviewActorId (some ("users", "id")),
   .addColumn "assets" reviewedAt none,
   .addColumn "assets" reviewReason none,
   .update "assets" "listing_status" "draft" (isLabel "listing_status" "draft"),
   .createCheck "ck_assets_minimum_trust_tier_valid" "assets" trustTierValid,
   .createIndex ixAssetsPublicLagos]

def downgrade : List Ddl :=
  [.dropIndex "ix_assets_public_lagos" "assets",
   .dropConstraint "ck_assets_minimum_trust_tier_valid" "assets",
   .dropColumn "assets" "review_reason",
   .dropColumn "assets" "reviewed_at",
   .dropColumn "assets" "review_actor_id",
   .dropColumn "assets" "minimum_trust_tier",
   .dropColumn "assets" "listing_status",
   .dropType "listingstatus" true]

/-- The assets table after the upgrade. -/
def assets : TableDef where
  name := "assets"
  columns := Migration0001.assets.columns ++
    [listingStatus, minimumTrustTier, reviewActorId, reviewedAt, reviewReason]
  constraints := Migration0001.assets.constraints ++
    [.foreignKey ["review_actor_id"] "users" ["id"] none,
     .check trustTierValid "ck_assets_minimum_trust_tier_valid"]

end Migration0002

/-- The schema at revision 0002. -/
def schema0002 : Schema where
  types := Migration0001.enums ++ [Migration0002.listingstatus]
  tables := [Migration0001.users, Migration0002.assets, Migration0001.kycProfiles,
    Migration0001.availabilityWindows, Migration0001.bookings, Migration0001.handoverRecords,
    Migration0001.payments]
  indexes := schema0001.indexes ++ [Migration0002.ixAssetsPublicLagos]

end Vouch
