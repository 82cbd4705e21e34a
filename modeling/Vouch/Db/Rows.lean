/-
  Vouch.Db.Rows

  How records are stored: each model as the SQL row of its table, under the
  column names of the migrations, and a database as the data of its tables.
-/

import Vouch.Db.Models
import Vouch.Sql.Schema

namespace Vouch

open Sql (Value Row Data Numeric)

/-- A nullable column. -/
def nullable {α : Type} (f : α → Value) : Option α → Value
  | none => .null
  | some a => f a

@[simp] theorem nullable_none {α : Type} (f : α → Value) : nullable f none = .null := rfl

@[simp] theorem nullable_some {α : Type} (f : α → Value) (a : α) : nullable f (some a) = f a := rfl

/-- A NUMERIC column. -/
def money {p s : ℕ} (a : Numeric p s) : Value := .numeric a.unscaled

def User.toRow (u : User) : Row :=
  [("id", .uuid u.id),
   ("phone", .text u.phone),
   ("full_name", .text u.fullName),
   ("email", nullable .text u.email),
   ("role", .enum u.role.value),
   ("is_active", .bool u.isActive),
   ("created_at", .timestamptz u.createdAt),
   ("updated_at", .timestamptz u.updatedAt),
   ("deleted_at", nullable .timestamptz u.deletedAt)]

def KYCProfile.toRow (k : KYCProfile) : Row :=
  [("id", .uuid k.id),
   ("user_id", .uuid k.userId),
   ("provider", .text k.provider),
   ("provider_reference", nullable .text k.providerReference),
   ("status", .enum k.status.value),
   ("tier", .int k.tier),
   ("national_id_type", nullable .text k.nationalIdType),
   ("verified_at", nullable .timestamptz k.verifiedAt),
   ("created_at", .timestamptz k.createdAt),
   ("updated_at", .timestamptz k.updatedAt)]

def Asset0001.toRow (a : Asset0001) : Row :=
  [("id", .uuid a.id),
   ("vendor_id", .uuid a.vendorId),
   ("name", .text a.name),
   ("description", nullable .text a.description),
   ("category", .enum a.category.value),
   ("serial_number", nullable .text a.serialNumber),
   ("daily_rate", money a.dailyRate),
   ("deposit_amount", money a.depositAmount),
   ("is_available", .bool a.isAvailable),
   ("city", .enum a.city.value),
   ("condition_notes", nullable .text a.conditionNotes),
   ("created_at", .timestamptz a.createdAt),
   ("updated_at", .timestamptz a.updatedAt),
   ("deleted_at", nullable .timestamptz a.deletedAt)]

/-- The columns of migration 0002 come last. -/
def Asset.toRow (a : Asset) : Row :=
  a.toAsset0001.toRow ++
    [("listing_status", .enum a.listingStatus.value),
     ("minimum_trust_tier", .int a.minimumTrustTier),
     ("review_actor_id", nullable .uuid a.reviewActorId),
     ("reviewed_at", nullable .timestamptz a.reviewedAt),
     ("review_reason", nullable .text a.reviewReason)]

def AvailabilityWindow.toRow (w : AvailabilityWindow) : Row :=
  [("id", .uuid w.id),
   ("asset_id", .uuid w.assetId),
   ("starts_at", .date w.startsAt),
   ("ends_at", .date w.endsAt),
   ("is_blocked", .bool w.isBlocked),
   ("created_at", .timestamptz w.createdAt),
   ("updated_at", .timestamptz w.updatedAt)]

def Booking.toRow (b : Booking) : Row :=
  [("id", .uuid b.id),
   ("asset_id", .uuid b.assetId),
   ("renter_id", .uuid b.renterId),
   ("vendor_id", .uuid b.vendorId),
   ("starts_on", .date b.startsOn),
   ("ends_on", .date b.endsOn),
   ("status", .enum b.status.value),
   ("total_rental_fee", money b.totalRentalFee),
   ("deposit_amount", money b.depositAmount),
   ("platform_note", nullable .text b.platformNote),
   ("cancelled_at", nullable .timestamptz b.cancelledAt),
   ("cancellation_reason", nullable .text b.cancellationReason),
   ("created_at", .timestamptz b.createdAt),
   ("updated_at", .timestamptz b.updatedAt)]

def HandoverRecord.toRow (h : HandoverRecord) : Row :=
  [("id", .uuid h.id),
   ("booking_id", .uuid h.bookingId),
   ("direction", .enum h.direction.value),
   ("status", .enum h.status.value),
   ("condition_checklist", .jsonb h.conditionChecklist),
   ("vendor_signer_id", nullable .uuid h.vendorSignerId),
   ("renter_signer_id", nullable .uuid h.renterSignerId),
   ("vendor_signed_at", nullable .timestamptz h.vendorSignedAt),
   ("renter_signed_at", nullable .timestamptz h.renterSignedAt),
   ("evidence_urls", nullable .jsonb h.evidenceUrls),
   ("location_lat", nullable money h.locationLat),
   ("location_lng", nullable money h.locationLng),
   ("notes", nullable .text h.notes),
   ("created_at", .timestamptz h.createdAt),
   ("updated_at", .timestamptz h.updatedAt)]

def Payment.toRow (p : Payment) : Row :=
  [("id", .uuid p.id),
   ("booking_id", .uuid p.bookingId),
   ("type", .enum p.type.value),
   ("status", .enum p.status.value),
   ("amount", money p.amount),
   ("currency", .text p.currency),
   ("provider", .text p.provider),
   ("provider_reference", nullable .text p.providerReference),
   ("provider_virtual_account", nullable .text p.providerVirtualAccount),
   ("vendor_recipient_code", nullable .text p.vendorRecipientCode),
   ("vendor_subaccount_code", nullable .text p.vendorSubaccountCode),
   ("platform_fee", nullable money p.platformFee),
   ("settlement_reference", nullable .text p.settlementReference),
   ("deposit_status", nullable (fun s => .enum s.value) p.depositStatus),
   ("payout_status", nullable (fun s => .enum s.value) p.payoutStatus),
   ("authorized_at", nullable .timestamptz p.authorizedAt),
   ("captured_at", nullable .timestamptz p.capturedAt),
   ("failed_at", nullable .timestamptz p.failedAt),
   ("deposit_held_at", nullable .timestamptz p.depositHeldAt),
   ("deposit_released_at", nullable .timestamptz p.depositReleasedAt),
   ("deposit_claimed_at", nullable .timestamptz p.depositClaimedAt),
   ("payout_eligible_at", nullable .timestamptz p.payoutEligibleAt),
   ("paid_at", nullable .timestamptz p.paidAt),
   ("settled_at", nullable .timestamptz p.settledAt),
   ("metadata", nullable .jsonb p.metadata),
   ("created_at", .timestamptz p.createdAt),
   ("updated_at", .timestamptz p.updatedAt)]

/-- The stored rows of a database whose asset rows are given. -/
def Tables.rows {A : Type} (db : Tables A) (assetRow : A → Row) : Data := fun table =>
  if table = "users" then db.users.map User.toRow
  else if table = "assets" then db.assets.map assetRow
  else if table = "kyc_profiles" then db.kycProfiles.map KYCProfile.toRow
  else if table = "availability_windows" then
    db.availabilityWindows.map AvailabilityWindow.toRow
  else if table = "bookings" then db.bookings.map Booking.toRow
  else if table = "handover_records" then db.handoverRecords.map HandoverRecord.toRow
  else if table = "payments" then db.payments.map Payment.toRow
  else []

/-- The stored rows of a database at the current revision. -/
def Tables.data (db : Database) : Data := db.rows Asset.toRow

/-- The stored rows of a database at revision 0001. -/
def Tables.data0001 (db : Database0001) : Data := db.rows Asset0001.toRow

end Vouch
