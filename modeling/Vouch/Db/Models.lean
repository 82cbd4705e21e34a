/-
  Vouch.Db.Models

  The ORM models of `app/db/models`: enumerations, one record per table with
  every column, and the database as the rows of its tables.

  A nullable column is an `Option`.  Columns of type NUMERIC hold exact
  decimals (no NaN), dates are day numbers (0 is 0001-01-01, and finite, but not
  bound to Python's calendar), timestamps are instants of that calendar in UTC.  `Asset0001` is the asset row before migration 0002 added the listing
  publication columns.
-/

import Vouch.Sql.Numeric
import Vouch.Sql.Value

namespace Vouch

open Py (UUID Instant Json)
open Sql (Numeric)

-- ============================================================================
-- Enumerations
-- ============================================================================

inductive RenterRole where
  | renter | vendor | admin
deriving DecidableEq, Repr

inductive KYCStatus where
  | pending | submitted | verified | failed
deriving DecidableEq, Repr

inductive AssetCategory where
  | camera | lens | lighting | audio | drone | gimbal | other
deriving DecidableEq, Repr

inductive City where
  | lagos | abuja
deriving DecidableEq, Repr

/-- Publication state of a listing. -/
inductive ListingStatus where
  | draft | review | active | paused | rejected
deriving DecidableEq, Repr

inductive BookingStatus where
  | pending | confirmed | active | completed | cancelled | disputed
deriving DecidableEq, Repr

inductive HandoverDirection where
  | pickup | return_
deriving DecidableEq, Repr

inductive HandoverStatus where
  | draft | vendorSigned | renterSigned | completed
deriving DecidableEq, Repr

inductive PaymentType where
  | deposit | rentalBalance | payout | refund | protectionWaiver
deriving DecidableEq, Repr

inductive PaymentStatus where
  | pending | authorized | captured | failed | refunded
deriving DecidableEq, Repr

inductive DepositStatus where
  | held | released | claimed
deriving DecidableEq, Repr

inductive PayoutStatus where
  | pending | eligible | paid
deriving DecidableEq, Repr

def RenterRole.value : RenterRole → String
  | .renter => "renter"
  | .vendor => "vendor"
  | .admin => "admin"

def KYCStatus.value : KYCStatus → String
  | .pending => "pending"
  | .submitted => "submitted"
  | .verified => "verified"
  | .failed => "failed"

def AssetCategory.value : AssetCategory → String
  | .camera => "camera"
  | .lens => "lens"
  | .lighting => "lighting"
  | .audio => "audio"
  | .drone => "drone"
  | .gimbal => "gimbal"
  | .other => "other"

def City.value : City → String
  | .lagos => "lagos"
  | .abuja => "abuja"

def ListingStatus.value : ListingStatus → String
  | .draft => "draft"
  | .review => "review"
  | .active => "active"
  | .paused => "paused"
  | .rejected => "rejected"

def BookingStatus.value : BookingStatus → String
  | .pending => "pending"
  | .confirmed => "confirmed"
  | .active => "active"
  | .completed => "completed"
  | .cancelled => "cancelled"
  | .disputed => "disputed"

def HandoverDirection.value : HandoverDirection → String
  | .pickup => "pickup"
  | .return_ => "return"

def HandoverStatus.value : HandoverStatus → String
  | .draft => "draft"
  | .vendorSigned => "vendor_signed"
  | .renterSigned => "renter_signed"
  | .completed => "completed"

def PaymentType.value : PaymentType → String
  | .deposit => "deposit"
  | .rentalBalance => "rental_balance"
  | .payout => "payout"
  | .refund => "refund"
  | .protectionWaiver => "protection_waiver"

def PaymentStatus.value : PaymentStatus → String
  | .pending => "pending"
  | .authorized => "authorized"
  | .captured => "captured"
  | .failed => "failed"
  | .refunded => "refunded"

def DepositStatus.value : DepositStatus → String
  | .held => "held"
  | .released => "released"
  | .claimed => "claimed"

def PayoutStatus.value : PayoutStatus → String
  | .pending => "pending"
  | .eligible => "eligible"
  | .paid => "paid"

-- ============================================================================
-- Records
-- ============================================================================

/-- A row of `users`. -/
structure User where
  id : UUID
  phone : String
  fullName : String
  email : Option String
  role : RenterRole
  isActive : Bool
  createdAt : Instant
  updatedAt : Instant
  deletedAt : Option Instant
deriving DecidableEq

/-- A row of `kyc_profiles`. -/
structure KYCProfile where
  id : UUID
  userId : UUID
  provider : String
  providerReference : Option String
  status : KYCStatus
  tier : Int
  nationalIdType : Option String
  verifiedAt : Option Instant
  createdAt : Instant
  updatedAt : Instant
deriving DecidableEq

/-- A row of `assets` at revision 0001. -/
structure Asset0001 where
  id : UUID
  vendorId : UUID
  name : String
  description : Option String
  category : AssetCategory
  serialNumber : Option String
  dailyRate : Numeric 12 2
  depositAmount : Numeric 12 2
  isAvailable : Bool
  city : City
  conditionNotes : Option String
  createdAt : Instant
  updatedAt : Instant
  deletedAt : Option Instant
deriving DecidableEq

/-- A row of `assets`, with the columns migration 0002 added. -/
structure Asset extends Asset0001 where
  listingStatus : ListingStatus
  minimumTrustTier : Int
  reviewActorId : Option UUID
  reviewedAt : Option Instant
  reviewReason : Option String
deriving DecidableEq

/-- A row of `availability_windows`. -/
structure AvailabilityWindow where
  id : UUID
  assetId : UUID
  startsAt : Int
  endsAt : Int
  isBlocked : Bool
  createdAt : Instant
  updatedAt : Instant
deriving DecidableEq

/-- A row of `bookings`. -/
structure Booking where
  id : UUID
  assetId : UUID
  renterId : UUID
  vendorId : UUID
  startsOn : Int
  endsOn : Int
  status : BookingStatus
  totalRentalFee : Numeric 12 2
  depositAmount : Numeric 12 2
  platformNote : Option String
  cancelledAt : Option Instant
  cancellationReason : Option String
  createdAt : Instant
  updatedAt : Instant
deriving DecidableEq

/-- A row of `handover_records`. -/
structure HandoverRecord where
  id : UUID
  bookingId : UUID
  direction : HandoverDirection
  status : HandoverStatus
  conditionChecklist : Json
  vendorSignerId : Option UUID
  renterSignerId : Option UUID
  vendorSignedAt : Option Instant
  renterSignedAt : Option Instant
  evidenceUrls : Option Json
  locationLat : Option (Numeric 9 6)
  locationLng : Option (Numeric 9 6)
  notes : Option String
  createdAt : Instant
  updatedAt : Instant

/-- A row of `payments`. -/
structure Payment where
  id : UUID
  bookingId : UUID
  type : PaymentType
  status : PaymentStatus
  amount : Numeric 12 2
  currency : String
  provider : String
  providerReference : Option String
  providerVirtualAccount : Option String
  vendorRecipientCode : Option String
  vendorSubaccountCode : Option String
  platformFee : Option (Numeric 12 2)
  settlementReference : Option String
  depositStatus : Option DepositStatus
  payoutStatus : Option PayoutStatus
  authorizedAt : Option Instant
  capturedAt : Option Instant
  failedAt : Option Instant
  depositHeldAt : Option Instant
  depositReleasedAt : Option Instant
  depositClaimedAt : Option Instant
  payoutEligibleAt : Option Instant
  paidAt : Option Instant
  settledAt : Option Instant
  metadata : Option Json
  createdAt : Instant
  updatedAt : Instant

/-- The rows of every table, in some order; `A` is the asset row. -/
structure Tables (A : Type) where
  users : List User
  assets : List A
  kycProfiles : List KYCProfile
  availabilityWindows : List AvailabilityWindow
  bookings : List Booking
  handoverRecords : List HandoverRecord
  payments : List Payment

/-- A database at the current revision. -/
abbrev Database := Tables Asset

/-- A database at revision 0001. -/
abbrev Database0001 := Tables Asset0001

end Vouch
