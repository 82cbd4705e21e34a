/-
  Vouch.Db.Load

  Reading rows as records, and loading records as model instances.

  Each model gets the codec of its row: for every mapped attribute the column,
  the type it is stored at, and whether it may be `None`.  The codecs store
  records as `toRow` does and have the columns the migrations create.  So every
  row the migrated schema admits is read: no label lacks a member (a `LookupError`
  while loading) and no attribute declared as set is NULL.

  A record holds what the database stores, which is more than Python does: a
  `date` ends with the year 9999, `json.loads` may raise, and JSON's `null` is
  `None` like SQL's NULL.  `Tables.load` is what the models make of it.  Stored
  timestamps and numbers are those of `Sql.Value`, which Python holds as they are.
-/

import Vouch.Db.Lifecycle
import Vouch.Sql.Codec

namespace Vouch

open Py (Python Json)
open Sql

-- ============================================================================
-- Enumerations
-- ============================================================================

theorem RenterRole.value_injective : Function.Injective RenterRole.value := by
  intro a b
  cases a <;> cases b <;> simp [RenterRole.value]

theorem AssetCategory.value_injective : Function.Injective AssetCategory.value := by
  intro a b
  cases a <;> cases b <;> simp [AssetCategory.value]

theorem City.value_injective : Function.Injective City.value := by
  intro a b
  cases a <;> cases b <;> simp [City.value]

theorem ListingStatus.value_injective : Function.Injective ListingStatus.value := by
  intro a b
  cases a <;> cases b <;> simp [ListingStatus.value]

theorem BookingStatus.value_injective : Function.Injective BookingStatus.value := by
  intro a b
  cases a <;> cases b <;> simp [BookingStatus.value]

theorem HandoverDirection.value_injective : Function.Injective HandoverDirection.value := by
  intro a b
  cases a <;> cases b <;> simp [HandoverDirection.value]

theorem PaymentStatus.value_injective : Function.Injective PaymentStatus.value := by
  intro a b
  cases a <;> cases b <;> simp [PaymentStatus.value]

def RenterRole.codec : Codec schema0002.types RenterRole :=
  .enum "renterrole" [.renter, .vendor, .admin]
    RenterRole.value (fun a => by cases a <;> simp) RenterRole.value_injective (by decide)

def KYCStatus.codec : Codec schema0002.types KYCStatus :=
  .enum "kycstatus" [.pending, .submitted, .verified, .failed]
    KYCStatus.value (fun a => by cases a <;> simp) KYCStatus.value_injective (by decide)

def AssetCategory.codec : Codec schema0002.types AssetCategory :=
  .enum "assetcategory" [.camera, .lens, .lighting, .audio, .drone, .gimbal, .other]
    AssetCategory.value (fun a => by cases a <;> simp) AssetCategory.value_injective (by decide)

def City.codec : Codec schema0002.types City :=
  .enum "city" [.lagos, .abuja]
    City.value (fun a => by cases a <;> simp) City.value_injective (by decide)

def ListingStatus.codec : Codec schema0002.types ListingStatus :=
  .enum "listingstatus" [.draft, .review, .active, .paused, .rejected]
    ListingStatus.value (fun a => by cases a <;> simp) ListingStatus.value_injective (by decide)

def BookingStatus.codec : Codec schema0002.types BookingStatus :=
  .enum "bookingstatus" [.pending, .confirmed, .active, .completed, .cancelled, .disputed]
    BookingStatus.value (fun a => by cases a <;> simp) BookingStatus.value_injective (by decide)

def HandoverDirection.codec : Codec schema0002.types HandoverDirection :=
  .enum "handoverdirection" [.pickup, .return_]
    HandoverDirection.value (fun a => by cases a <;> simp) HandoverDirection.value_injective
    (by decide)

def HandoverStatus.codec : Codec schema0002.types HandoverStatus :=
  .enum "handoverstatus" [.draft, .vendorSigned, .renterSigned, .completed]
    HandoverStatus.value (fun a => by cases a <;> simp) HandoverStatus.value_injective (by decide)

def PaymentType.codec : Codec schema0002.types PaymentType :=
  .enum "paymenttype" [.deposit, .rentalBalance, .payout, .refund, .protectionWaiver]
    PaymentType.value (fun a => by cases a <;> simp) PaymentType.value_injective (by decide)

def PaymentStatus.codec : Codec schema0002.types PaymentStatus :=
  .enum "paymentstatus" [.pending, .authorized, .captured, .failed, .refunded]
    PaymentStatus.value (fun a => by cases a <;> simp) PaymentStatus.value_injective (by decide)

def DepositStatus.codec : Codec schema0002.types DepositStatus :=
  .enum "depositstatus" [.held, .released, .claimed]
    DepositStatus.value (fun a => by cases a <;> simp) DepositStatus.value_injective (by decide)

def PayoutStatus.codec : Codec schema0002.types PayoutStatus :=
  .enum "payoutstatus" [.pending, .eligible, .paid]
    PayoutStatus.value (fun a => by cases a <;> simp) PayoutStatus.value_injective (by decide)

-- ============================================================================
-- Models
-- ============================================================================

def User.codec : RowCodec schema0002.types User :=
  (RowCodec.pair (.column "id" .uuid) <|
   .pair (.column "phone" .text) <|
   .pair (.column "full_name" .text) <|
   .pair (.nullableColumn "email" .text) <|
   .pair (.column "role" RenterRole.codec) <|
   .pair (.column "is_active" .boolean) <|
   .pair (.column "created_at" .timestamptz) <|
   .pair (.column "updated_at" .timestamptz)
     (.nullableColumn "deleted_at" .timestamptz)).iso
    (fun ⟨id, phone, fullName, email, role, isActive, createdAt, updatedAt, deletedAt⟩ =>
      ⟨id, phone, fullName, email, role, isActive, createdAt, updatedAt, deletedAt⟩)
    (fun u => (u.id, u.phone, u.fullName, u.email, u.role, u.isActive, u.createdAt,
      u.updatedAt, u.deletedAt))
    (fun _ => rfl) (fun _ => rfl)

def Asset.codec : RowCodec schema0002.types Asset :=
  (RowCodec.pair (.column "id" .uuid) <|
   .pair (.column "vendor_id" .uuid) <|
   .pair (.column "name" .text) <|
   .pair (.nullableColumn "description" .text) <|
   .pair (.column "category" AssetCategory.codec) <|
   .pair (.nullableColumn "serial_number" .text) <|
   .pair (.column "daily_rate" (.numeric 12 2)) <|
   .pair (.column "deposit_amount" (.numeric 12 2)) <|
   .pair (.column "is_available" .boolean) <|
   .pair (.column "city" City.codec) <|
   .pair (.nullableColumn "condition_notes" .text) <|
   .pair (.column "created_at" .timestamptz) <|
   .pair (.column "updated_at" .timestamptz) <|
   .pair (.nullableColumn "deleted_at" .timestamptz) <|
   .pair (.column "listing_status" ListingStatus.codec) <|
   .pair (.column "minimum_trust_tier" .integer) <|
   .pair (.nullableColumn "review_actor_id" .uuid) <|
   .pair (.nullableColumn "reviewed_at" .timestamptz)
     (.nullableColumn "review_reason" .text)).iso
    (fun ⟨id, vendorId, name, description, category, serialNumber, dailyRate, depositAmount,
      isAvailable, city, conditionNotes, createdAt, updatedAt, deletedAt, listingStatus,
      minimumTrustTier, reviewActorId, reviewedAt, reviewReason⟩ =>
      ⟨⟨id, vendorId, name, description, category, serialNumber, dailyRate, depositAmount,
        isAvailable, city, conditionNotes, createdAt, updatedAt, deletedAt⟩,
        listingStatus, minimumTrustTier, reviewActorId, reviewedAt, reviewReason⟩)
    (fun a => (a.id, a.vendorId, a.name, a.description, a.category, a.serialNumber,
      a.dailyRate, a.depositAmount, a.isAvailable, a.city, a.conditionNotes, a.createdAt,
      a.updatedAt, a.deletedAt, a.listingStatus, a.minimumTrustTier, a.reviewActorId,
      a.reviewedAt, a.reviewReason))
    (fun _ => rfl) (fun _ => rfl)

def KYCProfile.codec : RowCodec schema0002.types KYCProfile :=
  (RowCodec.pair (.column "id" .uuid) <|
   .pair (.column "user_id" .uuid) <|
   .pair (.column "provider" .text) <|
   .pair (.nullableColumn "provider_reference" .text) <|
   .pair (.column "status" KYCStatus.codec) <|
   .pair (.column "tier" .integer) <|
   .pair (.nullableColumn "national_id_type" .text) <|
   .pair (.nullableColumn "verified_at" .timestamptz) <|
   .pair (.column "created_at" .timestamptz)
     (.column "updated_at" .timestamptz)).iso
    (fun ⟨id, userId, provider, providerReference, status, tier, nationalIdType, verifiedAt,
      createdAt, updatedAt⟩ =>
      ⟨id, userId, provider, providerReference, status, tier, nationalIdType, verifiedAt,
       createdAt, updatedAt⟩)
    (fun k => (k.id, k.userId, k.provider, k.providerReference, k.status, k.tier,
      k.nationalIdType, k.verifiedAt, k.createdAt, k.updatedAt))
    (fun _ => rfl) (fun _ => rfl)

def AvailabilityWindow.codec : RowCodec schema0002.types AvailabilityWindow :=
  (RowCodec.pair (.column "id" .uuid) <|
   .pair (.column "asset_id" .uuid) <|
   .pair (.column "starts_at" .date) <|
   .pair (.column "ends_at" .date) <|
   .pair (.column "is_blocked" .boolean) <|
   .pair (.column "created_at" .timestamptz)
     (.column "updated_at" .timestamptz)).iso
    (fun ⟨id, assetId, startsAt, endsAt, isBlocked, createdAt, updatedAt⟩ =>
      ⟨id, assetId, startsAt, endsAt, isBlocked, createdAt, updatedAt⟩)
    (fun w => (w.id, w.assetId, w.startsAt, w.endsAt, w.isBlocked, w.createdAt, w.updatedAt))
    (fun _ => rfl) (fun _ => rfl)

def Booking.codec : RowCodec schema0002.types Booking :=
  (RowCodec.pair (.column "id" .uuid) <|
   .pair (.column "asset_id" .uuid) <|
   .pair (.column "renter_id" .uuid) <|
   .pair (.column "vendor_id" .uuid) <|
   .pair (.column "starts_on" .date) <|
   .pair (.column "ends_on" .date) <|
   .pair (.column "status" BookingStatus.codec) <|
   .pair (.column "total_rental_fee" (.numeric 12 2)) <|
   .pair (.column "deposit_amount" (.numeric 12 2)) <|
   .pair (.nullableColumn "platform_note" .text) <|
   .pair (.nullableColumn "cancelled_at" .timestamptz) <|
   .pair (.nullableColumn "cancellation_reason" .text) <|
   .pair (.column "created_at" .timestamptz)
     (.column "updated_at" .timestamptz)).iso
    (fun ⟨id, assetId, renterId, vendorId, startsOn, endsOn, status, totalRentalFee,
      depositAmount, platformNote, cancelledAt, cancellationReason, createdAt, updatedAt⟩ =>
      ⟨id, assetId, renterId, vendorId, startsOn, endsOn, status, totalRentalFee, depositAmount,
       platformNote, cancelledAt, cancellationReason, createdAt, updatedAt⟩)
    (fun b => (b.id, b.assetId, b.renterId, b.vendorId, b.startsOn, b.endsOn, b.status,
      b.totalRentalFee, b.depositAmount, b.platformNote, b.cancelledAt, b.cancellationReason,
      b.createdAt, b.updatedAt))
    (fun _ => rfl) (fun _ => rfl)

def HandoverRecord.codec : RowCodec schema0002.types HandoverRecord :=
  (RowCodec.pair (.column "id" .uuid) <|
   .pair (.column "booking_id" .uuid) <|
   .pair (.column "direction" HandoverDirection.codec) <|
   .pair (.column "status" HandoverStatus.codec) <|
   .pair (.column "condition_checklist" .jsonb) <|
   .pair (.nullableColumn "vendor_signer_id" .uuid) <|
   .pair (.nullableColumn "renter_signer_id" .uuid) <|
   .pair (.nullableColumn "vendor_signed_at" .timestamptz) <|
   .pair (.nullableColumn "renter_signed_at" .timestamptz) <|
   .pair (.nullableColumn "evidence_urls" .jsonb) <|
   .pair (.nullableColumn "location_lat" (.numeric 9 6)) <|
   .pair (.nullableColumn "location_lng" (.numeric 9 6)) <|
   .pair (.nullableColumn "notes" .text) <|
   .pair (.column "created_at" .timestamptz)
     (.column "updated_at" .timestamptz)).iso
    (fun ⟨id, bookingId, direction, status, conditionChecklist, vendorSignerId, renterSignerId,
      vendorSignedAt, renterSignedAt, evidenceUrls, locationLat, locationLng, notes, createdAt,
      updatedAt⟩ =>
      ⟨id, bookingId, direction, status, conditionChecklist, vendorSignerId, renterSignerId,
       vendorSignedAt, renterSignedAt, evidenceUrls, locationLat, locationLng, notes, createdAt,
       updatedAt⟩)
    (fun h => (h.id, h.bookingId, h.direction, h.status, h.conditionChecklist,
      h.vendorSignerId, h.renterSignerId, h.vendorSignedAt, h.renterSignedAt, h.evidenceUrls,
      h.locationLat, h.locationLng, h.notes, h.createdAt, h.updatedAt))
    (fun _ => rfl) (fun _ => rfl)

def Payment.codec : RowCodec schema0002.types Payment :=
  (RowCodec.pair (.column "id" .uuid) <|
   .pair (.column "booking_id" .uuid) <|
   .pair (.column "type" PaymentType.codec) <|
   .pair (.column "status" PaymentStatus.codec) <|
   .pair (.column "amount" (.numeric 12 2)) <|
   .pair (.column "currency" .text) <|
   .pair (.column "provider" .text) <|
   .pair (.nullableColumn "provider_reference" .text) <|
   .pair (.nullableColumn "provider_virtual_account" .text) <|
   .pair (.nullableColumn "vendor_recipient_code" .text) <|
   .pair (.nullableColumn "vendor_subaccount_code" .text) <|
   .pair (.nullableColumn "platform_fee" (.numeric 12 2)) <|
   .pair (.nullableColumn "settlement_reference" .text) <|
   .pair (.nullableColumn "deposit_status" DepositStatus.codec) <|
   .pair (.nullableColumn "payout_status" PayoutStatus.codec) <|
   .pair (.nullableColumn "authorized_at" .timestamptz) <|
   .pair (.nullableColumn "captured_at" .timestamptz) <|
   .pair (.nullableColumn "failed_at" .timestamptz) <|
   .pair (.nullableColumn "deposit_held_at" .timestamptz) <|
   .pair (.nullableColumn "deposit_released_at" .timestamptz) <|
   .pair (.nullableColumn "deposit_claimed_at" .timestamptz) <|
   .pair (.nullableColumn "payout_eligible_at" .timestamptz) <|
   .pair (.nullableColumn "paid_at" .timestamptz) <|
   .pair (.nullableColumn "settled_at" .timestamptz) <|
   .pair (.nullableColumn "metadata" .jsonb) <|
   .pair (.column "created_at" .timestamptz)
     (.column "updated_at" .timestamptz)).iso
    (fun ⟨id, bookingId, type_, status, amount, currency, provider, providerReference,
      providerVirtualAccount, vendorRecipientCode, vendorSubaccountCode, platformFee,
      settlementReference, depositStatus, payoutStatus, authorizedAt, capturedAt, failedAt,
      depositHeldAt, depositReleasedAt, depositClaimedAt, payoutEligibleAt, paidAt, settledAt,
      metadata, createdAt, updatedAt⟩ =>
      ⟨id, bookingId, type_, status, amount, currency, provider, providerReference,
       providerVirtualAccount, vendorRecipientCode, vendorSubaccountCode, platformFee,
       settlementReference, depositStatus, payoutStatus, authorizedAt, capturedAt, failedAt,
       depositHeldAt, depositReleasedAt, depositClaimedAt, payoutEligibleAt, paidAt, settledAt,
       metadata, createdAt, updatedAt⟩)
    (fun p => (p.id, p.bookingId, p.type, p.status, p.amount, p.currency, p.provider,
      p.providerReference, p.providerVirtualAccount, p.vendorRecipientCode,
      p.vendorSubaccountCode, p.platformFee, p.settlementReference, p.depositStatus,
      p.payoutStatus, p.authorizedAt, p.capturedAt, p.failedAt, p.depositHeldAt,
      p.depositReleasedAt, p.depositClaimedAt, p.payoutEligibleAt, p.paidAt, p.settledAt,
      p.metadata, p.createdAt, p.updatedAt))
    (fun _ => rfl) (fun _ => rfl)

-- ============================================================================
-- Codecs and the migrated schema
-- ============================================================================

theorem nullable_eq_elim {α : Type} (f : α → Value) (a : Option α) :
    nullable f a = a.elim .null f := by
  cases a with
  | none => rfl
  | some a => rfl

theorem User.codec_store : User.codec.store = User.toRow := by
  funext u
  simp only [User.toRow, nullable_eq_elim]
  rfl

theorem Asset.codec_store : Asset.codec.store = Asset.toRow := by
  funext a
  simp only [Asset.toRow, Asset0001.toRow, nullable_eq_elim]
  rfl

theorem KYCProfile.codec_store : KYCProfile.codec.store = KYCProfile.toRow := by
  funext k
  simp only [KYCProfile.toRow, nullable_eq_elim]
  rfl

theorem AvailabilityWindow.codec_store :
    AvailabilityWindow.codec.store = AvailabilityWindow.toRow := by
  funext w
  rfl

theorem Booking.codec_store : Booking.codec.store = Booking.toRow := by
  funext b
  simp only [Booking.toRow, nullable_eq_elim]
  rfl

theorem HandoverRecord.codec_store : HandoverRecord.codec.store = HandoverRecord.toRow := by
  funext h
  simp only [HandoverRecord.toRow, nullable_eq_elim]
  rfl

theorem Payment.codec_store : Payment.codec.store = Payment.toRow := by
  funext p
  simp only [Payment.toRow, nullable_eq_elim]
  rfl

theorem User.codec_fits : User.codec.Fits Migration0001.users := rfl

theorem Asset.codec_fits : Asset.codec.Fits Migration0002.assets := rfl

theorem KYCProfile.codec_fits : KYCProfile.codec.Fits Migration0001.kycProfiles := rfl

theorem AvailabilityWindow.codec_fits :
    AvailabilityWindow.codec.Fits Migration0001.availabilityWindows := rfl

theorem Booking.codec_fits : Booking.codec.Fits Migration0001.bookings := rfl

theorem HandoverRecord.codec_fits : HandoverRecord.codec.Fits Migration0001.handoverRecords := rfl

theorem Payment.codec_fits : Payment.codec.Fits Migration0001.payments := rfl

-- ============================================================================
-- The database
-- ============================================================================

/-- Read every row of every table. -/
def Tables.read (d : Data) : Option Database := do
  return {
    users := ← (d "users").mapM User.codec.read
    assets := ← (d "assets").mapM Asset.codec.read
    kycProfiles := ← (d "kyc_profiles").mapM KYCProfile.codec.read
    availabilityWindows := ← (d "availability_windows").mapM AvailabilityWindow.codec.read
    bookings := ← (d "bookings").mapM Booking.codec.read
    handoverRecords := ← (d "handover_records").mapM HandoverRecord.codec.read
    payments := ← (d "payments").mapM Payment.codec.read }

section Load

variable {d : Data}

/-- The rows of one table are read. -/
theorem mapM_read {α : Type} {c : RowCodec schema0002.types α} {toRow : α → Row} {t : TableDef}
    (name : String) (hv : schema0002.Valid d) (ht : schema0002.table? name = some t)
    (hc : c.Fits t) (hstore : c.store = toRow) :
    ∃ xs, (d name).mapM c.read = some xs ∧ xs.map toRow = schema0002.arrange d name := by
  obtain ⟨hmem, rfl⟩ := table?_eq_some ht
  obtain ⟨xs, hread, hxs⟩ := RowCodec.mapM_read_of_conforms hc (hv t hmem).1
  refine ⟨xs, hread, ?_⟩
  rw [Schema.arrange_of_table ht, ← hstore]
  exact hxs

theorem table?_schema0002 : ∀ t ∈ schema0002.tables, schema0002.table? t.name = some t := by
  simp only [schema0002, List.forall_mem_cons]
  exact ⟨rfl, rfl, rfl, rfl, rfl, rfl, rfl, fun _ h => absurd h List.not_mem_nil⟩

/-- The stored rows of the records that the tables of `d` hold. -/
theorem data_eq_arrange {db : Database}
    (husers : db.users.map User.toRow = schema0002.arrange d "users")
    (hassets : db.assets.map Asset.toRow = schema0002.arrange d "assets")
    (hkycs : db.kycProfiles.map KYCProfile.toRow = schema0002.arrange d "kyc_profiles")
    (hwindows : db.availabilityWindows.map AvailabilityWindow.toRow =
      schema0002.arrange d "availability_windows")
    (hbookings : db.bookings.map Booking.toRow = schema0002.arrange d "bookings")
    (hhandovers : db.handoverRecords.map HandoverRecord.toRow =
      schema0002.arrange d "handover_records")
    (hpayments : db.payments.map Payment.toRow = schema0002.arrange d "payments")
    (hwithin : ∀ name, schema0002.table? name = none → d name = []) :
    db.data = schema0002.arrange d := by
  funext name
  rw [Tables.data, Tables.rows]
  split_ifs with h₁ h₂ h₃ h₄ h₅ h₆ h₇
  case neg =>
    have hnone : schema0002.table? name = none := by
      rw [Schema.table?, List.find?_eq_none]
      simp only [schema0002, List.forall_mem_cons, beq_iff_eq]
      exact ⟨Ne.symm h₁, Ne.symm h₂, Ne.symm h₃, Ne.symm h₄, Ne.symm h₅, Ne.symm h₆, Ne.symm h₇,
        fun _ h => absurd h List.not_mem_nil⟩
    rw [Schema.arrange_of_none hnone, hwithin name hnone]
  all_goals
    subst name
    assumption

/-- Whatever the migrated schema admits is read, with every value as it is stored. -/
theorem read_of_valid (hv : schema0002.Valid d)
    (hwithin : ∀ name, schema0002.table? name = none → d name = []) :
    ∃ db, Tables.read d = some db ∧ db.data = schema0002.arrange d ∧ db.Valid := by
  obtain ⟨users, husers, husers'⟩ := mapM_read "users" hv rfl User.codec_fits User.codec_store
  obtain ⟨assets, hassets, hassets'⟩ := mapM_read "assets" hv rfl Asset.codec_fits Asset.codec_store
  obtain ⟨kycs, hkycs, hkycs'⟩ :=
    mapM_read "kyc_profiles" hv rfl KYCProfile.codec_fits KYCProfile.codec_store
  obtain ⟨windows, hwindows, hwindows'⟩ := mapM_read "availability_windows" hv rfl
    AvailabilityWindow.codec_fits AvailabilityWindow.codec_store
  obtain ⟨bookings, hbookings, hbookings'⟩ :=
    mapM_read "bookings" hv rfl Booking.codec_fits Booking.codec_store
  obtain ⟨handovers, hhandovers, hhandovers'⟩ := mapM_read "handover_records" hv rfl
    HandoverRecord.codec_fits HandoverRecord.codec_store
  obtain ⟨payments, hpayments, hpayments'⟩ :=
    mapM_read "payments" hv rfl Payment.codec_fits Payment.codec_store
  have hdata : Tables.data ⟨users, assets, kycs, windows, bookings, handovers, payments⟩ =
      schema0002.arrange d :=
    data_eq_arrange husers' hassets' hkycs' hwindows' hbookings' hhandovers' hpayments' hwithin
  refine ⟨_, ?_, hdata, ?_⟩
  · rw [Tables.read, husers, hassets, hkycs, hwindows, hbookings, hhandovers, hpayments]
    rfl
  · rw [Tables.Valid, hdata]
    exact hv.arrange table?_schema0002

/-- A database has no rows beside those of its tables. -/
theorem data_of_none (db : Database) {name : String} (h : schema0002.table? name = none) :
    db.data name = [] := by
  rw [Tables.data, Tables.rows]
  split_ifs
  case neg => rfl
  all_goals
    subst name
    cases h

/-- What was stored is what is read. -/
theorem read_data (db : Database) : Tables.read db.data = some db := by
  have hread : ∀ {α : Type} {c : RowCodec schema0002.types α} {toRow : α → Row},
      c.store = toRow → (c.columns.map Column.name).Nodup → ∀ xs : List α,
      (xs.map toRow).mapM c.read = some xs := by
    intro α c toRow hstore hnodup xs
    rw [← hstore]
    exact RowCodec.mapM_read_store hnodup xs
  have hkycs : db.data "kyc_profiles" = db.kycProfiles.map KYCProfile.toRow := rfl
  rw [Tables.read, data_users, data_assets, data_availabilityWindows, data_bookings,
    data_handoverRecords, data_payments, hkycs, hread User.codec_store (by decide),
    hread Asset.codec_store (by decide), hread KYCProfile.codec_store (by decide),
    hread AvailabilityWindow.codec_store (by decide), hread Booking.codec_store (by decide),
    hread HandoverRecord.codec_store (by decide), hread Payment.codec_store (by decide)]
  rfl

end Load

-- ============================================================================
-- Model instances
-- ============================================================================

/-- The day is in Python's calendar. -/
def InCalendar (day : Int) : Prop := 0 ≤ day ∧ day < Py.calendarDays

instance (day : Int) : Decidable (InCalendar day) := inferInstanceAs (Decidable (_ ∧ _))

/-- A `date` column as a `datetime.date`; `none` is a `ValueError`. -/
def loadDate (day : Int) : Option Int := if InCalendar day then some day else none

/-- A nullable JSONB column: `None` for NULL and for JSON's `null`. -/
def loadNullable (py : Python) : Option Json → Option (Option Json)
  | none => some none
  | some j => (py.loadsJsonb j).map fun v =>
      match v with
      | .null => none
      | v => some v

def AvailabilityWindow.load (w : AvailabilityWindow) : Option AvailabilityWindow := do
  return { w with startsAt := ← loadDate w.startsAt, endsAt := ← loadDate w.endsAt }

def Booking.load (b : Booking) : Option Booking := do
  return { b with startsOn := ← loadDate b.startsOn, endsOn := ← loadDate b.endsOn }

def HandoverRecord.load (py : Python) (h : HandoverRecord) : Option HandoverRecord := do
  return { h with
    conditionChecklist := ← py.loadsJsonb h.conditionChecklist
    evidenceUrls := ← loadNullable py h.evidenceUrls }

def Payment.load (py : Python) (p : Payment) : Option Payment := do
  return { p with metadata := ← loadNullable py p.metadata }

/-- Load every record; users, assets and profiles hold neither dates nor
    documents. -/
def Tables.instances (py : Python) (db : Database) : Option Database := do
  return { db with
    availabilityWindows := ← db.availabilityWindows.mapM AvailabilityWindow.load
    bookings := ← db.bookings.mapM Booking.load
    handoverRecords := ← db.handoverRecords.mapM (HandoverRecord.load py)
    payments := ← db.payments.mapM (Payment.load py) }

/-- Load every row of every table; the first that does not load fails. -/
def Tables.load (py : Python) (d : Data) : Option Database :=
  (Tables.read d).bind (Tables.instances py)

/-- What the models can load: dates of Python's calendar and documents that
    `json.loads` reads. -/
structure Tables.Loadable (py : Python) (db : Database) : Prop where
  windows : ∀ w ∈ db.availabilityWindows, InCalendar w.startsAt ∧ InCalendar w.endsAt
  bookings : ∀ b ∈ db.bookings, InCalendar b.startsOn ∧ InCalendar b.endsOn
  checklists : ∀ h ∈ db.handoverRecords, (py.loadsJsonb h.conditionChecklist).isSome
  evidence : ∀ h ∈ db.handoverRecords, ∀ j ∈ h.evidenceUrls, (py.loadsJsonb j).isSome
  metadata : ∀ p ∈ db.payments, ∀ j ∈ p.metadata, (py.loadsJsonb j).isSome

/-- What they load as it is stored: `json.loads` reads every document back, and no
    nullable column holds JSON's `null`. -/
structure Tables.Exact (py : Python) (db : Database) : Prop where
  windows : ∀ w ∈ db.availabilityWindows, InCalendar w.startsAt ∧ InCalendar w.endsAt
  bookings : ∀ b ∈ db.bookings, InCalendar b.startsOn ∧ InCalendar b.endsOn
  checklists : ∀ h ∈ db.handoverRecords,
    py.loadsJsonb h.conditionChecklist = some h.conditionChecklist
  evidence : ∀ h ∈ db.handoverRecords, ∀ j ∈ h.evidenceUrls,
    py.loadsJsonb j = some j ∧ j ≠ .null
  metadata : ∀ p ∈ db.payments, ∀ j ∈ p.metadata, py.loadsJsonb j = some j ∧ j ≠ .null

section Instances

theorem mapM_isSome_iff {α β : Type} {f : α → Option β} {xs : List α} :
    (xs.mapM f).isSome ↔ ∀ x ∈ xs, (f x).isSome := by
  induction xs with
  | nil => simp
  | cons x xs ih =>
    rw [List.mapM_cons, List.forall_mem_cons, ← ih]
    cases f x <;> cases xs.mapM f <;> simp

theorem mapM_eq_self_iff {α : Type} {f : α → Option α} {xs : List α} :
    xs.mapM f = some xs ↔ ∀ x ∈ xs, f x = some x := by
  induction xs with
  | nil => simp
  | cons x xs ih =>
    rw [List.mapM_cons, List.forall_mem_cons, ← ih]
    cases f x <;> cases xs.mapM f <;> simp

theorem loadDate_isSome {day : Int} : (loadDate day).isSome ↔ InCalendar day := by
  rw [loadDate]
  split_ifs with h <;> simp [h]

theorem loadDate_eq_self {day : Int} : loadDate day = some day ↔ InCalendar day := by
  rw [loadDate]
  split_ifs with h <;> simp [h]

variable {py : Python}

theorem loadNullable_isSome {a : Option Json} :
    (loadNullable py a).isSome ↔ ∀ j ∈ a, (py.loadsJsonb j).isSome := by
  cases a with
  | none => simp [loadNullable]
  | some j => simp [loadNullable]

theorem loadNullable_eq_self {a : Option Json} :
    loadNullable py a = some a ↔ ∀ j ∈ a, py.loadsJsonb j = some j ∧ j ≠ .null := by
  cases a with
  | none => simp [loadNullable]
  | some j =>
    rw [loadNullable]
    cases hj : py.loadsJsonb j with
    | none => simp [hj]
    | some v =>
      cases v with
      | null =>
        refine iff_of_false (by simp) ?_
        intro h
        exact (h j rfl).2 (Option.some.inj (hj.symm.trans (h j rfl).1)).symm
      | _ =>
        simp only [hj, Option.map_some, Option.some.injEq, Option.mem_def, forall_eq']
        refine ⟨?_, And.left⟩
        rintro rfl
        exact ⟨rfl, by simp⟩

theorem AvailabilityWindow.load_isSome {w : AvailabilityWindow} :
    w.load.isSome ↔ InCalendar w.startsAt ∧ InCalendar w.endsAt := by
  rw [AvailabilityWindow.load, ← loadDate_isSome, ← loadDate_isSome]
  cases loadDate w.startsAt <;> cases loadDate w.endsAt <;> simp

theorem Booking.load_isSome {b : Booking} :
    b.load.isSome ↔ InCalendar b.startsOn ∧ InCalendar b.endsOn := by
  rw [Booking.load, ← loadDate_isSome, ← loadDate_isSome]
  cases loadDate b.startsOn <;> cases loadDate b.endsOn <;> simp

/-- A window loads as it is, or not at all. -/
theorem AvailabilityWindow.load_eq_self {w : AvailabilityWindow} :
    w.load = some w ↔ InCalendar w.startsAt ∧ InCalendar w.endsAt := by
  refine ⟨fun h => load_isSome.mp (h ▸ rfl), fun h => ?_⟩
  rw [AvailabilityWindow.load, loadDate_eq_self.mpr h.1, loadDate_eq_self.mpr h.2]
  rfl

theorem Booking.load_eq_self {b : Booking} :
    b.load = some b ↔ InCalendar b.startsOn ∧ InCalendar b.endsOn := by
  refine ⟨fun h => load_isSome.mp (h ▸ rfl), fun h => ?_⟩
  rw [Booking.load, loadDate_eq_self.mpr h.1, loadDate_eq_self.mpr h.2]
  rfl

theorem HandoverRecord.load_isSome {h : HandoverRecord} : (h.load py).isSome ↔
    (py.loadsJsonb h.conditionChecklist).isSome ∧
      ∀ j ∈ h.evidenceUrls, (py.loadsJsonb j).isSome := by
  rw [HandoverRecord.load, ← loadNullable_isSome]
  cases py.loadsJsonb h.conditionChecklist <;> cases loadNullable py h.evidenceUrls <;> simp

theorem HandoverRecord.load_eq_self {h : HandoverRecord} : h.load py = some h ↔
    py.loadsJsonb h.conditionChecklist = some h.conditionChecklist ∧
      ∀ j ∈ h.evidenceUrls, py.loadsJsonb j = some j ∧ j ≠ .null := by
  rw [HandoverRecord.load, ← loadNullable_eq_self]
  cases py.loadsJsonb h.conditionChecklist with
  | none => simp
  | some v =>
    cases loadNullable py h.evidenceUrls with
    | none => simp
    | some a =>
      refine ⟨?_, ?_⟩
      · intro heq
        have heq := Option.some.inj heq
        exact ⟨congrArg (some ∘ HandoverRecord.conditionChecklist) heq,
          congrArg (some ∘ HandoverRecord.evidenceUrls) heq⟩
      · rintro ⟨hv, ha⟩
        obtain rfl := Option.some.inj hv
        obtain rfl := Option.some.inj ha
        rfl

theorem Payment.load_isSome {p : Payment} :
    (p.load py).isSome ↔ ∀ j ∈ p.metadata, (py.loadsJsonb j).isSome := by
  rw [Payment.load, ← loadNullable_isSome]
  cases loadNullable py p.metadata <;> simp

theorem Payment.load_eq_self {p : Payment} :
    p.load py = some p ↔ ∀ j ∈ p.metadata, py.loadsJsonb j = some j ∧ j ≠ .null := by
  rw [Payment.load, ← loadNullable_eq_self]
  cases loadNullable py p.metadata with
  | none => simp
  | some a =>
    refine ⟨?_, ?_⟩
    · intro heq
      exact congrArg (some ∘ Payment.metadata) (Option.some.inj heq)
    · intro ha
      obtain rfl := Option.some.inj ha
      rfl

variable {db : Database}

/-- The records load exactly if the models can hold every value. -/
theorem instances_isSome : (Tables.instances py db).isSome ↔ db.Loadable py := by
  have hparts : (Tables.instances py db).isSome ↔
      (db.availabilityWindows.mapM AvailabilityWindow.load).isSome ∧
        (db.bookings.mapM Booking.load).isSome ∧
        (db.handoverRecords.mapM (HandoverRecord.load py)).isSome ∧
        (db.payments.mapM (Payment.load py)).isSome := by
    rw [Tables.instances]
    cases db.availabilityWindows.mapM AvailabilityWindow.load <;>
      cases db.bookings.mapM Booking.load <;>
      cases db.handoverRecords.mapM (HandoverRecord.load py) <;>
      cases db.payments.mapM (Payment.load py) <;> simp
  simp only [hparts, mapM_isSome_iff, AvailabilityWindow.load_isSome, Booking.load_isSome,
    HandoverRecord.load_isSome, Payment.load_isSome]
  refine ⟨?_, ?_⟩
  · rintro ⟨hwindows, hbookings, hhandovers, hpayments⟩
    exact ⟨hwindows, hbookings, fun h hh => (hhandovers h hh).1, fun h hh => (hhandovers h hh).2,
      hpayments⟩
  · intro h
    exact ⟨h.windows, h.bookings, fun r hr => ⟨h.checklists r hr, h.evidence r hr⟩, h.metadata⟩

/-- They load as they are exactly if every value is read back. -/
theorem instances_eq_self : Tables.instances py db = some db ↔ db.Exact py := by
  have hparts : Tables.instances py db = some db ↔
      db.availabilityWindows.mapM AvailabilityWindow.load = some db.availabilityWindows ∧
        db.bookings.mapM Booking.load = some db.bookings ∧
        db.handoverRecords.mapM (HandoverRecord.load py) = some db.handoverRecords ∧
        db.payments.mapM (Payment.load py) = some db.payments := by
    rw [Tables.instances]
    obtain ⟨users, assets, kycs, windows, bookings, handovers, payments⟩ := db
    cases windows.mapM AvailabilityWindow.load <;> cases bookings.mapM Booking.load <;>
      cases handovers.mapM (HandoverRecord.load py) <;>
      cases payments.mapM (Payment.load py) <;> simp
  simp only [hparts, mapM_eq_self_iff, AvailabilityWindow.load_eq_self, Booking.load_eq_self,
    HandoverRecord.load_eq_self, Payment.load_eq_self]
  refine ⟨?_, ?_⟩
  · rintro ⟨hwindows, hbookings, hhandovers, hpayments⟩
    exact ⟨hwindows, hbookings, fun h hh => (hhandovers h hh).1, fun h hh => (hhandovers h hh).2,
      hpayments⟩
  · intro h
    exact ⟨h.windows, h.bookings, fun r hr => ⟨h.checklists r hr, h.evidence r hr⟩, h.metadata⟩

/-- The rows load as far as their records do. -/
theorem load_of_read {d : Data} (hread : Tables.read d = some db) :
    ((Tables.load py d).isSome ↔ db.Loadable py) ∧
      (Tables.load py d = some db ↔ db.Exact py) := by
  rw [Tables.load, hread, Option.bind_some]
  exact ⟨instances_isSome, instances_eq_self⟩

end Instances

/-- The models describe the migrated tables: every consistent database holds
    records, value by value as they are stored, and every database its own; and
    they load exactly as far as Python has the values. -/
theorem stored_rows_load (py : Python) :
    (∀ d, schema0002.Valid d → (∀ name, schema0002.table? name = none → d name = []) →
      ∃ db, Tables.read d = some db ∧ d.SameValues db.data ∧ db.Valid ∧
        ((Tables.load py d).isSome ↔ db.Loadable py) ∧
        (Tables.load py d = some db ↔ db.Exact py)) ∧
    ∀ db : Database, ((Tables.load py db.data).isSome ↔ db.Loadable py) ∧
      (Tables.load py db.data = some db ↔ db.Exact py) := by
  refine ⟨?_, ?_⟩
  · intro d hv hwithin
    obtain ⟨db, hread, hdata, hvalid⟩ := read_of_valid hv hwithin
    exact ⟨db, hread, hdata ▸ hv.sameValues, hvalid, load_of_read hread⟩
  · intro db
    exact load_of_read (read_data db)

end Vouch
