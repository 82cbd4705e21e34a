/-
  Vouch.Db.Payout

  The payout gate of `app/db/models/payment.py`, and what the constraints on
  bookings, handover records and payments say about the return it accepts.

  A completed record is evidenced by its CHECK.  The composite foreign keys are
  skipped for a NULL signer, which the CHECK rules out.
-/

import Vouch.Db.Lifecycle

namespace Vouch

open Py (UUID Json)
open Sql (Row Value Cond Constraint Scalar Data)

-- ============================================================================
-- The gate
-- ============================================================================

/-- `bool(v)`.  A float literal whose value rounds to zero, at most half the
    least positive double, is false. -/
def truthy : Json → Bool
  | .null => false
  | .bool b => b
  | .int n => n ≠ 0
  | .float _ m e => 10 ^ (-e).toNat < m * 10 ^ e.toNat * 2 ^ 1075
  | .nan => true
  | .infinity _ => true
  | .str s => !s.isEmpty
  | .arr xs => !xs.isEmpty
  | .obj kvs => !kvs.isEmpty

/-- `bool(handover.evidence_urls)`; SQL NULL is loaded as `None`. -/
def HandoverRecord.hasEvidence (h : HandoverRecord) : Bool := h.evidenceUrls.any truthy

/-- `Payment.is_payout_eligible` -/
def Payment.isPayoutEligible (p : Payment) (handovers : List HandoverRecord)
    (bookingStatus : BookingStatus) (payoutOnHold : Bool) : Bool :=
  if p.type ≠ .payout ∨ bookingStatus ≠ .completed ∨ payoutOnHold then false
  else handovers.any fun handover =>
    handover.bookingId = p.bookingId &&
    handover.direction = .return_ &&
    handover.status = .completed &&
    handover.vendorSignerId.isSome &&
    handover.renterSignerId.isSome &&
    handover.vendorSignedAt.isSome &&
    handover.renterSignedAt.isSome &&
    handover.hasEvidence

/-- The gate accepts the record. -/
structure HandoverRecord.Accepted (h : HandoverRecord) (bookingId : UUID) : Prop where
  bookingId : h.bookingId = bookingId
  direction : h.direction = .return_
  status : h.status = .completed
  vendorSigner : h.vendorSignerId.isSome
  renterSigner : h.renterSignerId.isSome
  vendorSigned : h.vendorSignedAt.isSome
  renterSigned : h.renterSignedAt.isSome
  evidence : h.hasEvidence

theorem isPayoutEligible_iff {p : Payment} {handovers : List HandoverRecord}
    {bookingStatus : BookingStatus} {payoutOnHold : Bool} :
    p.isPayoutEligible handovers bookingStatus payoutOnHold = true ↔
      p.type = .payout ∧ bookingStatus = .completed ∧ payoutOnHold = false ∧
        ∃ h ∈ handovers, h.Accepted p.bookingId := by
  rw [Payment.isPayoutEligible]
  by_cases hrejected : p.type ≠ .payout ∨ bookingStatus ≠ .completed ∨ payoutOnHold
  · rw [if_pos hrejected]
    refine ⟨?_, ?_⟩
    · intro h
      cases h
    · rintro ⟨htype, hstatus, hhold, -⟩
      rw [htype, hstatus, hhold] at hrejected
      simp at hrejected
  · rw [if_neg hrejected, List.any_eq_true]
    push Not at hrejected
    obtain ⟨htype, hstatus, hhold⟩ := hrejected
    rw [and_iff_right htype, and_iff_right hstatus, and_iff_right (by simpa using hhold)]
    apply exists_congr
    intro h
    apply and_congr_right
    intro _
    simp only [Bool.and_eq_true, decide_eq_true_eq]
    refine ⟨?_, ?_⟩
    · rintro ⟨⟨⟨⟨⟨⟨⟨h₁, h₂⟩, h₃⟩, h₄⟩, h₅⟩, h₆⟩, h₇⟩, h₈⟩
      exact ⟨h₁, h₂, h₃, h₄, h₅, h₆, h₇, h₈⟩
    · intro h
      exact ⟨⟨⟨⟨⟨⟨⟨h.bookingId, h.direction⟩, h.status⟩, h.vendorSigner⟩, h.renterSigner⟩,
        h.vendorSigned⟩, h.renterSigned⟩, h.evidence⟩

-- ============================================================================
-- What the constraints say
-- ============================================================================

theorem HandoverRecord.Evidenced.hasEvidence {h : HandoverRecord} (he : h.Evidenced) :
    h.hasEvidence := by
  obtain ⟨x, xs, hx⟩ := he.evidence
  rw [HandoverRecord.hasEvidence, hx]
  rfl

/-- A composite foreign key to `bookings` resolves for a row that sets it. -/
theorem exists_booking_of_foreignKey (sign : HandoverRecord → Option UUID)
    (party : Booking → UUID) {db : Database} {signer column : String} {name : Option String}
    (hsign : ∀ h : HandoverRecord, h.toRow.get signer = nullable .uuid (sign h))
    (hparty : ∀ b : Booking, b.toRow.get column = .uuid (party b))
    (hkey : (Constraint.foreignKey ["booking_id", signer] "bookings" ["id", column] name).Holds
      db.data "handover_records")
    {h : HandoverRecord} (hmem : h ∈ db.handoverRecords) (hset : (sign h).isSome) :
    ∃ b ∈ db.bookings, b.id = h.bookingId ∧ sign h = some (party b) := by
  obtain ⟨u, hu⟩ := Option.isSome_iff_exists.mp hset
  have hrow := hkey h.toRow (by rw [data_handoverRecords]; exact List.mem_map_of_mem hmem)
  rcases hrow with ⟨c, hc, hnull⟩ | ⟨s, hs, hagree⟩
  · -- neither column is NULL
    rcases List.mem_pair.mp hc with rfl | rfl
    · exact absurd hnull Bool.false_ne_true
    · rw [hsign, hu] at hnull
      exact absurd hnull Bool.false_ne_true
  · rw [data_bookings] at hs
    obtain ⟨b, hb, rfl⟩ := List.mem_map.mp hs
    rw [agree_pair, Bool.and_eq_true, hsign, hparty, hu] at hagree
    obtain ⟨hid, hsame⟩ := hagree
    exact ⟨b, hb, (sameKey_uuid.mp hid).symm, hu.trans (congrArg some (sameKey_uuid.mp hsame))⟩

namespace Tables.Valid

variable {db : Database} (hvalid : db.Valid)

include hvalid

theorem handoverConstraint {k : Constraint} (hk : k ∈ Migration0001.handoverRecords.constraints) :
    k.Holds db.data "handover_records" :=
  hvalid.holds (t := Migration0001.handoverRecords) (by simp [schema0002]) hk

theorem vendorSigner {h : HandoverRecord} (hmem : h ∈ db.handoverRecords)
    (hset : h.vendorSignerId.isSome) :
    ∃ b ∈ db.bookings, b.id = h.bookingId ∧ h.vendorSignerId = some b.vendorId := by
  have hkey := hvalid.handoverConstraint
    (k := .foreignKey ["booking_id", "vendor_signer_id"] "bookings" ["id", "vendor_id"]
      (some "fk_handover_records_booking_vendor")) (by simp [Migration0001.handoverRecords])
  exact exists_booking_of_foreignKey HandoverRecord.vendorSignerId Booking.vendorId
    (fun _ => rfl) (fun _ => rfl) hkey hmem hset

theorem renterSigner {h : HandoverRecord} (hmem : h ∈ db.handoverRecords)
    (hset : h.renterSignerId.isSome) :
    ∃ b ∈ db.bookings, b.id = h.bookingId ∧ h.renterSignerId = some b.renterId := by
  have hkey := hvalid.handoverConstraint
    (k := .foreignKey ["booking_id", "renter_signer_id"] "bookings" ["id", "renter_id"]
      (some "fk_handover_records_booking_renter")) (by simp [Migration0001.handoverRecords])
  exact exists_booking_of_foreignKey HandoverRecord.renterSignerId Booking.renterId
    (fun _ => rfl) (fun _ => rfl) hkey hmem hset

/-- A booking has at most one record per direction. -/
theorem handoverKeys :
    db.handoverRecords.Pairwise fun h h' => (h.bookingId, h.direction) ≠ (h'.bookingId, h'.direction) := by
  have hunique := hvalid.handoverConstraint
    (k := .unique ["booking_id", "direction"] (some "uq_handover_records_booking_direction"))
    (by simp [Migration0001.handoverRecords])
  have hpair : (db.data "handover_records").Pairwise _ := hunique
  rw [data_handoverRecords, List.pairwise_map] at hpair
  apply hpair.imp
  intro h h' hne hsame
  obtain ⟨hid, hdir⟩ := Prod.mk.inj hsame
  apply hne
  rw [agree_pair, Bool.and_eq_true]
  refine ⟨sameKey_uuid.mpr hid, ?_⟩
  show (Value.enum h.direction.value).sameKey (.enum h'.direction.value) = true
  rw [hdir]
  simp [Value.sameKey, Value.equal?]

/-- A completed record is evidenced. -/
theorem evidenced {h : HandoverRecord} (hmem : h ∈ db.handoverRecords)
    (hstatus : h.status = .completed) : h.Evidenced := by
  have htable := hvalid Migration0001.handoverRecords (by simp [schema0002])
  have hrow : h.toRow ∈ db.data "handover_records" := by
    rw [data_handoverRecords]
    exact List.mem_map_of_mem hmem
  exact h.accepts_iff.mp (htable.accepts h.toRow hrow) hstatus

end Tables.Valid

-- ============================================================================
-- The gate over stored rows
-- ============================================================================

/-- The return record of the booking, completed. -/
def CompletedReturn (db : Database) (bookingId : UUID) (h : HandoverRecord) : Prop :=
  h ∈ db.handoverRecords ∧ h.bookingId = bookingId ∧ h.direction = .return_ ∧ h.status = .completed

/-- The gate accepts exactly the completed return among the booking's rows. -/
theorem exists_accepted_iff {db : Database} (hvalid : db.Valid) {bookingId : UUID}
    {handovers : List HandoverRecord} (hstored : ∀ h ∈ handovers, h ∈ db.handoverRecords)
    (hall : ∀ h ∈ db.handoverRecords, h.bookingId = bookingId → h ∈ handovers) :
    (∃ h ∈ handovers, h.Accepted bookingId) ↔ ∃ h, CompletedReturn db bookingId h := by
  refine ⟨?_, ?_⟩
  · rintro ⟨h, hmem, hacc⟩
    exact ⟨h, hstored h hmem, hacc.bookingId, hacc.direction, hacc.status⟩
  · rintro ⟨h, hmem, hid, hdir, hstatus⟩
    have hev := hvalid.evidenced hmem hstatus
    exact ⟨h, hall h hmem hid, hid, hdir, hstatus, hev.vendorSigner, hev.renterSigner,
      hev.vendorSigned, hev.renterSigned, hev.hasEvidence⟩

/-- The completed return of a booking is its only return, signed by its two
    parties. -/
theorem completedReturn_parties {db : Database} (hvalid : db.Valid) {bookingId : UUID}
    {h : HandoverRecord} (hret : CompletedReturn db bookingId h) :
    (db.handoverRecords.filter fun h' => h'.bookingId = bookingId ∧ h'.direction = .return_) = [h] ∧
      ∃ b, (db.bookings.filter fun b => b.id = bookingId) = [b] ∧
        h.vendorSignerId = some b.vendorId ∧ h.renterSignerId = some b.renterId := by
  obtain ⟨hmem, rfl, hdir, hstatus⟩ := hret
  have hev := hvalid.evidenced hmem hstatus
  obtain ⟨b, hb, hid, hvendor⟩ := hvalid.vendorSigner hmem hev.vendorSigner
  obtain ⟨b', hb', hid', hrenter⟩ := hvalid.renterSigner hmem hev.renterSigner
  obtain rfl : b = b' := eq_of_key_eq hvalid.bookingIds hb hb' (hid.trans hid'.symm)
  refine ⟨?_, b, ?_, hvendor, hrenter⟩
  · have hkey := filter_eq_singleton (k := fun h : HandoverRecord => (h.bookingId, h.direction))
      hvalid.handoverKeys hmem
    rw [← hkey]
    apply List.filter_congr
    intro h' _
    rw [Bool.eq_iff_iff, decide_eq_true_iff, decide_eq_true_iff, Prod.mk.injEq, hdir]
  · rw [← hid]
    exact filter_eq_singleton hvalid.bookingIds hb

/-- The payout gate agrees with the evidence and signature rules.  For a stored
    payout, and any stored handover rows with all those of its booking, it opens
    iff the booking is completed, nothing is on hold and the booking's return is
    completed; that return is then the only one, signed by both parties of the
    booking, with non-empty evidence.  Other payments never pass. -/
theorem payout_gate {db : Database} (hvalid : db.Valid) {p : Payment}
    {handovers : List HandoverRecord} (hstored : ∀ h ∈ handovers, h ∈ db.handoverRecords)
    (hall : ∀ h ∈ db.handoverRecords, h.bookingId = p.bookingId → h ∈ handovers)
    (bookingStatus : BookingStatus) (payoutOnHold : Bool) :
    (p.type = .payout →
      (p.isPayoutEligible handovers bookingStatus payoutOnHold = true ↔
        bookingStatus = .completed ∧ payoutOnHold = false ∧
          ∃ h, CompletedReturn db p.bookingId h)) ∧
    (p.isPayoutEligible handovers bookingStatus payoutOnHold = true →
      ∃ h b, CompletedReturn db p.bookingId h ∧
        (db.handoverRecords.filter fun h' => h'.bookingId = p.bookingId ∧ h'.direction = .return_) =
          [h] ∧
        (db.bookings.filter fun b => b.id = p.bookingId) = [b] ∧
        h.vendorSignerId = some b.vendorId ∧ h.renterSignerId = some b.renterId ∧
        h.vendorSignedAt.isSome ∧ h.renterSignedAt.isSome ∧
        ∃ x xs, h.evidenceUrls = some (.arr (x :: xs))) ∧
    (p.type ≠ .payout → p.isPayoutEligible handovers bookingStatus payoutOnHold = false) := by
  refine ⟨?_, ?_, ?_⟩
  · intro htype
    rw [isPayoutEligible_iff, and_iff_right htype, exists_accepted_iff hvalid hstored hall]
  · intro hopen
    obtain ⟨-, -, -, haccepted⟩ := isPayoutEligible_iff.mp hopen
    obtain ⟨h, hret⟩ := (exists_accepted_iff hvalid hstored hall).mp haccepted
    obtain ⟨honly, b, hbooking, hvendor, hrenter⟩ := completedReturn_parties hvalid hret
    have hev := hvalid.evidenced hret.1 hret.2.2.2
    exact ⟨h, b, hret, honly, hbooking, hvendor, hrenter, hev.vendorSigned, hev.renterSigned,
      hev.evidence⟩
  · intro htype
    rw [Payment.isPayoutEligible, if_pos (.inl htype)]

/-- A pending payout for the sample's completed booking. -/
def samplePayout : Payment where
  id := 50
  bookingId := 30
  type := .payout
  status := .pending
  amount := ⟨4500000, by decide⟩
  currency := "NGN"
  provider := "paystack"
  providerReference := none
  providerVirtualAccount := none
  vendorRecipientCode := some "RCP"
  vendorSubaccountCode := none
  platformFee := some ⟨500000, by decide⟩
  settlementReference := none
  depositStatus := none
  payoutStatus := some .pending
  authorizedAt := none
  capturedAt := none
  failedAt := none
  depositHeldAt := none
  depositReleasedAt := none
  depositClaimedAt := none
  payoutEligibleAt := none
  paidAt := none
  settledAt := none
  metadata := none
  createdAt := 0
  updatedAt := 0

/-- It is eligible, also when its return record is passed twice. -/
theorem payout_gate_sample :
    samplePayout.isPayoutEligible [sampleReturn, sampleReturn] .completed false = true := by
  have hgate := @payout_gate sampleDb sampleDb_valid samplePayout [sampleReturn, sampleReturn]
    (by simp [sampleDb]) (by simp [sampleDb]) .completed false
  rw [hgate.1 rfl]
  exact ⟨rfl, rfl, sampleReturn, by simp [sampleDb], rfl, rfl, rfl⟩

end Vouch
