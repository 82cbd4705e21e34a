/-
  Vouch.Db.Handovers

  Which handover records the database takes, and which payouts they unlock.

  `HandoverRecord.Insertable` is what the migrated schema asks of a new record:
  its signers are the parties of its booking, the booking has no record of that
  direction yet, and a completed record is evidenced.  The payout gate opens, in
  a run of such INSERTs, only through the one completed return of its booking
  (`payouts_unlocked`).
-/

import Vouch.Db.Insert
import Vouch.Db.Payout
import Vouch.Machine.Admission

namespace Vouch

open Py (UUID)
open Sql (Constraint Dml)
open Migration0001 (completedRequirements)
open Machine (stateAt)

-- ============================================================================
-- Inserting a handover record
-- ============================================================================

/-- What the constraints of `handover_records` ask of a new row. -/
structure HandoverRecord.Insertable (db : Database) (h : HandoverRecord) : Prop where
  fresh : ∀ x ∈ db.handoverRecords, x.id ≠ h.id
  direction : ∀ x ∈ db.handoverRecords, ¬ (x.bookingId = h.bookingId ∧ x.direction = h.direction)
  signers : ∃ b ∈ db.bookings, b.id = h.bookingId ∧
    (∀ u ∈ h.vendorSignerId, u = b.vendorId) ∧ ∀ u ∈ h.renterSignerId, u = b.renterId
  lawful : h.Lawful

/-- `INSERT INTO handover_records` of one row. -/
def Tables.insertHandover (db : Database) (h : HandoverRecord) : Database :=
  { db with handoverRecords := db.handoverRecords ++ [h] }

theorem data_insertHandover (db : Database) (h : HandoverRecord) :
    (db.insertHandover h).data = db.data.change "handover_records" (.insert h.toRow) := by
  apply Sql.Data.eq_change_insert
  · rw [data_handoverRecords, data_handoverRecords, ← List.map_singleton, ← List.map_append]
    rfl
  · intro name hname
    show Tables.rows _ _ name = Tables.rows _ _ name
    simp only [Tables.rows, if_neg hname]
    rfl

/-- The renter of a booking is a user. -/
theorem Tables.Valid.bookingRenter {db : Database} (hvalid : db.Valid) :
    ∀ b ∈ db.bookings, ∃ u ∈ db.users, u.id = b.renterId :=
  exists_of_foreignKey (fun _ => rfl) (fun _ => rfl) (data_bookings db) (data_users db)
    (hvalid.holds (t := Migration0001.bookings) (by simp [schema0002])
      (k := .foreignKey ["renter_id"] "users" ["id"] none) (by simp [Migration0001.bookings]))

section Insert

variable {db : Database}

/-- The foreign key of a signer, skipped for a record that is not signed, asks
    that a signer be the party of the booking. -/
theorem admitsRow_signer_iff (sign : HandoverRecord → Option UUID) (party : Booking → UUID)
    {signer column : String} {name : Option String} {h : HandoverRecord}
    (hsign : h.toRow.get signer = nullable .uuid (sign h))
    (hparty : ∀ b : Booking, b.toRow.get column = .uuid (party b)) :
    (Constraint.foreignKey ["booking_id", signer] "bookings" ["id", column] name).AdmitsRow db.data
        "handover_records" h.toRow ↔
      ∀ u ∈ sign h, ∃ b ∈ db.bookings, b.id = h.bookingId ∧ u = party b := by
  have hbooking : h.toRow.get "booking_id" = .uuid h.bookingId := rfl
  rw [Constraint.AdmitsRow, Sql.Data.change_of_ne (by decide), data_bookings]
  refine ⟨?_, ?_⟩
  · rintro (⟨c, hc, hnull⟩ | ⟨s, hs, hagree⟩) u hu
    · rcases List.mem_pair.mp hc with rfl | rfl
      · rw [hbooking] at hnull
        cases hnull
      · rw [hsign, Option.mem_def.mp hu] at hnull
        cases hnull
    · obtain ⟨b, hb, rfl⟩ := List.mem_map.mp hs
      rw [agree_pair, Bool.and_eq_true, hsign, hparty, Option.mem_def.mp hu] at hagree
      exact ⟨b, hb, (sameKey_uuid.mp hagree.1).symm, sameKey_uuid.mp hagree.2⟩
  · intro hall
    cases hu : sign h with
    | none =>
      refine .inl ⟨signer, by simp, ?_⟩
      rw [hsign, hu]
      rfl
    | some u =>
      obtain ⟨b, hb, hid, hsame⟩ := hall u hu
      refine .inr ⟨b.toRow, List.mem_map_of_mem hb, ?_⟩
      rw [agree_pair, Bool.and_eq_true, hsign, hparty, hu]
      exact ⟨sameKey_uuid.mpr hid.symm, sameKey_uuid.mpr hsame⟩

variable (hvalid : db.Valid) (h : HandoverRecord)

omit hvalid in
/-- The CHECK asks for the law. -/
theorem admits_completedRequirements_iff : completedRequirements.admits h.toRow ↔ h.Lawful := by
  rw [← h.accepts_iff]
  exact ⟨fun hadmits => List.forall_mem_singleton.mpr hadmits, List.forall_mem_singleton.mp⟩

/-- A booking takes one record per direction. -/
theorem admitsRow_direction_iff :
    (Constraint.unique ["booking_id", "direction"]
      (some "uq_handover_records_booking_direction")).AdmitsRow db.data "handover_records" h.toRow ↔
      ∀ x ∈ db.handoverRecords, ¬ (x.bookingId = h.bookingId ∧ x.direction = h.direction) := by
  have hdirection : ∀ x : HandoverRecord,
      (x.toRow.get "direction").sameKey (h.toRow.get "direction") ↔ x.direction = h.direction := by
    intro x
    show (Sql.Value.enum x.direction.value).sameKey (.enum h.direction.value) = true ↔ _
    rw [← HandoverDirection.value_injective.eq_iff]
    simp [Sql.Value.sameKey, Sql.Value.equal?]
  rw [Constraint.AdmitsRow, data_handoverRecords, List.forall_mem_map]
  refine forall₂_congr fun x _ => not_congr ?_
  rw [agree_pair, Bool.and_eq_true, hdirection]
  exact and_congr sameKey_uuid Iff.rfl

include hvalid

/-- The rules of `handover_records` admit exactly what can be inserted. -/
theorem handoverRecords_admitsRow_iff :
    Migration0001.handoverRecords.AdmitsRow schema0002.types db.data h.toRow ↔
      h.Insertable db := by
  have hid : ∀ x : HandoverRecord, x.toRow.get "id" = .uuid x.id := fun _ => rfl
  have hkey := admitsRow_primaryKey_iff (data_handoverRecords db) hid h
  have hbooking : (Constraint.foreignKey ["booking_id"] "bookings" ["id"] none).AdmitsRow db.data
      "handover_records" h.toRow ↔ ∃ b ∈ db.bookings, b.id = h.bookingId :=
    admitsRow_foreignKey_iff (data_bookings db) (fun _ => rfl) (by decide) rfl
  have hvendor := @admitsRow_signer_iff db HandoverRecord.vendorSignerId Booking.vendorId
    "vendor_signer_id" "vendor_id" (some "fk_handover_records_booking_vendor") h rfl fun _ => rfl
  have hrenter := @admitsRow_signer_iff db HandoverRecord.renterSignerId Booking.renterId
    "renter_signer_id" "renter_id" (some "fk_handover_records_booking_renter") h rfl fun _ => rfl
  refine ⟨?_, ?_⟩
  · rintro ⟨-, hrules⟩
    simp only [Migration0001.handoverRecords, List.forall_mem_cons] at hrules
    obtain ⟨h₁, h₂, h₃, h₄, -, h₆, h₇, -⟩ := hrules
    obtain ⟨b, hb, hbid⟩ := hbooking.mp h₂
    -- ids are unique, so all three keys refer to this booking
    have hone : ∀ c ∈ db.bookings, c.id = h.bookingId → c = b := fun c hc hcid =>
      eq_of_key_eq hvalid.bookingIds hc hb (hcid.trans hbid.symm)
    refine ⟨hkey.mp h₆, (admitsRow_direction_iff h).mp h₇, ⟨b, hb, hbid, ?_, ?_⟩,
      (admits_completedRequirements_iff h).mp h₁⟩
    · intro u hu
      obtain ⟨c, hc, hcid, hsame⟩ := hvendor.mp h₃ u hu
      rw [hsame, hone c hc hcid]
    · intro u hu
      obtain ⟨c, hc, hcid, hsame⟩ := hrenter.mp h₄ u hu
      rw [hsame, hone c hc hcid]
  · intro hins
    obtain ⟨b, hb, hbid, hbv, hbr⟩ := hins.signers
    have huser : (Constraint.foreignKey ["renter_signer_id"] "users" ["id"] none).AdmitsRow db.data
        "handover_records" h.toRow := by
      cases hsigner : h.renterSignerId with
      | none =>
        refine .inl ⟨"renter_signer_id", List.mem_singleton_self _, ?_⟩
        show (nullable Sql.Value.uuid h.renterSignerId).isNull
        rw [hsigner]
        rfl
      | some u =>
        -- the renter of a booking is a user
        obtain ⟨x, hx, hxid⟩ := hvalid.bookingRenter b hb
        have hget : h.toRow.get "renter_signer_id" = .uuid u := by
          show nullable Sql.Value.uuid h.renterSignerId = _
          rw [hsigner]
          rfl
        rw [admitsRow_foreignKey_iff (data_users db) (fun _ => rfl) (by decide) hget]
        exact ⟨x, hx, hxid.trans (hbr u hsigner).symm⟩
    refine ⟨h.conforms, ?_⟩
    simp only [Migration0001.handoverRecords, List.forall_mem_cons]
    exact ⟨(admits_completedRequirements_iff h).mpr hins.lawful, hbooking.mpr ⟨b, hb, hbid⟩,
      hvendor.mpr fun u hu => ⟨b, hb, hbid, hbv u hu⟩,
      hrenter.mpr fun u hu => ⟨b, hb, hbid, hbr u hu⟩, huser, hkey.mpr hins.fresh,
      (admitsRow_direction_iff h).mpr hins.direction, fun _ h => absurd h List.not_mem_nil⟩

/-- An INSERT into `handover_records` succeeds exactly for what can be inserted. -/
theorem exec_insertHandover_iff {d : Sql.Data} :
    Dml.exec schema0002 ⟨"handover_records", [.insert h.toRow]⟩ db.data = some d ↔
      h.Insertable db ∧ (db.insertHandover h).data = d := by
  have hmem : Migration0001.handoverRecords ∈ schema0002.tables := by simp [schema0002]
  rw [data_insertHandover, ← handoverRecords_admitsRow_iff hvalid]
  exact exec_insert_iff hvalid hmem

/-- What can be inserted keeps the database valid. -/
theorem HandoverRecord.Insertable.valid (hins : h.Insertable db) : (db.insertHandover h).Valid :=
  Dml.exec_valid hvalid ((exec_insertHandover_iff hvalid h).mpr ⟨hins, rfl⟩)

end Insert

-- ============================================================================
-- Records one after the other
-- ============================================================================

/-- Insert a record and commit; a rejected INSERT is rolled back. -/
def Tables.record (db : Database) (h : HandoverRecord) : Database :=
  match Dml.exec schema0002 ⟨"handover_records", [.insert h.toRow]⟩ db.data with
  | some _ => db.insertHandover h
  | none => db

/-- The database after the first `n` records were submitted. -/
def recorded (db : Database) (submitted : List HandoverRecord) (n : ℕ) : Database :=
  stateAt Tables.record db submitted n

section Record

variable {db : Database} (hvalid : db.Valid) {h : HandoverRecord}

include hvalid

theorem record_of_insertable (hins : h.Insertable db) : db.record h = db.insertHandover h := by
  rw [Tables.record, (exec_insertHandover_iff hvalid h).mpr ⟨hins, rfl⟩]

theorem record_of_not_insertable (hnot : ¬ h.Insertable db) : db.record h = db := by
  have hexec : Dml.exec schema0002 ⟨"handover_records", [.insert h.toRow]⟩ db.data = none := by
    rw [Option.eq_none_iff_forall_ne_some]
    intro d hd
    exact hnot ((exec_insertHandover_iff hvalid h).mp hd).1
  rw [Tables.record, hexec]

end Record

/-- The room for handover records only shrinks. -/
theorem handovers_admission :
    Machine.Admission Tables.record Tables.Valid (fun db h => h.Insertable db)
      Tables.insertHandover where
  step_of_fits hvalid hins := record_of_insertable hvalid hins
  step_of_not_fits hvalid hnot := record_of_not_insertable hvalid hnot
  valid hvalid hins := hins.valid hvalid _
  shrinks hins :=
    { hins with
      fresh := fun x hx => hins.fresh x (List.mem_append_left _ hx)
      direction := fun x hx => hins.direction x (List.mem_append_left _ hx) }
  once hins := hins.fresh _ (List.mem_append_right _ (List.mem_singleton_self _)) rfl

theorem foldl_insertHandover (db : Database) (hs : List HandoverRecord) :
    hs.foldl Tables.insertHandover db =
      { db with handoverRecords := db.handoverRecords ++ hs } := by
  induction hs generalizing db with
  | nil => rw [List.foldl_nil, List.append_nil]
  | cons h hs ih =>
    rw [List.foldl_cons, ih]
    simp only [Tables.insertHandover, List.append_assoc, List.singleton_append]

-- ============================================================================
-- What unlocks a payout
-- ============================================================================

/-- The gate looks at each record by itself. -/
theorem isPayoutEligible_append {p : Payment} {hs hs' : List HandoverRecord}
    {bookingStatus : BookingStatus} {payoutOnHold : Bool} :
    p.isPayoutEligible (hs ++ hs') bookingStatus payoutOnHold = true ↔
      p.isPayoutEligible hs bookingStatus payoutOnHold = true ∨
        p.isPayoutEligible hs' bookingStatus payoutOnHold = true := by
  simp only [isPayoutEligible_iff, List.mem_append, or_and_right, exists_or, and_or_left]

/-- **Payouts are unlocked by co-signed returns.**  Handover records are submitted
    in any order, and some are recorded.  The gate is asked about a payout of a
    completed booking that is not on hold: one that was closed before is open
    afterwards exactly if a completed return of the booking was recorded on the
    way; it is then the only return of the booking, and signed by its vendor and
    its renter. -/
theorem payouts_unlocked {db : Database} (hvalid : db.Valid) (submitted : List HandoverRecord)
    (n : ℕ) :
    ∃ granted, granted.Sublist (submitted.take n) ∧
      recorded db submitted n = { db with handoverRecords := db.handoverRecords ++ granted } ∧
      (recorded db submitted n).Valid ∧
      (∀ i < n, ∀ h, submitted[i]? = some h →
        h.Insertable (recorded db submitted i) → h ∈ granted) ∧
      ∀ p : Payment, p.type = .payout →
        p.isPayoutEligible db.handoverRecords .completed false = false →
        (p.isPayoutEligible (recorded db submitted n).handoverRecords .completed false = true ↔
          ∃ h ∈ granted, h.bookingId = p.bookingId ∧ h.direction = .return_ ∧
            h.status = .completed) ∧
        ∀ h ∈ granted, h.bookingId = p.bookingId → h.direction = .return_ →
          h.status = .completed →
          ((recorded db submitted n).handoverRecords.filter fun h' =>
            h'.bookingId = p.bookingId ∧ h'.direction = .return_) = [h] ∧
          ∃ b, (db.bookings.filter fun b => b.id = p.bookingId) = [b] ∧
            h.vendorSignerId = some b.vendorId ∧ h.renterSignerId = some b.renterId := by
  obtain ⟨granted, hg⟩ := Machine.exists_granted handovers_admission hvalid submitted n
  have hstate : recorded db submitted n =
      { db with handoverRecords := db.handoverRecords ++ granted } := by
    rw [recorded, hg.state, foldl_insertHandover]
  have hrecords : (recorded db submitted n).handoverRecords = db.handoverRecords ++ granted := by
    rw [hstate]
  have hvalid' : (recorded db submitted n).Valid := hg.valid
  have hmem : ∀ h ∈ granted, h ∈ (recorded db submitted n).handoverRecords := by
    intro h hh
    rw [hrecords]
    exact List.mem_append_right _ hh
  refine ⟨granted, hg.sublist, hstate, hvalid', hg.served, ?_⟩
  intro p htype hclosed
  refine ⟨?_, ?_⟩
  · rw [hrecords, isPayoutEligible_append, hclosed, isPayoutEligible_iff]
    refine ⟨?_, ?_⟩
    · rintro (hfalse | ⟨-, -, -, h, hh, hacc⟩)
      · cases hfalse
      · exact ⟨h, hh, hacc.bookingId, hacc.direction, hacc.status⟩
    · rintro ⟨h, hh, hid, hdir, hstatus⟩
      have hev := hvalid'.evidenced (hmem h hh) hstatus
      exact .inr ⟨htype, rfl, rfl, h, hh, hid, hdir, hstatus, hev.vendorSigner, hev.renterSigner,
        hev.vendorSigned, hev.renterSigned, hev.hasEvidence⟩
  · intro h hh hid hdir hstatus
    obtain ⟨honly, b, hb, hsigned⟩ :=
      completedReturn_parties hvalid' ⟨hmem h hh, hid, hdir, hstatus⟩
    rw [hstate] at hb
    exact ⟨honly, b, hb, hsigned⟩

/-- The sample before the return. -/
def sampleBeforeReturn : Database := { sampleDb with handoverRecords := [] }

theorem sampleBeforeReturn_valid : sampleBeforeReturn.Valid := by decide +kernel

/-- A return signed by the vendor for both sides, then the one of the sample. -/
def sampleSubmitted : List HandoverRecord :=
  [{ sampleReturn with renterSignerId := some 1 }, sampleReturn]

theorem payouts_unlocked_sample :
    ∃ granted : List HandoverRecord, granted.Sublist sampleSubmitted ∧
      (recorded sampleBeforeReturn sampleSubmitted 2).Valid ∧
      (samplePayout.isPayoutEligible (recorded sampleBeforeReturn sampleSubmitted 2).handoverRecords
          .completed false = true ↔
        ∃ h ∈ granted, h.bookingId = samplePayout.bookingId ∧ h.direction = .return_ ∧
          h.status = .completed) := by
  obtain ⟨granted, hsub, -, hvalid, -, hgate⟩ :=
    payouts_unlocked sampleBeforeReturn_valid sampleSubmitted 2
  exact ⟨granted, hsub, hvalid, (hgate samplePayout rfl rfl).1⟩

end Vouch
