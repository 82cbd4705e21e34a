/-
  Vouch.Db.Valid

  Databases that satisfy the migrated schema, and what its constraints say
  about the records: unique ids, foreign keys that resolve, ordered dates.
-/

import Vouch.Db.Migrations
import Vouch.Db.Rows
import Vouch.Sql.TwoValued

namespace Vouch

open Py (UUID Instant)
open Sql

-- ============================================================================
-- Validity
-- ============================================================================

/-- The database satisfies every constraint of revision 0002. -/
def Tables.Valid (db : Database) : Prop := schema0002.Valid db.data

/-- The database satisfies every constraint of revision 0001. -/
def Tables.Valid0001 (db : Database0001) : Prop := schema0001.Valid db.data0001

/-- A PRIMARY KEY or FOREIGN KEY constraint. -/
def Constraint.isKey : Constraint → Bool
  | .primaryKey _ => true
  | .foreignKey _ _ _ _ => true
  | _ => false

/-- The primary and foreign keys of revision 0002 hold. -/
def Tables.KeysHold (db : Database) : Prop :=
  ∀ t ∈ schema0002.tables, ∀ k ∈ t.constraints, Constraint.isKey k → k.Holds db.data t.name

instance (db : Database) : Decidable db.Valid := inferInstanceAs (Decidable (Schema.Valid _ _))

instance (db : Database0001) : Decidable db.Valid0001 :=
  inferInstanceAs (Decidable (Schema.Valid _ _))

instance (db : Database) : Decidable db.KeysHold :=
  inferInstanceAs (Decidable (∀ _ ∈ _, ∀ _ ∈ _, _))

theorem Tables.Valid.holds {db : Database} (h : db.Valid) {t : TableDef} {k : Constraint}
    (ht : t ∈ schema0002.tables) (hk : k ∈ t.constraints) : k.Holds db.data t.name :=
  (h t ht).2 k hk

theorem Tables.Valid.keysHold {db : Database} (h : db.Valid) : db.KeysHold :=
  fun _ ht _ hk _ => h.holds ht hk

section Data

variable (db : Database)

@[simp] theorem data_users : db.data "users" = db.users.map User.toRow := rfl

@[simp] theorem data_assets : db.data "assets" = db.assets.map Asset.toRow := rfl

@[simp] theorem data_availabilityWindows :
    db.data "availability_windows" = db.availabilityWindows.map AvailabilityWindow.toRow := rfl

@[simp] theorem data_bookings : db.data "bookings" = db.bookings.map Booking.toRow := rfl

@[simp] theorem data_handoverRecords :
    db.data "handover_records" = db.handoverRecords.map HandoverRecord.toRow := rfl

@[simp] theorem data_payments : db.data "payments" = db.payments.map Payment.toRow := rfl

end Data

-- ============================================================================
-- Keys as facts about records
-- ============================================================================

@[simp] theorem sameKey_uuid {a b : UUID} : Value.sameKey (.uuid a) (.uuid b) = true ↔ a = b := by
  simp [Value.sameKey, Value.equal?]

theorem agree_singleton {r s : Row} {c c' : String} :
    r.agree [c] s [c'] = (r.get c).sameKey (s.get c') := by
  simp [Row.agree]

theorem agree_pair {r s : Row} {c₁ c₂ c₁' c₂' : String} :
    r.agree [c₁, c₂] s [c₁', c₂'] =
      ((r.get c₁).sameKey (s.get c₁') && (r.get c₂).sameKey (s.get c₂')) := by
  simp [Row.agree]

/-- A primary key on `id` makes ids unique. -/
theorem ids_pairwise {α : Type} {toRow : α → Row} {id : α → UUID} {rows : List α} {data : Data}
    {table : String} (hget : ∀ x, (toRow x).get "id" = .uuid (id x))
    (hdata : data table = rows.map toRow)
    (h : (Constraint.primaryKey ["id"]).Holds data table) :
    rows.Pairwise fun x y => id x ≠ id y := by
  have hpair := h.2
  rw [hdata, List.pairwise_map] at hpair
  refine hpair.imp fun hne heq => hne ?_
  rw [agree_singleton, hget, hget, sameKey_uuid]
  exact heq

/-- A foreign key from a non-null column to an `id` resolves. -/
theorem exists_of_foreignKey {α β : Type} {toRow : α → Row} {toRow' : β → Row} {ref : α → UUID}
    {id : β → UUID} {rows : List α} {rows' : List β} {data : Data} {table refTable column : String}
    {name : Option String}
    (hget : ∀ x, (toRow x).get column = .uuid (ref x))
    (hget' : ∀ y, (toRow' y).get "id" = .uuid (id y))
    (hdata : data table = rows.map toRow) (hdata' : data refTable = rows'.map toRow')
    (h : (Constraint.foreignKey [column] refTable ["id"] name).Holds data table) :
    ∀ x ∈ rows, ∃ y ∈ rows', id y = ref x := by
  intro x hx
  have hrow := h (toRow x) (hdata ▸ List.mem_map_of_mem hx)
  rcases hrow with ⟨c, hc, hnull⟩ | ⟨s, hs, hagree⟩
  · rw [List.mem_singleton.mp hc, hget] at hnull
    exact absurd hnull Bool.false_ne_true
  · rw [hdata'] at hs
    obtain ⟨y, hy, rfl⟩ := List.mem_map.mp hs
    rw [agree_singleton, hget, hget', sameKey_uuid] at hagree
    exact ⟨y, hy, hagree.symm⟩

/-- With unique keys, the rows of a given key are one row. -/
theorem filter_eq_singleton {α κ : Type} [DecidableEq κ] {k : α → κ} {rows : List α}
    (h : rows.Pairwise fun x y => k x ≠ k y) {x : α} (hx : x ∈ rows) :
    (rows.filter fun y => k y = k x) = [x] := by
  induction rows with
  | nil => exact absurd hx List.not_mem_nil
  | cons y rows ih =>
      obtain ⟨hy, hrows⟩ := List.pairwise_cons.mp h
      rcases List.mem_cons.mp hx with rfl | hx
      · have hnone : (rows.filter fun y => k y = k x) = [] := by
          rw [List.filter_eq_nil_iff]
          intro z hz heq
          exact hy z hz (of_decide_eq_true heq).symm
        rw [List.filter_cons_of_pos (by simp), hnone]
      · rw [List.filter_cons_of_neg (by simpa using hy x hx), ih hrows hx]

/-- With unique keys, a row is determined by its key. -/
theorem eq_of_key_eq {α κ : Type} [DecidableEq κ] {k : α → κ} {rows : List α}
    (h : rows.Pairwise fun x y => k x ≠ k y) {x y : α} (hx : x ∈ rows) (hy : y ∈ rows)
    (heq : k x = k y) : x = y := by
  have hmem : x ∈ rows.filter fun z => k z = k y := by simp [hx, heq]
  rw [filter_eq_singleton h hy] at hmem
  exact List.mem_singleton.mp hmem

namespace Tables.KeysHold

variable {db : Database}

theorem userIds (h : db.KeysHold) : db.users.Pairwise fun u v => u.id ≠ v.id :=
  ids_pairwise (fun _ => rfl) (data_users db)
    (h Migration0001.users (by simp [schema0002]) (.primaryKey ["id"])
      (by simp [Migration0001.users]) rfl)

theorem assetIds (h : db.KeysHold) : db.assets.Pairwise fun a b => a.id ≠ b.id :=
  ids_pairwise (fun _ => rfl) (data_assets db)
    (h Migration0002.assets (by simp [schema0002]) (.primaryKey ["id"])
      (by simp [Migration0002.assets, Migration0001.assets]) rfl)

theorem vendor (h : db.KeysHold) : ∀ a ∈ db.assets, ∃ u ∈ db.users, u.id = a.vendorId :=
  exists_of_foreignKey (fun _ => rfl) (fun _ => rfl) (data_assets db) (data_users db)
    (h Migration0002.assets (by simp [schema0002]) (.foreignKey ["vendor_id"] "users" ["id"] none)
      (by simp [Migration0002.assets, Migration0001.assets]) rfl)

end Tables.KeysHold

-- ============================================================================
-- Checks as facts about records
-- ============================================================================

/-- A CHECK that one date column is at most another. -/
theorem le_of_admits {r : Row} {c c' : String} {x y : Int} (hx : r.get c = .date x)
    (hy : r.get c' = .date y) (h : (Cond.cmp .le (.col c) (.col c')).admits r) : x ≤ y := by
  have hdecides : (Cond.cmp .le (.col c) (.col c')).Decides r (decide (x ≤ y) = true) :=
    .cmp (Scalar.eval_col hx) (Scalar.eval_col hy) rfl
  exact of_decide_eq_true (hdecides.admits_iff.mp h)

namespace Tables.Valid

variable {db : Database}

/-- An availability window is not inverted. -/
theorem windowDates (h : db.Valid) : ∀ w ∈ db.availabilityWindows, w.startsAt ≤ w.endsAt := by
  intro w hw
  have hcheck := h.holds (t := Migration0001.availabilityWindows) (by simp [schema0002])
    (k := .check (.cmp .le (.col "starts_at") (.col "ends_at"))
      "ck_availability_windows_valid_date_range") (by simp [Migration0001.availabilityWindows])
  exact le_of_admits rfl rfl (hcheck w.toRow (List.mem_map_of_mem hw))

/-- A booking is not inverted. -/
theorem bookingDates (h : db.Valid) : ∀ b ∈ db.bookings, b.startsOn ≤ b.endsOn := by
  intro b hb
  have hcheck := h.holds (t := Migration0001.bookings) (by simp [schema0002])
    (k := .check (.cmp .le (.col "starts_on") (.col "ends_on")) "ck_bookings_valid_date_range")
    (by simp [Migration0001.bookings])
  exact le_of_admits rfl rfl (hcheck b.toRow (List.mem_map_of_mem hb))

/-- The exclusion constraint of bookings holds. -/
theorem noOverlap (h : db.Valid) :
    Migration0001.exBookingsNoActiveAssetOverlap.Holds db.data "bookings" :=
  h.holds (t := Migration0001.bookings) (by simp [schema0002]) (by simp [Migration0001.bookings])

theorem bookingIds (h : db.Valid) : db.bookings.Pairwise fun b c => b.id ≠ c.id :=
  ids_pairwise (fun _ => rfl) (data_bookings db)
    (h.holds (t := Migration0001.bookings) (by simp [schema0002]) (k := .primaryKey ["id"])
      (by simp [Migration0001.bookings]))

end Tables.Valid

-- ============================================================================
-- A valid database
-- ============================================================================

def sampleUser (id : UUID) (phone : String) (role : RenterRole) : User where
  id := id
  phone := phone
  fullName := "Ada"
  email := none
  role := role
  isActive := true
  createdAt := 0
  updatedAt := 0
  deletedAt := none

def sampleAsset (id : UUID) (city : City) (createdAt : Instant) : Asset where
  id := id
  vendorId := 1
  name := "FX3"
  description := none
  category := .camera
  serialNumber := some "S-1"
  dailyRate := ⟨1250000, by decide⟩
  depositAmount := ⟨5000000, by decide⟩
  isAvailable := true
  city := city
  conditionNotes := none
  createdAt := createdAt
  updatedAt := createdAt
  deletedAt := none
  listingStatus := .active
  minimumTrustTier := 1
  reviewActorId := none
  reviewedAt := none
  reviewReason := none

/-- A completed booking of asset 12 by user 2, on days 200 to 203. -/
def sampleBooking : Booking where
  id := 30
  assetId := 12
  renterId := 2
  vendorId := 1
  startsOn := 200
  endsOn := 203
  status := .completed
  totalRentalFee := ⟨5000000, by decide⟩
  depositAmount := ⟨5000000, by decide⟩
  platformNote := none
  cancelledAt := none
  cancellationReason := none
  createdAt := 0
  updatedAt := 0

/-- Its completed return, signed by both parties. -/
def sampleReturn : HandoverRecord where
  id := 40
  bookingId := 30
  direction := .return_
  status := .completed
  conditionChecklist := .obj []
  vendorSignerId := some 1
  renterSignerId := some 2
  vendorSignedAt := some 3
  renterSignedAt := some 4
  evidenceUrls := some (.arr [.str (Py.Str.ofString "photo")])
  locationLat := none
  locationLng := none
  notes := none
  createdAt := 0
  updatedAt := 0

/-- Three Lagos listings, two of them created at the same instant, and one in
    Abuja; days 100 to 102 of asset 11 are blocked. -/
def sampleDb : Database where
  users := [sampleUser 1 "+2341" .vendor, sampleUser 2 "+2342" .renter]
  assets := [sampleAsset 12 .lagos 5000, sampleAsset 11 .lagos 5000,
    sampleAsset 10 .abuja 7000, sampleAsset 13 .lagos 4000]
  kycProfiles := []
  availabilityWindows := [⟨20, 11, 100, 102, true, 0, 0⟩]
  bookings := [sampleBooking]
  handoverRecords := [sampleReturn]
  payments := []

theorem sampleDb_valid : sampleDb.Valid := by decide +kernel

end Vouch
