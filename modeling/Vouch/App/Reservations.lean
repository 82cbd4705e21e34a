/-
  Vouch.App.Reservations

  Reserving what the search offers.

  `Booking.Insertable` lists what the migrated schema asks of a new booking, and
  is all it asks (`exec_insertBooking_iff`).  A booking that reserves takes its
  asset out of the searches for its days and changes no other result
  (`admitted_insertBooking`).  So an asset is offered for a stay exactly if the
  stay can be reserved and no day of it is blocked (`listed_iff_reservable`),
  and requests that race for assets are granted first come, first served
  (`reservations_granted`).
-/

import Vouch.App.Availability
import Vouch.App.Narrowing
import Vouch.Db.Insert
import Vouch.Machine.Admission

namespace Vouch

open Py (Python Date)
open Sql (Constraint Dml)
open Migration0001 (exBookingsNoActiveAssetOverlap reserving)
open Keyset (collect rowsOf Done)
open Machine (stateAt)

-- ============================================================================
-- Inserting a booking
-- ============================================================================

/-- What the constraints of `bookings` ask of a new row. -/
structure Booking.Insertable (db : Database) (b : Booking) : Prop where
  fresh : ∀ c ∈ db.bookings, c.id ≠ b.id
  asset : ∃ a ∈ db.assets, a.id = b.assetId
  renter : ∃ u ∈ db.users, u.id = b.renterId
  vendor : ∃ u ∈ db.users, u.id = b.vendorId
  dates : b.startsOn ≤ b.endsOn
  totalRentalFee : 0 < b.totalRentalFee.unscaled
  depositAmount : 0 ≤ b.depositAmount.unscaled
  free : ∀ c ∈ db.bookings, ¬ c.Conflicts b

theorem data_insertBooking (db : Database) (b : Booking) :
    (db.insertBooking b).data = db.data.change "bookings" (.insert b.toRow) := by
  apply Sql.Data.eq_change_insert
  · rw [data_bookings, data_bookings, ← List.map_singleton, ← List.map_append]
    rfl
  · intro name hname
    show Tables.rows _ _ name = Tables.rows _ _ name
    simp only [Tables.rows, if_neg hname]
    rfl

section Insert

variable {db : Database} (hvalid : db.Valid) (b : Booking)

include hvalid

/-- The exclusion constraint admits a booking that conflicts with none. -/
theorem admitsRow_noOverlap_iff (hdates : b.startsOn ≤ b.endsOn) :
    exBookingsNoActiveAssetOverlap.AdmitsRow db.data "bookings" b.toRow ↔
      ∀ c ∈ db.bookings, ¬ c.Conflicts b := by
  have hdefined : Sql.rangeDefined "starts_on" "ends_on" reserving b.toRow := by
    intro _
    obtain ⟨range, hrange, -⟩ := Sql.daterange_of_le hdates
    show (Sql.daterange (.date b.startsOn) (.date b.endsOn)).isOk
    rw [hrange]
    rfl
  show (_ ∧ ∀ s ∈ db.data "bookings", _) ↔ _
  rw [and_iff_right hdefined, data_bookings, List.forall_mem_map]
  refine forall₂_congr fun c hc => not_congr ?_
  exact excluded_iff (hvalid.bookingDates c hc) hdates

/-- The rules of `bookings` admit exactly what can be inserted. -/
theorem bookings_admitsRow_iff :
    Migration0001.bookings.AdmitsRow schema0002.types db.data b.toRow ↔ b.Insertable db := by
  have hfee : (positive "total_rental_fee").admits b.toRow ↔ 0 < b.totalRentalFee.unscaled :=
    (decides_positive rfl).admits_iff
  have hdeposit : (nonnegative "deposit_amount").admits b.toRow ↔ 0 ≤ b.depositAmount.unscaled :=
    (decides_nonnegative rfl).admits_iff
  have hdates : (Sql.Cond.cmp .le (.col "starts_on") (.col "ends_on")).admits b.toRow ↔
      b.startsOn ≤ b.endsOn := by
    have hdecides : (Sql.Cond.cmp .le (.col "starts_on") (.col "ends_on")).Decides b.toRow
        (decide (b.startsOn ≤ b.endsOn) = true) :=
      .cmp (Sql.Scalar.eval_col rfl) (Sql.Scalar.eval_col rfl) rfl
    rw [hdecides.admits_iff, decide_eq_true_iff]
  have hid : ∀ c : Booking, c.toRow.get "id" = .uuid c.id := fun _ => rfl
  have hkey := admitsRow_primaryKey_iff (data_bookings db) hid b
  have hasset : (Constraint.foreignKey ["asset_id"] "assets" ["id"] none).AdmitsRow db.data
      "bookings" b.toRow ↔ ∃ a ∈ db.assets, a.id = b.assetId :=
    admitsRow_foreignKey_iff (data_assets db) (fun _ => rfl) (by decide) rfl
  have hrenter : (Constraint.foreignKey ["renter_id"] "users" ["id"] none).AdmitsRow db.data
      "bookings" b.toRow ↔ ∃ u ∈ db.users, u.id = b.renterId :=
    admitsRow_foreignKey_iff (data_users db) (fun _ => rfl) (by decide) rfl
  have hvendor : (Constraint.foreignKey ["vendor_id"] "users" ["id"] none).AdmitsRow db.data
      "bookings" b.toRow ↔ ∃ u ∈ db.users, u.id = b.vendorId :=
    admitsRow_foreignKey_iff (data_users db) (fun _ => rfl) (by decide) rfl
  refine ⟨?_, ?_⟩
  · rintro ⟨-, h⟩
    simp only [Migration0001.bookings, List.forall_mem_cons] at h
    obtain ⟨h₁, h₂, h₃, h₄, h₅, h₆, h₇, h₈, -⟩ := h
    have hle := hdates.mp h₃
    exact ⟨hkey.mp h₈, hasset.mp h₅, hrenter.mp h₆, hvendor.mp h₇, hle,
      hfee.mp h₂, hdeposit.mp h₁, (admitsRow_noOverlap_iff hvalid b hle).mp h₄⟩
  · intro h
    refine ⟨b.conforms, ?_⟩
    simp only [Migration0001.bookings, List.forall_mem_cons]
    exact ⟨hdeposit.mpr h.depositAmount, hfee.mpr h.totalRentalFee, hdates.mpr h.dates,
      (admitsRow_noOverlap_iff hvalid b h.dates).mpr h.free, hasset.mpr h.asset,
      hrenter.mpr h.renter, hvendor.mpr h.vendor, hkey.mpr h.fresh,
      admitsRow_unique (data_bookings db) hid _ _ h.fresh,
      admitsRow_unique (data_bookings db) hid _ _ h.fresh, fun _ h => absurd h List.not_mem_nil⟩

/-- An INSERT into `bookings` succeeds exactly for what can be inserted. -/
theorem exec_insertBooking_iff {d : Sql.Data} :
    Dml.exec schema0002 ⟨"bookings", [.insert b.toRow]⟩ db.data = some d ↔
      b.Insertable db ∧ (db.insertBooking b).data = d := by
  have hmem : Migration0001.bookings ∈ schema0002.tables := by simp [schema0002]
  rw [data_insertBooking, ← bookings_admitsRow_iff hvalid]
  exact exec_insert_iff hvalid hmem

/-- What can be inserted keeps the database valid. -/
theorem Booking.Insertable.valid (h : b.Insertable db) : (db.insertBooking b).Valid :=
  Dml.exec_valid hvalid ((exec_insertBooking_iff hvalid b).mpr ⟨h, rfl⟩)

end Insert

-- ============================================================================
-- What a booking does to the search
-- ============================================================================

/-- The booking keeps the asset out of a search with the filters. -/
def Booking.Takes (b : Booking) (f : Filters) (a : Asset) : Prop :=
  b.Reserving ∧ b.assetId = a.id ∧
    ∃ s ∈ f.startsOn, ∃ e ∈ f.endsOn, b.startsOn ≤ e.val ∧ s.val ≤ b.endsOn

instance (b : Booking) : Decidable b.Reserving := inferInstanceAs (Decidable (_ ∨ _))

instance (b : Booking) (f : Filters) (a : Asset) : Decidable (b.Takes f a) :=
  inferInstanceAs (Decidable (_ ∧ _ ∧ _))

section Effect

variable (db : Database) (b : Booking)

theorem bookedDuring_insertBooking (a : Asset) (s e : Int) :
    BookedDuring (db.insertBooking b) a s e ↔
      BookedDuring db a s e ∨ b.assetId = a.id ∧ b.Reserving ∧ b.startsOn ≤ e ∧ s ≤ b.endsOn := by
  refine ⟨?_, ?_⟩
  · rintro ⟨c, hc, h⟩
    rcases List.mem_append.mp hc with hc | hc
    · exact .inl ⟨c, hc, h⟩
    · rw [List.mem_singleton.mp hc] at h
      exact .inr h
  · rintro (⟨c, hc, h⟩ | h)
    · exact ⟨c, List.mem_append_left _ hc, h⟩
    · exact ⟨b, List.mem_append_right _ (List.mem_singleton_self b), h⟩

theorem publiclyVisible_insertBooking (a : Asset) :
    PubliclyVisible (db.insertBooking b) a ↔ PubliclyVisible db a := by
  refine ⟨?_, ?_⟩
  · rintro ⟨hactive, havailable, hdeleted, hlagos, hvendor⟩
    exact ⟨hactive, havailable, hdeleted, hlagos, hvendor⟩
  · rintro ⟨hactive, havailable, hdeleted, hlagos, hvendor⟩
    exact ⟨hactive, havailable, hdeleted, hlagos, hvendor⟩

theorem admits_insertBooking (f : Filters) (a : Asset) :
    f.Admits (db.insertBooking b) a ↔ f.Admits db a ∧ ¬ b.Takes f a := by
  refine ⟨?_, ?_⟩
  · intro h
    have hfree : ∀ s ∈ f.startsOn, ∀ e ∈ f.endsOn, ¬ BookedDuring db a s.val e.val ∧
        ¬ (b.assetId = a.id ∧ b.Reserving ∧ b.startsOn ≤ e.val ∧ s.val ≤ b.endsOn) := by
      intro s hs e he
      rw [← not_or, ← bookedDuring_insertBooking]
      exact (h.available s hs e he).2
    refine ⟨⟨h.category, h.minDailyRate, h.maxDailyRate, ?_⟩, ?_⟩
    · intro s hs e he
      exact ⟨(h.available s hs e he).1, (hfree s hs e he).1⟩
    · rintro ⟨hres, hasset, s, hs, e, he, hse⟩
      exact (hfree s hs e he).2 ⟨hasset, hres, hse⟩
  · rintro ⟨h, htakes⟩
    refine ⟨h.category, h.minDailyRate, h.maxDailyRate, ?_⟩
    intro s hs e he
    refine ⟨(h.available s hs e he).1, ?_⟩
    rw [bookedDuring_insertBooking]
    rintro (hbooked | ⟨hasset, hres, hse⟩)
    · exact (h.available s hs e he).2 hbooked
    · exact htakes ⟨hres, hasset, s, hs, e, he, hse⟩

/-- A new booking takes its asset out of the searches for its days, and changes
    nothing else. -/
theorem admitted_insertBooking (hids : db.AssetIdsUnique) (f : Filters) :
    admitted (db.insertBooking b) f = (admitted db f).filter fun a => ¬ b.Takes f a := by
  have hassets : (db.insertBooking b).assets = db.assets := rfl
  apply admitted_eq_filter hassets hids
  intro a
  rw [publiclyVisible_insertBooking, admits_insertBooking, and_assoc]

end Effect

-- ============================================================================
-- Requests one after the other
-- ============================================================================

/-- Insert a booking and commit; a rejected INSERT is rolled back. -/
def Tables.book (db : Database) (b : Booking) : Database :=
  match Dml.exec schema0002 ⟨"bookings", [.insert b.toRow]⟩ db.data with
  | some _ => db.insertBooking b
  | none => db

/-- The database after the first `n` requests. -/
def booked (db : Database) (requests : List Booking) (n : ℕ) : Database :=
  stateAt Tables.book db requests n

section Book

variable {db : Database} (hvalid : db.Valid) {b : Booking}

include hvalid

theorem book_of_insertable (h : b.Insertable db) : db.book b = db.insertBooking b := by
  rw [Tables.book, (exec_insertBooking_iff hvalid b).mpr ⟨h, rfl⟩]

theorem book_of_not_insertable (h : ¬ b.Insertable db) : db.book b = db := by
  have hexec : Dml.exec schema0002 ⟨"bookings", [.insert b.toRow]⟩ db.data = none := by
    rw [Option.eq_none_iff_forall_ne_some]
    intro d hd
    exact h ((exec_insertBooking_iff hvalid b).mp hd).1
  rw [Tables.book, hexec]

end Book

/-- The room for bookings only shrinks. -/
theorem bookings_admission :
    Machine.Admission Tables.book Tables.Valid (fun db b => b.Insertable db)
      Tables.insertBooking where
  step_of_fits hvalid h := book_of_insertable hvalid h
  step_of_not_fits hvalid h := book_of_not_insertable hvalid h
  valid hvalid h := h.valid hvalid _
  shrinks h :=
    { h with
      fresh := fun x hx => h.fresh x (List.mem_append_left _ hx)
      free := fun x hx => h.free x (List.mem_append_left _ hx) }
  once h := h.fresh _ (List.mem_append_right _ (List.mem_singleton_self _)) rfl

section Inserted

variable (db : Database) (bs : List Booking)

theorem foldl_insertBooking :
    bs.foldl Tables.insertBooking db = { db with bookings := db.bookings ++ bs } := by
  induction bs generalizing db with
  | nil => rw [List.foldl_nil, List.append_nil]
  | cons b bs ih =>
    rw [List.foldl_cons, ih]
    simp only [Tables.insertBooking, List.append_assoc, List.singleton_append]

/-- The assets that new bookings take for its dates are what a search misses. -/
theorem admitted_foldl_insertBooking (hids : db.AssetIdsUnique) (f : Filters) :
    admitted (bs.foldl Tables.insertBooking db) f =
      (admitted db f).filter fun a => ∀ b ∈ bs, ¬ b.Takes f a := by
  induction bs generalizing db with
  | nil => simp
  | cons b bs ih =>
    have hids' : (db.insertBooking b).AssetIdsUnique := hids
    rw [List.foldl_cons, ih _ hids', admitted_insertBooking db b hids, List.filter_filter]
    apply List.filter_congr
    intro a _
    rw [← Bool.decide_and, decide_eq_decide, List.forall_mem_cons]
    exact and_comm

end Inserted

-- ============================================================================
-- What a client sees
-- ============================================================================

/-- The filters without dates. -/
def Filters.withoutDates (f : Filters) : Filters := { f with startsOn := none, endsOn := none }

/-- A confirmed or active booking of the asset for the stay, with a fresh id,
    known parties and amounts in range. -/
structure Booking.Reserves (db : Database) (b : Booking) (a : Asset) (s e : Date) : Prop where
  status : b.Reserving
  asset : b.assetId = a.id
  startsOn : b.startsOn = s.val
  endsOn : b.endsOn = e.val
  fresh : ∀ c ∈ db.bookings, c.id ≠ b.id
  renter : ∃ u ∈ db.users, u.id = b.renterId
  vendor : ∃ u ∈ db.users, u.id = b.vendorId
  totalRentalFee : 0 < b.totalRentalFee.unscaled
  depositAmount : 0 ≤ b.depositAmount.unscaled

/-- Such a booking can be inserted exactly if its asset is not booked. -/
theorem Booking.Reserves.insertable_iff {db : Database} {b : Booking} {a : Asset} {s e : Date}
    (h : b.Reserves db a s e) (ha : a ∈ db.assets) (hse : s ≤ e) :
    b.Insertable db ↔ ¬ BookedDuring db a s.val e.val := by
  rw [← h.startsOn, ← h.endsOn, ← exists_conflict_iff h.asset h.status]
  refine ⟨?_, ?_⟩
  · rintro hb ⟨c, hc, hconf⟩
    exact hb.free c hc hconf
  · intro hnone
    have hdates : b.startsOn ≤ b.endsOn := by
      rw [h.startsOn, h.endsOn]
      exact_mod_cast hse
    exact ⟨h.fresh, ⟨a, ha, h.asset.symm⟩, h.renter, h.vendor, hdates, h.totalRentalFee,
      h.depositAmount, fun c hc hconf => hnone ⟨c, hc, hconf⟩⟩

theorem admits_on_iff_free {db : Database} {f : Filters} {a : Asset} {s e : Date} :
    (f.on s e).Admits db a ↔ f.withoutDates.Admits db a ∧
      ¬ BlockedDuring db a s.val e.val ∧ ¬ BookedDuring db a s.val e.val := by
  refine ⟨?_, ?_⟩
  · intro h
    refine ⟨⟨h.category, h.minDailyRate, h.maxDailyRate, ?_⟩, h.available s rfl e rfl⟩
    intro s' hs'
    cases hs'
  · rintro ⟨h, hfree⟩
    refine ⟨h.category, h.minDailyRate, h.maxDailyRate, ?_⟩
    intro s' hs' e' he'
    obtain rfl : s = s' := Option.some.inj hs'
    obtain rfl : e = e' := Option.some.inj he'
    exact hfree

section Client

variable {py : Python} (hpy : py.RoundTrip) {db : Database} (hvalid : db.Valid) {f : Filters}
  (hf : f.Fits) {limit : ℕ → ℕ} (hlimit : ∀ i, 1 ≤ limit i ∧ limit i ≤ maxPageLimit)

include hpy hvalid hf hlimit

/-- **Offered is reservable.**  The search lists an asset for a stay exactly if
    it lists the asset without dates, no day of the stay is blocked, and the
    INSERT of a booking for the stay is accepted; and once it is, no search for
    any of these days lists the asset. -/
theorem listed_iff_reservable {a : Asset} {s e : Date} (hse : s ≤ e) {b : Booking}
    (hb : b.Reserves db a s e) :
    (Listed py db (f.on s e) limit a ↔
      Listed py db f.withoutDates limit a ∧ ¬ BlockedDuring db a s.val e.val ∧
        (Dml.exec schema0002 ⟨"bookings", [.insert b.toRow]⟩ db.data).isSome) ∧
    ((Dml.exec schema0002 ⟨"bookings", [.insert b.toRow]⟩ db.data).isSome →
      ∀ s' e' : Date, s' ≤ e → s ≤ e' →
        ¬ Listed py (db.insertBooking b) (f.on s' e') limit a) := by
  have hexec : (Dml.exec schema0002 ⟨"bookings", [.insert b.toRow]⟩ db.data).isSome ↔
      b.Insertable db := by
    simp only [Option.isSome_iff_exists, exec_insertBooking_iff hvalid, exists_and_left,
      exists_eq', and_true]
  have hbare : f.withoutDates.Fits := ⟨hf.category, hf.minDailyRate, hf.maxDailyRate⟩
  rw [hexec, listed_iff hpy hvalid hlimit (hf.on s e), listed_iff hpy hvalid hlimit hbare]
  refine ⟨?_, ?_⟩
  · rw [mem_admitted, mem_admitted, admits_on_iff_free]
    refine ⟨?_, ?_⟩
    · rintro ⟨ha, hvisible, hadmits, hblocked, hbooked⟩
      exact ⟨⟨ha, hvisible, hadmits⟩, hblocked, (hb.insertable_iff ha hse).mpr hbooked⟩
    · rintro ⟨⟨ha, hvisible, hadmits⟩, hblocked, hfree⟩
      exact ⟨ha, hvisible, hadmits, hblocked, (hb.insertable_iff ha hse).mp hfree⟩
  · intro hfree s' e' hs he
    rw [listed_iff hpy (hfree.valid hvalid b) hlimit (hf.on s' e'),
      admitted_insertBooking db b hvalid.keysHold.assetIdsUnique, List.mem_filter,
      decide_eq_true_iff]
    rintro ⟨-, hnot⟩
    refine hnot ⟨hb.status, hb.asset, s', rfl, e', rfl, ?_, ?_⟩
    · rw [hb.startsOn]
      exact_mod_cast he
    · rw [hb.endsOn]
      exact_mod_cast hs

omit hf in
/-- **First come, first served.**  Of any requests to insert a booking, in any
    order, those are granted that can be when their turn comes, and asking again
    for any of them is refused.  Every state on the way is valid, and each search
    returns what it did before without the assets that granted requests took for
    its dates. -/
theorem reservations_granted (requests : List Booking) (n : ℕ) :
    ∃ granted, granted.Sublist (requests.take n) ∧
      booked db requests n = { db with bookings := db.bookings ++ granted } ∧
      (booked db requests n).Valid ∧
      (∀ i < n, ∀ b, requests[i]? = some b → b.Insertable (booked db requests i) → b ∈ granted) ∧
      (∀ b ∈ requests.take n, (booked db requests n).book b = booked db requests n) ∧
      ∀ f : Filters, f.Fits → ∃ k ps k' ps',
        collect (searchRequest py db f limit) k 0 none = .ok ps ∧ Done ps ∧
        collect (searchRequest py (booked db requests n) f limit) k' 0 none = .ok ps' ∧ Done ps' ∧
        rowsOf ps' = (rowsOf ps).filter fun a => ∀ b ∈ granted, ¬ b.Takes f a := by
  obtain ⟨granted, h⟩ := Machine.exists_granted bookings_admission hvalid requests n
  have hstate : booked db requests n = { db with bookings := db.bookings ++ granted } := by
    rw [booked, h.state, foldl_insertBooking]
  refine ⟨granted, h.sublist, hstate, h.valid, h.served, ?_, ?_⟩
  · intro b hb
    exact book_of_not_insertable h.valid (h.settled b hb)
  · intro f hf
    obtain ⟨⟨k, ps, hps, hdone⟩, hrows⟩ := traversal_eq_admitted hpy hvalid hlimit hf
    obtain ⟨⟨k', ps', hps', hdone'⟩, hrows'⟩ := traversal_eq_admitted hpy h.valid hlimit hf
    refine ⟨k, ps, k', ps', hps, hdone, hps', hdone', ?_⟩
    rw [hrows' k' ps' hps' hdone', hrows k ps hps hdone, h.state,
      admitted_foldl_insertBooking db granted hvalid.keysHold.assetIdsUnique]

end Client

/-- A confirmed booking of asset 11 on days 98 and 99. -/
def sampleReservation : Booking :=
  { sampleBooking with id := 31, assetId := 11, startsOn := 98, endsOn := 99, status := .confirmed }

/-- Before the blocked days of that asset. -/
theorem listed_iff_reservable_sample :
    (Listed Py.reference sampleDb (({} : Filters).on 98 99) (fun _ => 2)
        (sampleAsset 11 .lagos 5000) ↔
      Listed Py.reference sampleDb ({} : Filters).withoutDates (fun _ => 2)
          (sampleAsset 11 .lagos 5000) ∧
        ¬ BlockedDuring sampleDb (sampleAsset 11 .lagos 5000) 98 99 ∧
        (Dml.exec schema0002 ⟨"bookings", [.insert sampleReservation.toRow]⟩
          sampleDb.data).isSome) ∧
    ((Dml.exec schema0002 ⟨"bookings", [.insert sampleReservation.toRow]⟩ sampleDb.data).isSome →
      ∀ s' e' : Date, s' ≤ 99 → 98 ≤ e' →
        ¬ Listed Py.reference (sampleDb.insertBooking sampleReservation)
          (({} : Filters).on s' e') (fun _ => 2) (sampleAsset 11 .lagos 5000)) := by
  apply listed_iff_reservable Py.reference_roundTrip sampleDb_valid (by decide)
    (fun _ => ⟨by omega, by decide⟩) (by decide)
  exact ⟨.inl rfl, rfl, rfl, rfl, by decide +kernel, by decide +kernel, by decide +kernel,
    by decide, by decide⟩

/-- Two requests for the asset that share day 99. -/
def sampleRequests : List Booking :=
  [sampleReservation, { sampleReservation with id := 32, startsOn := 99, endsOn := 104 }]

theorem sampleReservation_insertable : sampleReservation.Insertable sampleDb where
  fresh := by decide +kernel
  asset := by decide +kernel
  renter := by decide +kernel
  vendor := by decide +kernel
  dates := by decide
  totalRentalFee := by decide
  depositAmount := by decide
  free := by
    rintro c hc ⟨-, -, hasset, -⟩
    obtain rfl := List.mem_singleton.mp hc
    exact absurd hasset (by decide)

/-- The first of them is granted. -/
theorem reservations_granted_sample :
    ∃ granted : List Booking, granted.Sublist sampleRequests ∧ sampleReservation ∈ granted ∧
      booked sampleDb sampleRequests 2 =
        { sampleDb with bookings := sampleDb.bookings ++ granted } ∧
      (booked sampleDb sampleRequests 2).Valid := by
  obtain ⟨granted, hsub, hstate, hvalid, hserved, -⟩ :=
    reservations_granted Py.reference_roundTrip sampleDb_valid
      (fun _ => ⟨Nat.le_add_left 1 19, by decide⟩) sampleRequests 2
  exact ⟨granted, hsub, hserved 0 (by omega) _ rfl sampleReservation_insertable, hstate, hvalid⟩

end Vouch
