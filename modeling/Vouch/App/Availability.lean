/-
  Vouch.App.Availability

  The date filter of the search against the days it is about, and against the
  exclusion constraint that guards bookings.

  Query and constraint compare bounds in different forms: closed intervals in
  `_date_overlap_clauses`, canonical half-open ranges in the constraint.  Both
  are brought to shared days (`exists_overlap_iff_day`, `noOverlap_iff`).
-/

import Vouch.App.Listing
import Vouch.Sql.Range

namespace Vouch

open Py (UUID)
open Sql (Row Value Cond Truth Constraint)
open Migration0001 (exBookingsNoActiveAssetOverlap reserving)

-- ============================================================================
-- Days
-- ============================================================================

/-- The booking keeps its asset from others. -/
def Booking.Reserving (b : Booking) : Prop := b.status = .confirmed ∨ b.status = .active

/-- The day lies in a confirmed or active booking of the asset. -/
def BookedOn (db : Database) (assetId : UUID) (d : Int) : Prop :=
  ∃ b ∈ db.bookings, b.assetId = assetId ∧ b.Reserving ∧ b.startsOn ≤ d ∧ d ≤ b.endsOn

/-- The day lies in a blocked window of the asset. -/
def BlockedOn (db : Database) (assetId : UUID) (d : Int) : Prop :=
  ∃ w ∈ db.availabilityWindows, w.assetId = assetId ∧ w.isBlocked = true ∧
    w.startsAt ≤ d ∧ d ≤ w.endsAt

/-- Some row with `P` overlaps `[s, e]` exactly when some day of `[s, e]` lies
    in a row with `P`. -/
theorem exists_overlap_iff_day {α : Type} {rows : List α} {lo hi : α → Int} {P : α → Prop}
    (hrows : ∀ r ∈ rows, lo r ≤ hi r) {s e : Int} (hse : s ≤ e) :
    (∃ r ∈ rows, P r ∧ lo r ≤ e ∧ s ≤ hi r) ↔
      ∃ d, s ≤ d ∧ d ≤ e ∧ ∃ r ∈ rows, P r ∧ lo r ≤ d ∧ d ≤ hi r := by
  refine ⟨?_, ?_⟩
  · rintro ⟨r, hr, hP, hover⟩
    rw [← Sql.Icc_inter_Icc_nonempty (hrows r hr) hse] at hover
    obtain ⟨d, hd, hdr⟩ := hover
    exact ⟨d, hdr.1, hdr.2, r, hr, hP, hd.1, hd.2⟩
  · rintro ⟨d, hsd, hde, r, hr, hP, hlo, hhi⟩
    exact ⟨r, hr, hP, le_trans hlo hde, le_trans hsd hhi⟩

section Days

variable {db : Database} (hvalid : db.Valid) (a : Asset) {s e : Int} (hse : s ≤ e)

include hvalid hse

theorem bookedDuring_iff_day :
    BookedDuring db a s e ↔ ∃ d, s ≤ d ∧ d ≤ e ∧ BookedOn db a.id d := by
  have hday := exists_overlap_iff_day (P := fun b : Booking => b.assetId = a.id ∧ b.Reserving)
    hvalid.bookingDates hse
  simpa only [BookedDuring, BookedOn, Booking.Reserving, and_assoc] using hday

theorem blockedDuring_iff_day :
    BlockedDuring db a s e ↔ ∃ d, s ≤ d ∧ d ≤ e ∧ BlockedOn db a.id d := by
  have hday := exists_overlap_iff_day
    (P := fun w : AvailabilityWindow => w.assetId = a.id ∧ w.isBlocked = true)
    hvalid.windowDates hse
  simpa only [BlockedDuring, BlockedOn, and_assoc] using hday

end Days

-- ============================================================================
-- The exclusion constraint
-- ============================================================================

/-- The exclusion constraint does not admit the two bookings together. -/
def Booking.Conflicts (b c : Booking) : Prop :=
  b.Reserving ∧ c.Reserving ∧ b.assetId = c.assetId ∧ b.startsOn ≤ c.endsOn ∧ c.startsOn ≤ b.endsOn

theorem Booking.Conflicts.symm {b c : Booking} (h : b.Conflicts c) : c.Conflicts b :=
  ⟨h.2.1, h.1, h.2.2.1.symm, h.2.2.2.2, h.2.2.2.1⟩

/-- The WHERE of the constraint selects the reserving bookings. -/
theorem reserving_selects (b : Booking) : reserving.selects b.toRow ↔ b.Reserving := by
  have heval : reserving.eval b.toRow =
      .ok (Truth.ofBool (decide (b.status = .confirmed ∨ b.status = .active))) := by
    have hget : b.toRow.get "status" = .enum b.status.value := rfl
    simp only [reserving, Cond.eval, Sql.Scalar.eval, hget, bind, Except.bind]
    cases b.status <;> rfl
  rw [Cond.selects, heval, Booking.Reserving]
  by_cases h : b.status = .confirmed ∨ b.status = .active <;> simp [h, Truth.ofBool]

theorem excluded_iff {b c : Booking} (hb : b.startsOn ≤ b.endsOn) (hc : c.startsOn ≤ c.endsOn) :
    Sql.excluded "asset_id" "starts_on" "ends_on" reserving b.toRow c.toRow ↔ b.Conflicts c := by
  have hkey : (b.toRow.get "asset_id").sameKey (c.toRow.get "asset_id") ↔ b.assetId = c.assetId :=
    sameKey_uuid
  have hdays : Sql.overlapping
      (Sql.daterange (b.toRow.get "starts_on") (b.toRow.get "ends_on"))
      (Sql.daterange (c.toRow.get "starts_on") (c.toRow.get "ends_on")) ↔
        b.startsOn ≤ c.endsOn ∧ c.startsOn ≤ b.endsOn :=
    Sql.overlapping_iff hb hc
  rw [Sql.excluded, reserving_selects, reserving_selects, hkey, hdays, Booking.Conflicts]

/-- Over bookings with ordered dates, the constraint says that none conflict. -/
theorem noOverlap_iff {db : Database} (hdates : ∀ b ∈ db.bookings, b.startsOn ≤ b.endsOn) :
    exBookingsNoActiveAssetOverlap.Holds db.data "bookings" ↔
      db.bookings.Pairwise fun b c => ¬ b.Conflicts c := by
  have hdefined : ∀ r ∈ db.data "bookings", Sql.rangeDefined "starts_on" "ends_on" reserving r := by
    intro r hr _
    rw [data_bookings] at hr
    obtain ⟨b, hb, rfl⟩ := List.mem_map.mp hr
    obtain ⟨range, hrange, -⟩ := Sql.daterange_of_le (hdates b hb)
    show (Sql.daterange (.date b.startsOn) (.date b.endsOn)).isOk
    rw [hrange]
    rfl
  show (_ ∧ (db.data "bookings").Pairwise _) ↔ _
  rw [and_iff_right hdefined, data_bookings, List.pairwise_map]
  refine ⟨?_, ?_⟩
  · intro h
    apply h.imp_of_mem
    intro b c hb hc hne hconf
    exact hne ((excluded_iff (hdates b hb) (hdates c hc)).mpr hconf)
  · intro h
    apply h.imp_of_mem
    intro b c hb hc hne hexcl
    exact hne ((excluded_iff (hdates b hb) (hdates c hc)).mp hexcl)

-- ============================================================================
-- New reservations
-- ============================================================================

/-- `INSERT INTO bookings` of one row. -/
def Tables.insertBooking (db : Database) (b : Booking) : Database :=
  { db with bookings := db.bookings ++ [b] }

/-- The booking, confirmed. -/
def Booking.confirm (b : Booking) : Booking := { b with status := .confirmed }

/-- `UPDATE bookings SET status = 'confirmed' WHERE id = …` -/
def Tables.confirmBooking (db : Database) (id : UUID) : Database :=
  { db with bookings := db.bookings.map fun b => if b.id = id then b.confirm else b }

/-- A reserving booking conflicts with a stored one exactly when the asset is
    booked during its dates. -/
theorem exists_conflict_iff {db : Database} {a : Asset} {b : Booking} (hasset : b.assetId = a.id)
    (hres : b.Reserving) :
    (∃ c ∈ db.bookings, c.Conflicts b) ↔ BookedDuring db a b.startsOn b.endsOn := by
  refine ⟨?_, ?_⟩
  · rintro ⟨c, hc, hcres, -, hsame, hlo, hhi⟩
    exact ⟨c, hc, hsame.trans hasset, hcres, hlo, hhi⟩
  · rintro ⟨c, hc, hsame, hcres, hlo, hhi⟩
    exact ⟨c, hc, hcres, hres, hsame.trans hasset.symm, hlo, hhi⟩

/-- A reserving booking can be inserted exactly when its asset is free. -/
theorem insert_noOverlap_iff {db : Database} (hvalid : db.Valid) {a : Asset} {b : Booking}
    (hasset : b.assetId = a.id) (hres : b.Reserving) (hdates : b.startsOn ≤ b.endsOn) :
    exBookingsNoActiveAssetOverlap.Holds (db.insertBooking b).data "bookings" ↔
      ¬ BookedDuring db a b.startsOn b.endsOn := by
  have hold := (noOverlap_iff hvalid.bookingDates).mp hvalid.noOverlap
  have hall : ∀ c ∈ (db.insertBooking b).bookings, c.startsOn ≤ c.endsOn := by
    intro c hc
    rcases List.mem_append.mp hc with hc | hc
    · exact hvalid.bookingDates c hc
    · rw [List.mem_singleton.mp hc]
      exact hdates
  rw [noOverlap_iff hall, ← exists_conflict_iff hasset hres]
  show (db.bookings ++ [b]).Pairwise _ ↔ _
  rw [List.pairwise_append]
  refine ⟨?_, ?_⟩
  · rintro ⟨-, -, hcross⟩ ⟨c, hc, hconf⟩
    exact hcross c hc b (List.mem_singleton_self b) hconf
  · intro hnone
    refine ⟨hold, List.pairwise_singleton _ _, ?_⟩
    intro c hc b' hb' hconf
    rw [List.mem_singleton.mp hb'] at hconf
    exact hnone ⟨c, hc, hconf⟩

/-- Replacing the one row with `p` keeps a symmetric relation pairwise exactly
    when the new row is related to every other one. -/
theorem pairwise_replace_iff {α : Type} {R : α → α → Prop} (hsymm : ∀ {x y}, R x y → R y x)
    {p : α → Prop} [DecidablePred p] {f : α → α} {rows : List α} (hold : rows.Pairwise R)
    (hone : rows.Pairwise fun x y => p x → ¬ p y) :
    (rows.map fun x => if p x then f x else x).Pairwise R ↔
      ∀ x ∈ rows, p x → ∀ y ∈ rows, ¬ p y → R (f x) y := by
  induction rows with
  | nil => simp
  | cons x rows ih =>
    obtain ⟨hx, hold⟩ := List.pairwise_cons.mp hold
    obtain ⟨hxone, hone⟩ := List.pairwise_cons.mp hone
    rw [List.map_cons, List.pairwise_cons, ih hold hone, List.forall_mem_map, List.forall_mem_cons]
    by_cases hp : p x
    · -- the head is replaced, no other row is
      have hrest : ∀ y ∈ rows, ¬ p y := fun y hy => hxone y hy hp
      simp +contextual [hp, hrest]
    · simp only [List.forall_mem_cons, hp, not_false_eq_true, forall_const, false_implies, true_and]
      refine ⟨?_, ?_⟩
      · rintro ⟨hhead, htail⟩ y hy hpy
        refine ⟨hsymm ?_, htail y hy hpy⟩
        have := hhead y hy
        rwa [if_pos hpy] at this
      · intro h
        refine ⟨?_, fun y hy hpy => (h y hy hpy).2⟩
        intro y hy
        by_cases hpy : p y
        · rw [if_pos hpy]
          exact hsymm (h y hy hpy).1
        · rw [if_neg hpy]
          exact hx y hy

/-- A pending booking can be confirmed exactly when its asset is free. -/
theorem confirm_noOverlap_iff {db : Database} (hvalid : db.Valid) {a : Asset} {b : Booking}
    (hb : b ∈ db.bookings) (hasset : b.assetId = a.id) (hpending : b.status = .pending) :
    exBookingsNoActiveAssetOverlap.Holds (db.confirmBooking b.id).data "bookings" ↔
      ¬ BookedDuring db a b.startsOn b.endsOn := by
  have hold := (noOverlap_iff hvalid.bookingDates).mp hvalid.noOverlap
  have hids := hvalid.bookingIds
  have hres : b.confirm.Reserving := .inl rfl
  have hall : ∀ c ∈ (db.confirmBooking b.id).bookings, c.startsOn ≤ c.endsOn := by
    intro c hc
    obtain ⟨x, hx, rfl⟩ := List.mem_map.mp hc
    have hdates := hvalid.bookingDates x hx
    by_cases hid : x.id = b.id
    · rw [if_pos hid]
      exact hdates
    · rw [if_neg hid]
      exact hdates
  have hone : db.bookings.Pairwise fun x y => x.id = b.id → ¬ y.id = b.id :=
    hids.imp fun hne hx hy => hne (hx.trans hy.symm)
  have hfree : BookedDuring db a b.startsOn b.endsOn ↔ ∃ c ∈ db.bookings, c.Conflicts b.confirm :=
    (exists_conflict_iff (b := b.confirm) hasset hres).symm
  rw [noOverlap_iff hall, hfree]
  show (db.bookings.map _).Pairwise _ ↔ _
  rw [pairwise_replace_iff (fun hxy hyx => hxy hyx.symm) hold hone]
  refine ⟨?_, ?_⟩
  · rintro hnone ⟨c, hc, hconf⟩
    -- the booking is pending, so a row that reserves is another one
    have hcb : c.id ≠ b.id := by
      intro hid
      have hcres := hconf.1
      rw [eq_of_key_eq hids hc hb hid, Booking.Reserving, hpending] at hcres
      rcases hcres with h | h <;> cases h
    exact hnone b hb rfl c hc hcb hconf.symm
  · intro hnone x hx hxb y hy _ hconf
    rw [eq_of_key_eq hids hx hb hxb] at hconf
    exact hnone ⟨y, hy, hconf.symm⟩

-- ============================================================================
-- The clauses of the search
-- ============================================================================

/-- The window clause does not exclude the asset for `[s, e]`. -/
def WindowFree (db : Database) (a : Asset) (s e : Int) : Prop :=
  ∀ u, ((dateOverlapClauses s e).1 : BoundClause).eval db a u = true

/-- The booking clause does not exclude the asset for `[s, e]`. -/
def BookingFree (db : Database) (a : Asset) (s e : Int) : Prop :=
  ∀ u, ((dateOverlapClauses s e).2 : BoundClause).eval db a u = true

theorem windowFree_iff {db : Database} {a : Asset} {s e : Int} :
    WindowFree db a s e ↔ ¬ BlockedDuring db a s e := by
  simp [WindowFree, dateOverlapClauses, Clause.eval, BlockedDuring]

theorem bookingFree_iff {db : Database} {a : Asset} {s e : Int} :
    BookingFree db a s e ↔ ¬ BookedDuring db a s e := by
  simp [BookingFree, dateOverlapClauses, Clause.eval, BookedDuring]

/-- A range is free when each of its days is. -/
theorem not_during_iff_day {P : Int → Prop} {s e : Int} {during : Prop}
    (h : during ↔ ∃ d, s ≤ d ∧ d ≤ e ∧ P d) : ¬ during ↔ ∀ d, s ≤ d → d ≤ e → ¬ P d := by
  rw [h]
  push Not
  rfl

theorem windowFree_day {db : Database} (hvalid : db.Valid) (a : Asset) (d : Int) :
    WindowFree db a d d ↔ ¬ BlockedOn db a.id d := by
  rw [windowFree_iff, not_during_iff_day (blockedDuring_iff_day hvalid a (le_refl d))]
  exact ⟨fun h => h d (le_refl d) (le_refl d), fun h x hx hx' => le_antisymm hx' hx ▸ h⟩

theorem bookingFree_day {db : Database} (hvalid : db.Valid) (a : Asset) (d : Int) :
    BookingFree db a d d ↔ ¬ BookedOn db a.id d := by
  rw [bookingFree_iff, not_during_iff_day (bookedDuring_iff_day hvalid a (le_refl d))]
  exact ⟨fun h => h d (le_refl d) (le_refl d), fun h x hx hx' => le_antisymm hx' hx ▸ h⟩

/-- Search availability agrees with the double-booking constraint.  The booking
    clause passes an asset for `[s, e]` iff none of these days is booked, iff a
    confirmed or active booking of them can be inserted, iff a pending one can be
    confirmed; the window clause passes it iff no day is blocked; and both pass
    a range iff they pass each of its days. -/
theorem availability_agrees {db : Database} (hvalid : db.Valid) (a : Asset) {s e : Int}
    (hse : s ≤ e) :
    (BookingFree db a s e ↔ ∀ d, s ≤ d → d ≤ e → ¬ BookedOn db a.id d) ∧
    (∀ b : Booking, b.assetId = a.id → b.Reserving → b.startsOn = s → b.endsOn = e →
      (exBookingsNoActiveAssetOverlap.Holds (db.insertBooking b).data "bookings" ↔
        BookingFree db a s e)) ∧
    (∀ b ∈ db.bookings, b.assetId = a.id → b.status = .pending → b.startsOn = s → b.endsOn = e →
      (exBookingsNoActiveAssetOverlap.Holds (db.confirmBooking b.id).data "bookings" ↔
        BookingFree db a s e)) ∧
    (WindowFree db a s e ↔ ∀ d, s ≤ d → d ≤ e → ¬ BlockedOn db a.id d) ∧
    (WindowFree db a s e ∧ BookingFree db a s e ↔
      ∀ d, s ≤ d → d ≤ e → WindowFree db a d d ∧ BookingFree db a d d) := by
  have hbooking : BookingFree db a s e ↔ ∀ d, s ≤ d → d ≤ e → ¬ BookedOn db a.id d := by
    rw [bookingFree_iff, not_during_iff_day (bookedDuring_iff_day hvalid a hse)]
  have hwindow : WindowFree db a s e ↔ ∀ d, s ≤ d → d ≤ e → ¬ BlockedOn db a.id d := by
    rw [windowFree_iff, not_during_iff_day (blockedDuring_iff_day hvalid a hse)]
  refine ⟨hbooking, ?_, ?_, hwindow, ?_⟩
  · intro b hasset hres hs he
    subst hs he
    rw [insert_noOverlap_iff hvalid hasset hres hse, bookingFree_iff]
  · intro b hb hasset hpending hs he
    subst hs he
    rw [confirm_noOverlap_iff hvalid hb hasset hpending, bookingFree_iff]
  · rw [hwindow, hbooking]
    refine ⟨?_, ?_⟩
    · rintro ⟨hw, hb⟩ d hs he
      exact ⟨(windowFree_day hvalid a d).mpr (hw d hs he),
        (bookingFree_day hvalid a d).mpr (hb d hs he)⟩
    · intro h
      exact ⟨fun d hs he => (windowFree_day hvalid a d).mp (h d hs he).1,
        fun d hs he => (bookingFree_day hvalid a d).mp (h d hs he).2⟩

/-- The days of the sample's completed booking can be booked again. -/
theorem availability_agrees_sample :
    exBookingsNoActiveAssetOverlap.Holds
      (sampleDb.insertBooking { sampleBooking with id := 31, status := .confirmed }).data
      "bookings" := by
  obtain ⟨hdays, hinsert, -, -, -⟩ := availability_agrees sampleDb_valid
    (sampleAsset 12 .lagos 5000) (s := 200) (e := 203) (by omega)
  rw [hinsert _ rfl (.inl rfl) rfl rfl, hdays]
  rintro d - - ⟨b, hb, -, hres, -⟩
  obtain rfl := List.mem_singleton.mp hb
  rcases hres with hres | hres <;> cases hres

end Vouch
