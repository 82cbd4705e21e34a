/-
  Vouch.App.Contention

  Paging while assets are reserved.

  Booking requests are decided between the requests of a client that pages
  through `GET /assets` for some dates.  An accepted booking takes its asset out
  of the listing and changes nothing else, so the listing only shrinks
  (`listing_booked_sublist`), and the client receives what lies between the
  listing it began with and the one it ends with (`traversal_during_reservations`).
-/

import Vouch.App.Reservations
import Vouch.App.Traversal
import Vouch.Keyset.Shrinking

namespace Vouch

open Py (Python)
open Keyset (PageOf collect pages rowsOf Done)

section Booked

variable {db : Database} (hvalid : db.Valid)

include hvalid

theorem valid_booked (requests : List Booking) (n : ℕ) : (booked db requests n).Valid := by
  obtain ⟨granted, hg⟩ := Machine.exists_granted bookings_admission hvalid requests n
  exact hg.valid

/-- One booking request leaves the listing, or takes from it. -/
theorem listing_book_sublist {f : Filters} (hf : f.Valid) (b : Booking) :
    (listing (db.book b) f).Sublist (listing db f) := by
  by_cases h : b.Insertable db
  · rw [book_of_insertable hvalid h, ← hf.admitted_eq, ← hf.admitted_eq,
      admitted_insertBooking db b hvalid.keysHold.assetIdsUnique]
    exact List.filter_sublist
  · rw [book_of_not_insertable hvalid h]

/-- The listing only shrinks. -/
theorem listing_booked_sublist {f : Filters} (hf : f.Valid) (requests : List Booking) {m n : ℕ}
    (hmn : m ≤ n) :
    (listing (booked db requests n) f).Sublist (listing (booked db requests m) f) := by
  induction n, hmn using Nat.le_induction with
  | base => exact .refl _
  | succ n _ ih =>
    cases hb : requests[n]? with
    | none =>
      rw [booked, Machine.stateAt_succ_of_none hb]
      exact ih
    | some b =>
      rw [booked, Machine.stateAt_succ hb]
      exact (listing_book_sublist (valid_booked hvalid requests n) hf b).trans ih

/-- **Paging while assets are reserved.**  Page `i` of a traversal is read after
    the first `n i` booking requests were decided.  The traversal ends; what it
    returns was all listed at its first page, and everything still listed at its
    last page is returned, each asset once and in order. -/
theorem traversal_during_reservations {py : Python} (hpy : py.RoundTrip) (requests : List Booking)
    {n : ℕ → ℕ} (hn : Monotone n) {f : Filters} (hf : f.Valid) {p : ℕ → ListParams}
    (hfilters : ∀ i, (p i).toFilters = f) (hcity : ∀ i, ∀ c ∈ (p i).city, c = "lagos") :
    ∃ k ps, collect (listRequest py (fun i => booked db requests (n i)) p) k 0 none = .ok ps ∧
      Done ps ∧
      (rowsOf ps).Sublist
        ((listing (booked db requests (n 0)) f).map PublicAsset.modelValidate) ∧
      ((listing (booked db requests (n (ps.length - 1))) f).map
        PublicAsset.modelValidate).Sublist (rowsOf ps) := by
  have hkeys : ∀ i, (booked db requests (n i)).KeysHold :=
    fun i => (valid_booked hvalid requests (n i)).keysHold
  have hpage : ∀ i c, PageOf assetKey (listing (booked db requests (n i)) f) (p i).limit c
      (fetch (booked db requests (n i)) f (p i).limit c) :=
    fun i c => fetch_pageOf (hkeys i).assetIdsUnique f (p i).one_le_limit c
  have hshrink : ∀ i, (listing (booked db requests (n (i + 1))) f).Sublist
      (listing (booked db requests (n i)) f) :=
    fun i => listing_booked_sublist hvalid hf requests (hn (Nat.le_succ i))
  have hdone := Keyset.pages_done_of_shrinking hpage hshrink
    ((listing (booked db requests (n 0)) f).length + 1) 0 none (by
      rw [Keyset.after_none_eq]
      omega)
  have hbetween := Keyset.pages_between hpage hshrink
    (fun i => ordered_listing (hkeys i).assetIdsUnique f) _ hdone
  refine ⟨(listing (booked db requests (n 0)) f).length + 1, _,
    collect_listRequest hpy hkeys hf hfilters hcity _, ?_, ?_, ?_⟩
  · rw [Keyset.done_map_mapNext, Keyset.done_map_mapItems]
    exact hdone
  · rw [Keyset.rowsOf_map_mapNext, Keyset.rowsOf_map_mapItems]
    exact hbetween.1.map _
  · rw [Keyset.rowsOf_map_mapNext, Keyset.rowsOf_map_mapItems, List.length_map, List.length_map]
    exact hbetween.2.map _

end Booked

/-- The first request is decided before the second page. -/
theorem traversal_during_reservations_sample :
    ∃ k ps, collect (listRequest Py.reference (fun i => booked sampleDb sampleRequests i)
        fun _ => { startsOn := some 99, endsOn := some 99, limit := 1 }) k 0 none = .ok ps ∧
      Done ps ∧
      (rowsOf ps).Sublist ((listing (booked sampleDb sampleRequests 0)
        { startsOn := some 99, endsOn := some 99 }).map PublicAsset.modelValidate) ∧
      ((listing (booked sampleDb sampleRequests (ps.length - 1))
        { startsOn := some 99, endsOn := some 99 }).map PublicAsset.modelValidate).Sublist
          (rowsOf ps) := by
  refine traversal_during_reservations sampleDb_valid Py.reference_roundTrip sampleRequests
    (n := fun i => i) monotone_id ?_ (fun _ => rfl) (fun _ => ?_)
  · exact ⟨by simp, .inr ⟨99, 99, rfl, rfl, le_refl _⟩, by simp, by simp⟩
  · simp

end Vouch
