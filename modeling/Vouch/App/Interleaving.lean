/-
  Vouch.App.Interleaving

  A client that pages while other transactions commit.

  Request `i` reads the tables `db i`, one committed snapshot.  Nothing is
  assumed about what was written between two requests, not even that the asset
  a cursor points at still exists: the pager library carries the run through
  positions in the key order alone.
-/

import Vouch.App.Traversal

namespace Vouch

open Py (Python UUID)
open Keyset (Page Ordered collect pages rowsOf Done)

/-- The position of a returned item. -/
def PublicAsset.position (x : PublicAsset) : Position := toLex (x.createdAt, x.id)

@[simp] theorem PublicAsset.position_modelValidate (a : Asset) :
    (PublicAsset.modelValidate a).position = assetKey a := rfl

/-- The asset satisfies the visibility rules and the filters. -/
def Offered (db : Database) (f : Filters) (a : Asset) : Prop :=
  a ∈ db.assets ∧ PubliclyVisible db a ∧ f.Matches db a

/-- An existing asset's id and `created_at` never change. -/
def KeysStable (db : ℕ → Database) : Prop :=
  ∀ i j, ∀ a ∈ (db i).assets, ∀ b ∈ (db j).assets, a.id = b.id → a.createdAt = b.createdAt

/-- What a client that received the pages `ps` from the snapshots `db` may rely on. -/
structure StableRun (db : ℕ → Database) (f : Filters) (ps : List (Page PublicAsset String)) :
    Prop where
  /-- The positions of the returned items increase strictly. -/
  increasing : (rowsOf ps).Pairwise fun x y => x.position < y.position
  /-- Every item of page `j` was offered by snapshot `j`. -/
  current : ∀ j q, ps[j]? = some q → ∀ x ∈ q.items,
    ∃ a, Offered (db j) f a ∧ x = PublicAsset.modelValidate a
  /-- A position offered by every snapshot read is returned exactly once. -/
  complete : Done ps → ∀ k, (∀ j < ps.length, ∃ a, Offered (db j) f a ∧ assetKey a = k) →
    (rowsOf ps).countP (fun x => x.position = k) = 1
  /-- With stable keys, no asset is returned twice. -/
  nodup : KeysStable db → (rowsOf ps).Pairwise fun x y => x.id ≠ y.id
  /-- With stable keys, an asset offered by every snapshot read is returned
      exactly once. -/
  completeId : KeysStable db → Done ps →
    ∀ u, (∀ j < ps.length, ∃ a, Offered (db j) f a ∧ a.id = u) →
      (rowsOf ps).countP (fun x => x.id = u) = 1

section Run

variable {db : ℕ → Database} {f : Filters} {ps : List (Page PublicAsset String)}

/-- With stable keys, the id of a returned item determines its position. -/
theorem position_of_id (hstable : KeysStable db)
    (hcurrent : ∀ j q, ps[j]? = some q → ∀ x ∈ q.items,
      ∃ a, Offered (db j) f a ∧ x = PublicAsset.modelValidate a)
    {i : ℕ} {b : Asset} (hb : b ∈ (db i).assets) {x : PublicAsset} (hx : x ∈ rowsOf ps)
    (hid : x.id = b.id) : x.position = assetKey b := by
  obtain ⟨q, hq, hxq⟩ := Keyset.mem_rowsOf.mp hx
  obtain ⟨j, hj⟩ := List.getElem?_of_mem hq
  obtain ⟨a, ha, rfl⟩ := hcurrent j q hj x hxq
  have hids : a.id = b.id := hid
  have hcreated : a.createdAt = b.createdAt := hstable j i a ha.1 b hb hids
  rw [PublicAsset.position_modelValidate, assetKey, assetKey, hids, hcreated]

/-- The facts about positions imply those about ids. -/
theorem StableRun.of_positions
    (hincreasing : (rowsOf ps).Pairwise fun x y => x.position < y.position)
    (hcurrent : ∀ j q, ps[j]? = some q → ∀ x ∈ q.items,
      ∃ a, Offered (db j) f a ∧ x = PublicAsset.modelValidate a)
    (hcomplete : Done ps → ∀ k, (∀ j < ps.length, ∃ a, Offered (db j) f a ∧ assetKey a = k) →
      (rowsOf ps).countP (fun x => x.position = k) = 1) :
    StableRun db f ps := by
  refine ⟨hincreasing, hcurrent, hcomplete, ?_, ?_⟩
  · intro hstable
    apply hincreasing.imp_of_mem
    intro x y hx hy hlt hid
    -- both items stem from snapshots, where the id fixes the position
    obtain ⟨q, hq, hyq⟩ := Keyset.mem_rowsOf.mp hy
    obtain ⟨j, hj⟩ := List.getElem?_of_mem hq
    obtain ⟨b, hb, rfl⟩ := hcurrent j q hj y hyq
    have hpos := position_of_id hstable hcurrent hb.1 hx hid
    rw [hpos, PublicAsset.position_modelValidate] at hlt
    exact lt_irrefl _ hlt
  · intro hstable hdone u hoffered
    have hlen : 0 < ps.length := by
      rw [List.length_pos_iff]
      rintro rfl
      exact Keyset.not_done_nil hdone
    obtain ⟨b, hb, rfl⟩ := hoffered 0 hlen
    have hone := hcomplete hdone (assetKey b) fun j hj => by
      obtain ⟨a, ha, hid⟩ := hoffered j hj
      refine ⟨a, ha, ?_⟩
      rw [assetKey, assetKey, hid, hstable j 0 a ha.1 b hb.1 hid]
    rw [← hone]
    apply List.countP_congr
    intro x hx
    rw [decide_eq_true_iff, decide_eq_true_iff]
    refine ⟨?_, ?_⟩
    · intro hid
      exact position_of_id hstable hcurrent hb.1 hx hid
    · intro hpos
      exact congrArg (fun k => (ofLex k).2) hpos

end Run

/-- The pages read from changing tables form a stable run. -/
theorem stableRun_pages {py : Python} {db : ℕ → Database} (hkeys : ∀ i, (db i).KeysHold)
    (f : Filters) {limit : ℕ → ℕ} (hpos : ∀ i, 1 ≤ limit i) (n : ℕ) :
    StableRun db f (((pages (fun i => fetch (db i) f (limit i)) n 0 none).map
      (Page.mapItems PublicAsset.modelValidate)).map (Page.mapNext (cursorOf py))) := by
  have hpage : ∀ i c, Keyset.PageOf assetKey (listing (db i) f) (limit i) c
      (fetch (db i) f (limit i) c) :=
    fun i c => fetch_pageOf (hkeys i).assetIdsUnique f (hpos i) c
  have hordered := Keyset.pages_ordered hpage n 0 none
  apply StableRun.of_positions
  · rw [Keyset.rowsOf_map_mapNext, Keyset.rowsOf_map_mapItems, List.pairwise_map]
    exact hordered
  · intro j q hq x hx
    rw [List.getElem?_map, List.getElem?_map, Option.map_map] at hq
    obtain ⟨r, hr, rfl⟩ := Option.map_eq_some_iff.mp hq
    obtain ⟨a, ha, rfl⟩ := List.mem_map.mp hx
    obtain ⟨c, hc⟩ := Keyset.pageOf_getElem? hpage n 0 none hr
    have hmem := ((hc.mem_iff a).mp ha).1
    rw [Nat.zero_add] at hmem
    exact ⟨a, mem_listing.mp hmem, rfl⟩
  · intro hdone k hoffered
    rw [Keyset.done_map_mapNext, Keyset.done_map_mapItems] at hdone
    rw [List.length_map, List.length_map] at hoffered
    obtain ⟨a, ha, rfl⟩ := Keyset.mem_of_persists hpage n 0 none (k := k) hdone trivial (by
      intro j hj
      obtain ⟨a, ha, hk⟩ := hoffered j hj
      rw [Nat.zero_add]
      exact ⟨a, mem_listing.mpr ha, hk⟩)
    rw [Keyset.rowsOf_map_mapNext, Keyset.rowsOf_map_mapItems, List.countP_map]
    exact hordered.countP_eq_one ha

/-- A client that pages through `GET /assets` with fixed filters, while any
    writes commit between its requests, receives a stable run of pages. -/
theorem stable_traversal {py : Python} (hpy : py.RoundTrip) {db : ℕ → Database}
    (hkeys : ∀ i, (db i).KeysHold) {f : Filters} (hf : f.Valid) {p : ℕ → ListParams}
    (hfilters : ∀ i, (p i).toFilters = f) (hcity : ∀ i, ∀ c ∈ (p i).city, c = "lagos") (n : ℕ) :
    ∃ ps, collect (listRequest py db p) n 0 none = .ok ps ∧ StableRun db f ps :=
  ⟨_, collect_listRequest hpy hkeys hf hfilters hcity n,
    stableRun_pages hkeys f (fun i => (p i).one_le_limit) n⟩

/-- The sample after asset 13 is deleted and asset 12 hidden. -/
def sampleDbLater : Database :=
  { sampleDb with
    assets := [{ sampleAsset 12 .lagos 5000 with listingStatus := .draft },
      sampleAsset 11 .lagos 5000, sampleAsset 10 .abuja 7000] }

theorem sampleDbLater_valid : sampleDbLater.Valid := by decide +kernel

/-- The asset of the first page's cursor is deleted before the second request. -/
theorem stable_traversal_sample :
    ∃ ps, collect (listRequest Py.reference
        (fun i => if i = 0 then sampleDb else sampleDbLater) fun _ => { limit := 1 }) 3 0 none =
        .ok ps ∧
      StableRun (fun i => if i = 0 then sampleDb else sampleDbLater) {} ps := by
  apply stable_traversal Py.reference_roundTrip _ Filters.valid_empty (fun _ => rfl) (by simp)
  intro i
  show (if i = 0 then sampleDb else sampleDbLater).KeysHold
  split
  · exact sampleDb_valid.keysHold
  · exact sampleDbLater_valid.keysHold

end Vouch
