/-
  Vouch.App.Paging

  Keyset pages of the inventory against offset pagination.

  Over fixed tables, page `j` of a traversal is the slice of the sorted listing
  at the sum of the limits before it (`offset_pages`), so a client that keeps
  one limit needs the quotient rounded up (`request_count`).  A cursor the
  service never issued resumes at the position it names: the traversal returns
  a suffix of the same listing, and nothing else (`forged_cursor_suffix`).
-/

import Vouch.App.Handled
import Vouch.Keyset.Slice

namespace Vouch

open Py (Python UUID Instant Timestamptz)
open Keyset (Page lookAhead pageAfter collect slices offset rowsOf Done)

-- ============================================================================
-- Positions that cursors name
-- ============================================================================

/-- The position a cursor names, whoever made it. -/
def PointsAt (py : Python) (cursor : String) (createdAt : Timestamptz) (id : UUID) : Prop :=
  ∃ createdAtIso idStr t, decodeCursor? py cursor = some (createdAtIso, idStr) ∧
    py.fromisoformat createdAtIso = some t ∧ py.parseUUID idStr = some id ∧
    py.toUtc t = some createdAt

/-- The key lies behind the position. -/
def Behind (createdAt : Timestamptz) (id : UUID) (k : Position) : Prop :=
  createdAt < Timestamptz.ofInstant (ofLex k).1 ∨
    createdAt = Timestamptz.ofInstant (ofLex k).1 ∧ id < (ofLex k).2

instance (createdAt : Timestamptz) (id : UUID) : DecidablePred (Behind createdAt id) :=
  fun _ => inferInstanceAs (Decidable (_ ∨ _))

/-- What lies behind a position does so along the whole order. -/
theorem Behind.trans {createdAt : Timestamptz} {id : UUID} {k l : Position}
    (h : Behind createdAt id k) (hkl : k < l) : Behind createdAt id l := by
  rcases Prod.Lex.lt_iff.mp hkl with hlt | ⟨heq, hlt⟩
  · have hle : Timestamptz.ofInstant (ofLex k).1 ≤ Timestamptz.ofInstant (ofLex l).1 :=
      Timestamptz.ofInstant_le.mpr (le_of_lt hlt)
    have hne : Timestamptz.ofInstant (ofLex k).1 ≠ Timestamptz.ofInstant (ofLex l).1 :=
      fun h => ne_of_lt hlt (Timestamptz.ofInstant_inj.mp h)
    have hstrict := lt_of_le_of_ne hle hne
    rcases h with h | ⟨h, -⟩
    · exact .inl (h.trans hstrict)
    · exact .inl (h ▸ hstrict)
  · rw [Behind, ← heq]
    rcases h with h | ⟨h, hid⟩
    · exact .inl h
    · exact .inr ⟨h, hid.trans hlt⟩

/-- The clause of a cursor selects the rows behind the position it names. -/
theorem means_pointsAt {py : Python} {cursor : String} {createdAt : Timestamptz} {id : UUID}
    (h : PointsAt py cursor createdAt id) (db : Database) :
    ∃ cs, cursorClauses py (some cursor) = .ok cs ∧
      Means py db cs fun a => Behind createdAt id (assetKey a) := by
  obtain ⟨createdAtIso, idStr, t, hdecode, ht, hid, hz⟩ := h
  refine ⟨[.afterCursor t id], ?_, ?_⟩
  · simp only [cursorClauses, cursorClause, decodeCursor, hdecode, ht, hid, bind, Except.bind,
      Except.map]
  · refine Means.single (b := .afterCursor createdAt id) (by rw [Clause.bind, hz]) fun a _ => ?_
    simp only [Clause.eval, Bool.and_eq_true, Bool.not_eq_true', decide_eq_true_eq,
      Bool.and_eq_false_iff, decide_eq_false_iff_not, Behind, assetKey, ofLex_toLex, not_le]
    refine ⟨?_, ?_⟩
    · rintro ⟨hle, hne⟩
      rcases lt_or_eq_of_le hle with hlt | heq
      · exact .inl hlt
      · exact .inr ⟨heq, hne.resolve_left fun h => h heq.symm⟩
    · rintro (hlt | ⟨heq, hlt⟩)
      · exact ⟨le_of_lt hlt, .inl fun h => absurd h.symm (ne_of_lt hlt)⟩
      · exact ⟨le_of_eq heq, .inr hlt⟩

-- ============================================================================
-- Traversals of fixed tables
-- ============================================================================

section Traversal

variable {py : Python} (hpy : py.RoundTrip) {db : Database} (hids : db.AssetIdsUnique)
  (hvendor : db.VendorsResolve) {f : Filters} (hf : f.Fits)

include hpy hids hvendor hf

/-- The first page of a cursor that names a position. -/
theorem search_pointsAt {limit : ℕ} (hpos : 1 ≤ limit) (hmax : limit ≤ maxPageLimit)
    {cursor : String} {createdAt : Timestamptz} {id : UUID} (h : PointsAt py cursor createdAt id) :
    (searchPublicAssets py db ⟨f, limit, some cursor⟩).result.map AssetPage.toPage =
      .ok ((lookAhead assetKey limit
        ((admitted db f).filter fun a => Behind createdAt id (assetKey a))).mapNext
          (cursorOf py)) := by
  obtain ⟨cs, hcs, hmeans⟩ := means_pointsAt h db
  rw [searchPublicAssets_eq hcs hmax]
  simp only [Select.run, execute_admitted hpy hids hvendor hf hmeans, Except.mapError, bind,
    Except.bind]
  rw [buildPage_eq hpos, Keyset.lookAhead_take]

variable {limit : ℕ → ℕ} (hlimit : ∀ i, 1 ≤ limit i ∧ limit i ≤ maxPageLimit)

include hlimit

/-- A traversal whose first request returns the first page of a suffix of the
    listing receives the slices of that suffix. -/
theorem collect_slices (n : ℕ) {start : Option String} {view : List Asset}
    (hview : view <:+ admitted db f)
    (hstart : searchRequest py db f limit 0 start =
      .ok ((lookAhead assetKey (limit 0) view).mapNext (cursorOf py))) :
    collect (searchRequest py db f limit) n 0 start =
      .ok ((slices assetKey limit n 0 view).map (Page.mapNext (cursorOf py))) := by
  apply Keyset.collect_eq_slices (ordered_admitted hids f) (fun i => (hlimit i).1) _ n 0 hview
    hstart
  intro i c
  exact search_admitted hpy hids hvendor hf (hlimit i).1 (hlimit i).2 (some c)

/-- Entered without a cursor, it receives the slices of the whole listing. -/
theorem collect_slices_admitted (n : ℕ) :
    collect (searchRequest py db f limit) n 0 none =
      .ok ((slices assetKey limit n 0 (admitted db f)).map (Page.mapNext (cursorOf py))) := by
  apply collect_slices hpy hids hvendor hf hlimit n (List.suffix_refl _)
  have hfirst := search_admitted hpy hids hvendor hf (hlimit 0).1 (hlimit 0).2 none
  rw [pageAfter, Keyset.after_none_eq, Keyset.lookAhead_take] at hfirst
  exact hfirst

/-- **Offset pagination.**  Request `j` of a traversal is made exactly when rows
    are left behind the full pages before it, or it is the first, and returns
    `LIMIT limit j OFFSET limit 0 + … + limit (j - 1)` of the listing. -/
theorem offset_pages :
    ∃ n ps, collect (searchRequest py db f limit) n 0 none = .ok ps ∧ Done ps ∧
      ∀ j, ps[j]?.map Page.items =
        if j = 0 ∨ offset limit 0 j < (admitted db f).length then
          some (((admitted db f).drop (offset limit 0 j)).take (limit j))
        else none := by
  have hpos : ∀ i, 1 ≤ limit i := fun i => (hlimit i).1
  refine ⟨_, _, collect_slices_admitted hpy hids hvendor hf hlimit ((admitted db f).length + 1),
    Keyset.done_map_mapNext.mpr (Keyset.rowsOf_slices hpos 0 (Nat.lt_succ_self _)).1, fun j => ?_⟩
  have hitems : Page.items ∘ Page.mapNext (cursorOf py) =
      (Page.items : Page Asset Position → List Asset) := rfl
  rw [List.getElem?_map, Option.map_map, hitems, Keyset.slices_getElem?, Nat.zero_add]
  congr 1
  rw [eq_iff_iff]
  -- the fuel of the loop is no limit: each page before the last holds a row
  have hle := Keyset.le_offset hpos 0 j
  refine ⟨fun h => h.2, fun h => ⟨?_, h⟩⟩
  rcases h with rfl | h
  · omega
  · omega

/-- **Forged cursors.**  A traversal entered with any cursor that names a
    position ends, and holds a suffix of the listing: the rows behind that
    position. -/
theorem forged_cursor_suffix {cursor : String} {createdAt : Timestamptz} {id : UUID}
    (hcursor : PointsAt py cursor createdAt id) :
    ∃ n ps, collect (searchRequest py db f limit) n 0 (some cursor) = .ok ps ∧ Done ps ∧
      rowsOf ps <:+ admitted db f ∧
      ∀ a ∈ admitted db f, a ∈ rowsOf ps ↔ Behind createdAt id (assetKey a) := by
  have hord := ordered_admitted hids f
  have hview := Keyset.filter_suffix hord (Q := Behind createdAt id) fun _ _ hkl h => h.trans hkl
  have hfirst := search_pointsAt hpy hids hvendor hf (hlimit 0).1 (hlimit 0).2 hcursor
  obtain ⟨hdone, hrows⟩ := @Keyset.rowsOf_slices _ _ assetKey limit (fun i => (hlimit i).1) _ 0 _
    (Nat.lt_succ_self ((admitted db f).filter fun a => Behind createdAt id (assetKey a)).length)
  refine ⟨_, _, collect_slices hpy hids hvendor hf hlimit _ hview hfirst,
    Keyset.done_map_mapNext.mpr hdone, ?_, ?_⟩
  · rw [Keyset.rowsOf_map_mapNext, hrows]
    exact hview
  · intro a ha
    rw [Keyset.rowsOf_map_mapNext, hrows, List.mem_filter, decide_eq_true_iff]
    exact and_iff_right ha

end Traversal

/-- The sample, first one listing and then two at a time. -/
theorem offset_pages_sample :
    ∃ n ps, collect (searchRequest Py.reference sampleDb {} fun i => i % 2 + 1) n 0 none = .ok ps ∧
      Done ps ∧ ∀ j, ps[j]?.map Page.items =
        if j = 0 ∨ offset (fun i => i % 2 + 1) 0 j < (admitted sampleDb {}).length then
          some (((admitted sampleDb {}).drop (offset (fun i => i % 2 + 1) 0 j)).take (j % 2 + 1))
        else none :=
  offset_pages Py.reference_roundTrip sampleDb_valid.keysHold.assetIdsUnique
    sampleDb_valid.keysHold.vendorsResolve (by decide)
    fun i => ⟨by omega, by show i % 2 + 1 ≤ 100; omega⟩

/-- A position between the sample's listings, written in another time zone. -/
def forgedCursor : String :=
  encodeCursor "0001-01-01T01:00:00.005000+01:00" "00000000-0000-0000-0000-00000000000b"

theorem pointsAt_forgedCursor :
    PointsAt Py.reference forgedCursor (Timestamptz.ofInstant 5000) 11 := by
  refine ⟨Py.Str.ofString "0001-01-01T01:00:00.005000+01:00",
    Py.Str.ofString "00000000-0000-0000-0000-00000000000b",
    ⟨3600005000, some 3600000000, by simp⟩, ?_, ?_, ?_, ?_⟩
  · decide +kernel
  · decide +kernel
  · decide +kernel
  · decide +kernel

/-- The sample from there. -/
theorem forged_cursor_suffix_sample :
    ∃ n ps, collect (searchRequest Py.reference sampleDb {} fun _ => 1) n 0 (some forgedCursor) =
        .ok ps ∧ Done ps ∧ rowsOf ps <:+ admitted sampleDb {} ∧
      ∀ a ∈ admitted sampleDb {},
        a ∈ rowsOf ps ↔ Behind (Timestamptz.ofInstant 5000) 11 (assetKey a) :=
  forged_cursor_suffix Py.reference_roundTrip sampleDb_valid.keysHold.assetIdsUnique
    sampleDb_valid.keysHold.vendorsResolve (by decide) (fun _ => ⟨by omega, by decide⟩)
    pointsAt_forgedCursor

-- ============================================================================
-- The endpoint
-- ============================================================================

/-- An accepted request is the search with its items projected. -/
theorem listRequest_eq_search (py : Python) (db : Database) {p : ListParams}
    (haccepted : p.Accepted) (i : ℕ) (cursor : Option String) :
    listRequest py (fun _ => db) (fun _ => p) i cursor =
      (searchRequest py db p.toFilters (fun _ => p.limit) i cursor).map
        (Page.mapItems PublicAsset.modelValidate) := by
  have hvalid : validateRequest { p with cursor := cursor } = .ok () :=
    validateRequest_eq_ok_iff.mpr ⟨haccepted.city, haccepted.dates⟩
  rw [listRequest, searchRequest, listAssets_eq hvalid]
  show Except.map PublicPage.toPage (Except.map _ _) = Except.map _ (Except.map _ _)
  cases (searchPublicAssets py db ⟨p.toFilters, p.limit, cursor⟩).result with
  | error e => rfl
  | ok page => rfl

/-- The endpoint returns the projected slices of the listing. -/
theorem collect_listRequest_slices {py : Python} (hpy : py.RoundTrip) {db : Database}
    (hids : db.AssetIdsUnique) (hvendor : db.VendorsResolve) {p : ListParams}
    (haccepted : p.Accepted) (hf : p.toFilters.Fits) (n : ℕ) :
    collect (listRequest py (fun _ => db) fun _ => p) n 0 none =
      .ok (((slices assetKey (fun _ => p.limit) n 0 (admitted db p.toFilters)).map
        (Page.mapNext (cursorOf py))).map (Page.mapItems PublicAsset.modelValidate)) := by
  rw [Keyset.collect_mapItems (listRequest_eq_search py db haccepted),
    collect_slices_admitted hpy hids hvendor hf fun _ => ⟨p.one_le_limit, p.limit_le⟩]
  rfl

/-- **The number of requests.**  A client that pages through `GET /assets` to the
    end, with the same parameters each time, makes one request for each started
    `limit` of matching assets, and one if there are none. -/
theorem request_count {py : Python} (hpy : py.RoundTrip) {db : Database}
    (hids : db.AssetIdsUnique) (hvendor : db.VendorsResolve) {p : ListParams}
    (haccepted : p.Accepted) (hf : p.toFilters.Fits) :
    ∃ n ps, collect (listRequest py (fun _ => db) fun _ => p) n 0 none = .ok ps ∧ Done ps ∧
      ps.length = max 1 ((admitted db p.toFilters).length ⌈/⌉ p.limit) ∧
      rowsOf ps = (admitted db p.toFilters).map PublicAsset.modelValidate := by
  have hfuel := Nat.lt_succ_self (admitted db p.toFilters).length
  obtain ⟨hdone, hrows⟩ := @Keyset.rowsOf_slices _ _ assetKey (fun _ => p.limit)
    (fun _ => p.one_le_limit) _ 0 _ hfuel
  refine ⟨(admitted db p.toFilters).length + 1, _,
    collect_listRequest_slices hpy hids hvendor haccepted hf _, ?_, ?_, ?_⟩
  · rw [Keyset.done_map_mapItems, Keyset.done_map_mapNext]
    exact hdone
  · rw [List.length_map, List.length_map]
    exact Keyset.length_slices_const p.one_le_limit 0 hfuel
  · rw [Keyset.rowsOf_map_mapItems, Keyset.rowsOf_map_mapNext, hrows]

/-- A request for two items a page. -/
def pairRequest : ListParams := { limit := 2 }

/-- The three listings of the sample take two of them. -/
theorem request_count_sample :
    ∃ n ps, collect (listRequest Py.reference (fun _ => sampleDb) fun _ => pairRequest) n 0 none =
        .ok ps ∧ Done ps ∧
      ps.length = max 1 ((admitted sampleDb pairRequest.toFilters).length ⌈/⌉ pairRequest.limit) ∧
      rowsOf ps = (admitted sampleDb pairRequest.toFilters).map PublicAsset.modelValidate :=
  request_count Py.reference_roundTrip sampleDb_valid.keysHold.assetIdsUnique
    sampleDb_valid.keysHold.vendorsResolve ⟨by simp [pairRequest], .inl ⟨rfl, rfl⟩⟩ (by decide)

end Vouch
