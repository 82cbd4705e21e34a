/-
  Vouch.App.Traversal

  A client that pages through the inventory.

  `search_eq` is the step: over tables with resolving keys, one call of
  `search_public_assets` returns the look-ahead page of the listing after the
  position its cursor encodes.  Runs of calls then follow from `Keyset.Run`.
-/

import Vouch.App.Listing
import Vouch.App.Routes
import Vouch.Keyset.Run
import Vouch.Py.Reference

namespace Vouch

open Py (Python UUID Instant Datetime Timestamptz)
open Keyset (Page After Ordered lookAhead after pageAfter collect pages rowsOf Done)

-- ============================================================================
-- Cursors and positions
-- ============================================================================

/-- A position in the inventory order. -/
abbrev Position := Instant ×ₗ UUID

/-- The cursor of a position. -/
def cursorOf (py : Python) (k : Position) : String :=
  encodeCursor (py.isoformat (Datetime.ofInstant (ofLex k).1)) (py.strUUID (ofLex k).2)

/-- An `AssetPage` as a page of the pager library. -/
def AssetPage.toPage (p : AssetPage) : Page Asset String := ⟨p.items, p.nextCursor⟩

/-- The page a request at a position reads. -/
def fetch (db : Database) (f : Filters) (limit : ℕ) (c : Option Position) : Page Asset Position :=
  lookAhead assetKey limit ((after assetKey c (listing db f)).take (limit + 1))

/-- Parsing the cursor of a position gives the clause of that position. -/
theorem cursorClause_cursorOf {py : Python} (hpy : py.RoundTrip) (k : Position) :
    cursorClause py (cursorOf py k) =
      .ok (.afterCursor (Datetime.ofInstant (ofLex k).1) (ofLex k).2) := by
  have hdt := hpy.fromisoformat_isoformat (Datetime.ofInstant (ofLex k).1) (by
    simp [Datetime.ofInstant])
  have hid := hpy.parseUUID_strUUID (ofLex k).2
  simp only [cursorClause, cursorOf, decodeCursor_encodeCursor, bind, Except.bind, hdt, hid]

/-- `created_at >= t AND NOT (created_at = t AND id <= u)` selects the rows
    after `(t, u)` in the sort order. -/
theorem means_afterCursor {py : Python} {db : Database} (k : Position) :
    Means py db [.afterCursor (Datetime.ofInstant (ofLex k).1) (ofLex k).2]
      fun a => After (some k) (assetKey a) := by
  refine Means.single (b := .afterCursor (Timestamptz.ofInstant (ofLex k).1) (ofLex k).2)
    (by simp [Clause.bind]) fun a _ => ?_
  have hlex : k < assetKey a ↔ (ofLex k).1 < a.createdAt ∨
      (ofLex k).1 = a.createdAt ∧ (ofLex k).2 < a.id := Prod.Lex.lt_iff
  simp only [Clause.eval, Bool.and_eq_true, Bool.not_eq_true', decide_eq_true_eq,
    Bool.and_eq_false_iff, decide_eq_false_iff_not, Timestamptz.ofInstant_le,
    Timestamptz.ofInstant_inj, Keyset.after_some, hlex, not_le]
  refine ⟨?_, ?_⟩
  · rintro ⟨hle, hne⟩
    rcases lt_or_eq_of_le hle with hlt | heq
    · exact .inl hlt
    · exact .inr ⟨heq, hne.resolve_left fun h => h heq.symm⟩
  · rintro (hlt | ⟨heq, hlt⟩)
    · exact ⟨le_of_lt hlt, .inl fun h => absurd h.symm (ne_of_lt hlt)⟩
    · exact ⟨le_of_eq heq, .inr hlt⟩

-- ============================================================================
-- One call
-- ============================================================================

/-- Building the page of fetched rows is the library's look-ahead. -/
theorem buildPage_eq {py : Python} {limit : ℕ} (hpos : 0 < limit) (rows : List Asset) :
    (buildPage py limit rows).map AssetPage.toPage =
      .ok ((lookAhead assetKey limit rows).mapNext (cursorOf py)) := by
  rw [buildPage, lookAhead]
  by_cases hlen : limit < rows.length
  · rw [if_pos hlen, if_pos hlen]
    have hne : rows.take limit ≠ [] := by
      intro h
      have := congrArg List.length h
      rw [List.length_take, List.length_nil] at this
      omega
    rw [List.getLast?_eq_some_getLast hne]
    rfl
  · rw [if_neg hlen, if_neg hlen]
    rfl

/-- **One call.**  With the cursor of a position, `search_public_assets`
    returns the page of the selected assets after that position. -/
theorem search_admitted {py : Python} (hpy : py.RoundTrip) {db : Database}
    (hids : db.AssetIdsUnique) (hvendor : db.VendorsResolve) {f : Filters} (hf : f.Fits)
    {limit : ℕ} (hpos : 1 ≤ limit) (hmax : limit ≤ maxPageLimit) (c : Option Position) :
    (searchPublicAssets py db ⟨f, limit, c.map (cursorOf py)⟩).result.map AssetPage.toPage =
      .ok ((pageAfter assetKey (admitted db f) limit c).mapNext (cursorOf py)) := by
  -- the clauses of the cursor select the rows after its position
  obtain ⟨cs, hcs, hmeans⟩ : ∃ cs, cursorClauses py (c.map (cursorOf py)) = .ok cs ∧
      Means py db cs fun a => After c (assetKey a) := by
    cases c with
    | none => exact ⟨[], rfl, Means.nil⟩
    | some k =>
      refine ⟨_, ?_, means_afterCursor k⟩
      simp only [cursorClauses, Option.map_some, cursorClause_cursorOf hpy, Except.map]
  rw [searchPublicAssets_eq hcs hmax]
  simp only [Select.run, execute_admitted hpy hids hvendor hf hmeans, Except.mapError, bind,
    Except.bind]
  exact buildPage_eq hpos _

/-- With valid filters that is the page of the listing. -/
theorem search_eq {py : Python} (hpy : py.RoundTrip) {db : Database} (hids : db.AssetIdsUnique)
    (hvendor : db.VendorsResolve) {f : Filters} (hf : f.Valid) {limit : ℕ} (hpos : 1 ≤ limit)
    (hmax : limit ≤ maxPageLimit) (c : Option Position) :
    (searchPublicAssets py db ⟨f, limit, c.map (cursorOf py)⟩).result.map AssetPage.toPage =
      .ok ((fetch db f limit c).mapNext (cursorOf py)) := by
  rw [search_admitted hpy hids hvendor hf.fits hpos hmax c, hf.admitted_eq]
  rfl

theorem fetch_pageOf {db : Database} (hids : db.AssetIdsUnique) (f : Filters) {limit : ℕ}
    (hpos : 1 ≤ limit) (c : Option Position) :
    Keyset.PageOf assetKey (listing db f) limit c (fetch db f limit c) :=
  Keyset.pageOf_lookAhead (ordered_listing hids f) hpos c

-- ============================================================================
-- Requests of a client
-- ============================================================================

/-- Request `i` to the endpoint, made with parameters `p i` and the cursor of
    the page before, over the tables `db i` as they are at that moment. -/
def listRequest (py : Python) (db : ℕ → Database) (p : ℕ → ListParams) (i : ℕ)
    (cursor : Option String) : Except Exc (Page PublicAsset String) :=
  (listAssets py (db i) { p i with cursor := cursor }).result.map PublicPage.toPage

/-- **One request.**  The endpoint returns the public projection of the page
    after the cursor's position. -/
theorem listRequest_eq {py : Python} (hpy : py.RoundTrip) {db : ℕ → Database}
    (hkeys : ∀ i, (db i).KeysHold) {f : Filters} (hf : f.Valid) {p : ℕ → ListParams}
    (hfilters : ∀ i, (p i).toFilters = f) (hcity : ∀ i, ∀ c ∈ (p i).city, c = "lagos")
    (i : ℕ) (c : Option Position) :
    listRequest py db p i (c.map (cursorOf py)) =
      .ok (((fetch (db i) f (p i).limit c).mapNext (cursorOf py)).mapItems
        PublicAsset.modelValidate) := by
  have hvalid : validateRequest { p i with cursor := c.map (cursorOf py) } = .ok () := by
    rw [validateRequest_eq_ok_iff]
    refine ⟨hcity i, ?_⟩
    show ((p i).toFilters.startsOn = none ∧ (p i).toFilters.endsOn = none) ∨ _
    rw [hfilters i]
    exact hf.dates
  have hsearch := search_eq hpy (hkeys i).assetIdsUnique (hkeys i).vendorsResolve hf
    (p i).one_le_limit (p i).limit_le c
  rw [← hfilters i] at hsearch ⊢
  rw [listRequest, listAssets_eq hvalid]
  show Except.map PublicPage.toPage (Except.map _ (searchPublicAssets py (db i) _).result) = _
  cases hr : (searchPublicAssets py (db i)
      ⟨(p i).toFilters, (p i).limit, c.map (cursorOf py)⟩).result with
  | error e =>
    rw [hr] at hsearch
    cases hsearch
  | ok page =>
    rw [hr] at hsearch
    have hpage : page.toPage = (fetch (db i) (p i).toFilters (p i).limit c).mapNext (cursorOf py) :=
      Except.ok.inj hsearch
    rw [← hpage]
    rfl

/-- Every request of a client succeeds and returns an encoded public page. -/
theorem collect_listRequest {py : Python} (hpy : py.RoundTrip) {db : ℕ → Database}
    (hkeys : ∀ i, (db i).KeysHold) {f : Filters} (hf : f.Valid) {p : ℕ → ListParams}
    (hfilters : ∀ i, (p i).toFilters = f) (hcity : ∀ i, ∀ c ∈ (p i).city, c = "lagos") (n : ℕ) :
    collect (listRequest py db p) n 0 none =
      .ok (((pages (fun i => fetch (db i) f (p i).limit) n 0 none).map
        (Page.mapItems PublicAsset.modelValidate)).map (Page.mapNext (cursorOf py))) := by
  rw [← Keyset.pages_mapItems]
  apply Keyset.collect_eq (c := none)
  intro i c
  exact listRequest_eq hpy hkeys hf hfilters hcity i c

-- ============================================================================
-- A whole traversal of fixed tables
-- ============================================================================

/-- Request `i` of a client that fixes the filters and may vary the limit. -/
def searchRequest (py : Python) (db : Database) (f : Filters) (limit : ℕ → ℕ) (i : ℕ)
    (cursor : Option String) : Except Exc (Page Asset String) :=
  (searchPublicAssets py db ⟨f, limit i, cursor⟩).result.map AssetPage.toPage

/-- One request per matching asset, plus one, exhausts the listing. -/
theorem pages_listing {db : Database} (hids : db.AssetIdsUnique) (f : Filters) {limit : ℕ → ℕ}
    (hpos : ∀ i, 1 ≤ limit i) :
    Done (pages (fun i => fetch db f (limit i)) ((listing db f).length + 1) 0 none) ∧
      rowsOf (pages (fun i => fetch db f (limit i)) ((listing db f).length + 1) 0 none) =
        listing db f := by
  have hpage : ∀ i c, Keyset.PageOf assetKey (listing db f) (limit i) c (fetch db f (limit i) c) :=
    fun i c => fetch_pageOf hids f (hpos i) c
  exact Keyset.pages_exhaust hpage (ordered_listing hids f)

/-- Every request of a traversal succeeds and returns an encoded page of the
    selected assets. -/
theorem collect_admitted {py : Python} (hpy : py.RoundTrip) {db : Database}
    (hids : db.AssetIdsUnique) (hvendor : db.VendorsResolve) {f : Filters} (hf : f.Fits)
    {limit : ℕ → ℕ} (hlimit : ∀ i, 1 ≤ limit i ∧ limit i ≤ maxPageLimit) (n : ℕ) :
    collect (searchRequest py db f limit) n 0 none =
      .ok ((pages (fun i => pageAfter assetKey (admitted db f) (limit i)) n 0 none).map
        (Page.mapNext (cursorOf py))) := by
  apply Keyset.collect_eq (c := none)
  intro i c
  exact search_admitted hpy hids hvendor hf (hlimit i).1 (hlimit i).2 c

section Traversal

variable {py : Python} (hpy : py.RoundTrip) {db : Database} (hids : db.AssetIdsUnique)
  (hvendor : db.VendorsResolve) {f : Filters} (hf : f.Valid) {limit : ℕ → ℕ}
  (hlimit : ∀ i, 1 ≤ limit i ∧ limit i ≤ maxPageLimit)

include hpy hids hvendor hf hlimit

/-- With valid filters these are the pages of the listing. -/
theorem collect_searchRequest (n : ℕ) :
    collect (searchRequest py db f limit) n 0 none =
      .ok ((pages (fun i => fetch db f (limit i)) n 0 none).map (Page.mapNext (cursorOf py))) := by
  rw [collect_admitted hpy hids hvendor hf.fits hlimit, hf.admitted_eq]
  rfl

/-- The client reaches a page without a cursor, and the pages hold the listing:
    every matching asset once, in `(created_at, id)` order.  A page with a cursor
    is full, and a cursor is missing exactly when nothing is left. -/
theorem traversal_eq_listing :
    ∃ n ps, collect (searchRequest py db f limit) n 0 none = .ok ps ∧ Done ps ∧
      rowsOf ps = listing db f ∧ Ordered assetKey (listing db f) ∧
      ∀ j p, ps[j]? = some p →
        (p.next ≠ none → p.items.length = limit j) ∧
        (p.next = none ↔ ∀ a ∈ listing db f, a ∈ rowsOf (ps.take (j + 1))) := by
  have hpage : ∀ i c, Keyset.PageOf assetKey (listing db f) (limit i) c (fetch db f (limit i) c) :=
    fun i c => fetch_pageOf hids f (hlimit i).1 c
  obtain ⟨hdone, hrows⟩ := pages_listing hids f fun i => (hlimit i).1
  refine ⟨_, _, collect_searchRequest hpy hids hvendor hf hlimit ((listing db f).length + 1),
    Keyset.done_map_mapNext.mpr hdone, ?_, ordered_listing hids f, ?_⟩
  · rw [Keyset.rowsOf_map_mapNext, hrows]
  · intro j p hp
    rw [List.getElem?_map] at hp
    obtain ⟨q, hq, rfl⟩ := Option.map_eq_some_iff.mp hp
    refine ⟨fun hnext => ?_, ?_⟩
    · -- a page that names a position is full
      obtain ⟨e, he⟩ : ∃ e, q.next = some e := by
        cases hqn : q.next with
        | none => simp [hqn] at hnext
        | some e => exact ⟨e, rfl⟩
      obtain ⟨c', hc'⟩ := Keyset.pageOf_getElem? hpage _ 0 none hq
      have hfull := hc'.full e he
      rwa [Nat.zero_add] at hfull
    · have hiff := Keyset.next_eq_none_iff_exhausted hpage _ 0 none hq
      simp only [Keyset.after_none, forall_const] at hiff
      rw [← List.map_take, Keyset.rowsOf_map_mapNext, ← hiff, Keyset.Page.mapNext_next,
        Option.map_eq_none_iff]

end Traversal

/-- The sample's three Lagos listings, one per page. -/
theorem traversal_eq_listing_sample :
    ∃ n ps, collect (searchRequest Py.reference sampleDb {} fun _ => 1) n 0 none = .ok ps ∧
      Done ps ∧ rowsOf ps = listing sampleDb {} ∧ Ordered assetKey (listing sampleDb {}) ∧
      ∀ j p, ps[j]? = some p →
        (p.next ≠ none → p.items.length = 1) ∧
        (p.next = none ↔ ∀ a ∈ listing sampleDb {}, a ∈ rowsOf (ps.take (j + 1))) :=
  traversal_eq_listing Py.reference_roundTrip sampleDb_valid.keysHold.assetIdsUnique
    sampleDb_valid.keysHold.vendorsResolve Filters.valid_empty fun _ => ⟨by omega, by decide⟩

end Vouch
