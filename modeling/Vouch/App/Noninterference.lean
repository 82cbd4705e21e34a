/-
  Vouch.App.Noninterference

  What a client of the public endpoints can tell about the tables: nothing
  beyond the public projections of the visible assets and, for each of them,
  the days on which it is taken.

  Two databases that agree on these (`SameView`) may differ in every other row
  and column.  A statement is bound without looking at the tables, so it fails
  on both or on neither; where it runs, the projected rows are strictly ordered
  lists with the same members.
-/

import Vouch.App.Availability
import Vouch.App.Detail
import Vouch.App.Handled
import Vouch.App.Interleaving

namespace Vouch

open Py (Python UUID Datetime Decimal Timestamptz)
open Keyset (Ordered sortByKey)

-- ============================================================================
-- The public view
-- ============================================================================

/-- The projection of a publicly visible asset. -/
def Public (db : Database) (x : PublicAsset) : Prop :=
  ∃ a ∈ db.assets, PubliclyVisible db a ∧ PublicAsset.modelValidate a = x

/-- The day lies in a blocked window or in a confirmed or active booking. -/
def Taken (db : Database) (assetId : UUID) (d : Int) : Prop :=
  BlockedOn db assetId d ∨ BookedOn db assetId d

/-- The two databases show the same public assets, and the same taken days of
    each of them. -/
structure SameView (db db' : Database) : Prop where
  assets : ∀ x, Public db x ↔ Public db' x
  days : ∀ x, Public db x → ∀ d, Taken db x.id d ↔ Taken db' x.id d

/-- The public assets, as a list. -/
def publicAssets (db : Database) : List PublicAsset :=
  (db.assets.filter fun a => PubliclyVisible db a).map PublicAsset.modelValidate

theorem mem_publicAssets {db : Database} {x : PublicAsset} : x ∈ publicAssets db ↔ Public db x := by
  simp [publicAssets, Public, and_assoc]

theorem SameView.symm {db db' : Database} (h : SameView db db') : SameView db' db where
  assets x := (h.assets x).symm
  days x hx d := (h.days x ((h.assets x).mpr hx) d).symm

/-- The date filter passes an asset exactly when none of the days is taken. -/
theorem free_iff {db : Database} (hvalid : db.Valid) (a : Asset) {s e : Int} (hse : s ≤ e) :
    ¬ BlockedDuring db a s e ∧ ¬ BookedDuring db a s e ↔
      ∀ d, s ≤ d → d ≤ e → ¬ Taken db a.id d := by
  rw [not_during_iff_day (blockedDuring_iff_day hvalid a hse),
    not_during_iff_day (bookedDuring_iff_day hvalid a hse)]
  refine ⟨?_, ?_⟩
  · rintro ⟨hblocked, hbooked⟩ d hs he (h | h)
    · exact hblocked d hs he h
    · exact hbooked d hs he h
  · intro h
    exact ⟨fun d hs he hd => h d hs he (.inl hd), fun d hs he hd => h d hs he (.inr hd)⟩

section TwoRuns

variable {db db' : Database} (hvalid : db.Valid) (hvalid' : db'.Valid) (hview : SameView db db')

include hvalid hvalid' hview

/-- The filters decide alike on assets with one projection. -/
theorem selects_congr {py : Python} {f : Filters}
    (hdates : ∀ s ∈ f.startsOn, ∀ e ∈ f.endsOn, s ≤ e) {a a' : Asset}
    (ha : a ∈ db.assets) (hvis : PubliclyVisible db a)
    (hsame : PublicAsset.modelValidate a = PublicAsset.modelValidate a') (h : f.Selects py db a) :
    f.Selects py db' a' := by
  have hcategory : a.category.value = a'.category.value := congrArg PublicAsset.category hsame
  have hrate : a.dailyRate = a'.dailyRate := congrArg PublicAsset.dailyRate hsame
  have hid : a.id = a'.id := congrArg PublicAsset.id hsame
  refine ⟨?_, ?_, ?_, ?_⟩
  · rw [← hcategory]
    exact h.category
  · rw [← hrate]
    exact h.minDailyRate
  · rw [← hrate]
    exact h.maxDailyRate
  · intro s hs e he
    have hse : (s.val : Int) ≤ e.val := by exact_mod_cast hdates s hs e he
    have hfree := (free_iff hvalid a hse).mp (h.available s hs e he)
    rw [free_iff hvalid' a' hse, ← hid]
    intro d hsd hde htaken
    have hdays := hview.days _ ⟨a, ha, hvis, rfl⟩ d
    exact hfree d hsd hde (hdays.mpr htaken)

end TwoRuns

-- ============================================================================
-- Projected rows
-- ============================================================================

/-- Selected rows with the same projections give the same projected list. -/
theorem sortByKey_view {db db' : Database} (hids : db.AssetIdsUnique) (hids' : db'.AssetIdsUnique)
    {P P' : Asset → Prop} [DecidablePred P] [DecidablePred P']
    (h : ∀ x, (∃ a ∈ db.assets, P a ∧ PublicAsset.modelValidate a = x) ↔
      ∃ a ∈ db'.assets, P' a ∧ PublicAsset.modelValidate a = x) :
    (sortByKey assetKey (db.assets.filter fun a => P a)).map PublicAsset.modelValidate =
      (sortByKey assetKey (db'.assets.filter fun a => P' a)).map PublicAsset.modelValidate := by
  have hord : ∀ {db : Database} (_ : db.AssetIdsUnique) (p : Asset → Bool),
      Ordered PublicAsset.position
        ((sortByKey assetKey (db.assets.filter p)).map PublicAsset.modelValidate) := by
    intro db hids p
    rw [Ordered, List.pairwise_map]
    exact Keyset.ordered_sortByKey (hids.keys.filter p)
  have hmem : ∀ {db : Database} {P : Asset → Prop} [DecidablePred P] (x : PublicAsset),
      x ∈ (sortByKey assetKey (db.assets.filter fun a => P a)).map PublicAsset.modelValidate ↔
        ∃ a ∈ db.assets, P a ∧ PublicAsset.modelValidate a = x := by
    intro db P _ x
    simp [Keyset.mem_sortByKey, and_assoc]
  apply (hord hids _).eq_of_mem_iff (hord hids' _)
  intro x
  rw [hmem, hmem, h x]

/-- The page of `list_assets`. -/
def AssetPage.toPublic (limit : ℕ) (page : AssetPage) : PublicPage :=
  ⟨page.items.map PublicAsset.modelValidate, ⟨limit, page.nextCursor⟩⟩

/-- The page depends on the projections of the fetched rows only. -/
theorem buildPage_view (py : Python) {limit : ℕ} {rows rows' : List Asset}
    (h : rows.map PublicAsset.modelValidate = rows'.map PublicAsset.modelValidate) :
    (buildPage py limit rows).map (AssetPage.toPublic limit) =
      (buildPage py limit rows').map (AssetPage.toPublic limit) := by
  have hlen : rows.length = rows'.length := by
    simpa using congrArg List.length h
  have htake : (rows.take limit).map PublicAsset.modelValidate =
      (rows'.take limit).map PublicAsset.modelValidate := by
    rw [List.map_take, List.map_take, h]
  unfold buildPage
  rw [hlen]
  split
  · have hlast : (rows.take limit).getLast?.map PublicAsset.modelValidate =
        (rows'.take limit).getLast?.map PublicAsset.modelValidate := by
      rw [← List.getLast?_map, ← List.getLast?_map, htake]
    cases hl : (rows.take limit).getLast? with
    | none =>
      rw [hl] at hlast
      rw [Option.map_eq_none_iff.mp hlast.symm]
    | some last =>
      rw [hl] at hlast
      obtain ⟨last', hl', hsame⟩ := Option.map_eq_some_iff.mp hlast.symm
      have hcreated : last'.createdAt = last.createdAt := congrArg PublicAsset.createdAt hsame
      have hid : last'.id = last.id := congrArg PublicAsset.id hsame
      rw [hl']
      simp only [Except.map, AssetPage.toPublic, htake, hcreated, hid]
  · simp only [Except.map, AssetPage.toPublic, h]

-- ============================================================================
-- The two endpoints
-- ============================================================================

/-- A parsed cursor is a position clause. -/
theorem cursorClause_eq_ok {py : Python} {cursor : String} {c : Clause Decimal Datetime}
    (h : cursorClause py cursor = .ok c) : ∃ t u, c = .afterCursor t u := by
  rw [cursorClause] at h
  cases hd : decodeCursor py cursor with
  | error e =>
    rw [hd] at h
    cases h
  | ok x =>
    rw [hd] at h
    simp only [bind, Except.bind] at h
    split at h
    · cases h
    · split at h
      · cases h
      · exact ⟨_, _, (Except.ok.inj h).symm⟩

/-- The clauses of a cursor select by position alone. -/
theorem means_cursorClauses {py : Python} {cursor : Option String}
    {cs : List (Clause Decimal Datetime)} (h : cursorClauses py cursor = .ok cs)
    (hbind : ∀ c ∈ cs, ∃ b, c.bind py = .ok b) :
    ∃ Q : Position → Prop, ∀ db, Means py db cs fun a => Q (assetKey a) := by
  cases cursor with
  | none =>
    obtain rfl : [] = cs := Except.ok.inj h
    exact ⟨fun _ => True, fun _ => Means.nil⟩
  | some cursor =>
    rw [cursorClauses] at h
    cases hc : cursorClause py cursor with
    | error e =>
      rw [hc] at h
      cases h
    | ok c =>
      rw [hc] at h
      obtain rfl : [c] = cs := Except.ok.inj h
      obtain ⟨t, u, rfl⟩ := cursorClause_eq_ok hc
      obtain ⟨b, hb⟩ := hbind _ (List.mem_singleton_self _)
      cases hz : py.toUtc t with
      | none =>
        rw [Clause.bind, hz] at hb
        cases hb
      | some z =>
        refine ⟨fun k => z ≤ Timestamptz.ofInstant (ofLex k).1 ∧
          ¬ (Timestamptz.ofInstant (ofLex k).1 = z ∧ (ofLex k).2 ≤ u), fun db => ?_⟩
        apply Means.single (b := .afterCursor z u)
        · rw [Clause.bind, hz]
        · intro a _
          simp only [Clause.eval, assetKey, ofLex_toLex, Bool.and_eq_true, Bool.not_eq_true',
            Bool.and_eq_false_iff, decide_eq_true_eq, decide_eq_false_iff_not, not_and_or]

section TwoRuns

variable {db db' : Database} (hvalid : db.Valid) (hvalid' : db'.Valid) (hview : SameView db db')

include hvalid hvalid' hview

/-- Visible assets that pass filters and cursor have the same projections. -/
theorem selected_view (py : Python) {f : Filters}
    (hdates : ∀ s ∈ f.startsOn, ∀ e ∈ f.endsOn, s ≤ e) (Q : Position → Prop) (x : PublicAsset)
    (h : ∃ a ∈ db.assets, ((PubliclyVisible db a ∧ f.Selects py db a) ∧ Q (assetKey a)) ∧
      PublicAsset.modelValidate a = x) :
    ∃ a ∈ db'.assets, ((PubliclyVisible db' a ∧ f.Selects py db' a) ∧ Q (assetKey a)) ∧
      PublicAsset.modelValidate a = x := by
  obtain ⟨a, ha, ⟨⟨hvis, hselects⟩, hQ⟩, rfl⟩ := h
  obtain ⟨a', ha', hvis', hsame⟩ := (hview.assets _).mp ⟨a, ha, hvis, rfl⟩
  have hkey : assetKey a' = assetKey a := congrArg PublicAsset.position hsame
  refine ⟨a', ha', ⟨⟨hvis', ?_⟩, ?_⟩, hsame⟩
  · exact selects_congr hvalid hvalid' hview hdates ha hvis hsame.symm hselects
  · rw [hkey]
    exact hQ

/-- A statement fails with the same error, or returns rows with the same
    projections. -/
theorem execute_view {py : Python} {f : Filters}
    (hdates : ∀ s ∈ f.startsOn, ∀ e ∈ f.endsOn, s ≤ e) {cursor : Option String}
    {cs : List (Clause Decimal Datetime)} (hcs : cursorClauses py cursor = .ok cs) (limit : ℕ) :
    (∃ d, (statementOf f cs limit).execute py db = .error d ∧
        (statementOf f cs limit).execute py db' = .error d) ∨
      ∃ rows rows', (statementOf f cs limit).execute py db = .ok rows ∧
        (statementOf f cs limit).execute py db' = .ok rows' ∧
        rows.map PublicAsset.modelValidate = rows'.map PublicAsset.modelValidate := by
  cases hbind : (statementOf f cs limit).clauses.mapM (Clause.bind py) with
  | error e => exact .inl ⟨e, execute_of_bind_error hbind, execute_of_bind_error hbind⟩
  | ok bs =>
    obtain ⟨hf, hbs⟩ := statementOf_bind_iff.mp (mapM_ok_iff.mp ⟨bs, hbind⟩)
    obtain ⟨Q, hQ⟩ := means_cursorClauses hcs hbs
    classical
    have hrows : ∀ {db : Database} (_ : db.Valid), (statementOf f cs limit).execute py db =
        .ok ((sortByKey assetKey (db.assets.filter fun a =>
          (PubliclyVisible db a ∧ f.Selects py db a) ∧ Q (assetKey a))).take (limit + 1)) := by
      intro db hvalid
      have hvendor := hvalid.keysHold.vendorsResolve
      have hmeans := ((@means_public py db hvendor).append (means_selects hf)).append (hQ db)
      exact execute_of_means hmeans hvendor rfl rfl rfl
    have hsame := sortByKey_view hvalid.keysHold.assetIdsUnique hvalid'.keysHold.assetIdsUnique
      (fun x => ⟨selected_view hvalid hvalid' hview py hdates Q x,
        selected_view hvalid' hvalid hview.symm py hdates Q x⟩)
    refine .inr ⟨_, _, hrows hvalid, hrows hvalid', ?_⟩
    rw [List.map_take, List.map_take, hsame]

/-- `list_assets` ends alike. -/
theorem listAssets_view (py : Python) (p : ListParams) :
    (listAssets py db p).result = (listAssets py db' p).result := by
  cases hv : validateRequest p with
  | error e => rw [listAssets_of_rejected hv, listAssets_of_rejected hv]
  | ok x =>
    rw [listAssets_eq hv, listAssets_eq hv]
    cases hc : cursorClauses py p.cursor with
    | error e =>
      rw [searchPublicAssets_eq_error (q := ⟨p.toFilters, p.limit, p.cursor⟩) hc,
        searchPublicAssets_eq_error (q := ⟨p.toFilters, p.limit, p.cursor⟩) hc]
    | ok cs =>
      rw [searchPublicAssets_eq (q := ⟨p.toFilters, p.limit, p.cursor⟩) hc p.limit_le,
        searchPublicAssets_eq (q := ⟨p.toFilters, p.limit, p.cursor⟩) hc p.limit_le]
      show Except.map (AssetPage.toPublic p.limit) _ = Except.map (AssetPage.toPublic p.limit) _
      rcases execute_view hvalid hvalid' hview (f := p.toFilters)
        (validateRequest_eq_ok_iff.mp hv).ordered hc p.limit with
        ⟨d, hx, hx'⟩ | ⟨rows, rows', hx, hx', hmap⟩
      · simp only [Select.run, hx, hx']
      · simp only [Select.run, hx, hx']
        exact buildPage_view py hmap

/-- `get_asset` ends alike. -/
theorem getAsset_view (py : Python) (id : UUID) :
    (getAsset py db id).result = (getAsset py db' id).result := by
  have hcases : ∀ {db : Database} (_ : db.Valid),
      (∃ x, Public db x ∧ x.id = id ∧ (getAsset py db id).result = .ok x) ∨
        ((∀ x, Public db x → x.id ≠ id) ∧ (getAsset py db id).result = .error notFound) := by
    intro db hvalid
    rcases getPublicAsset_cases py hvalid.keysHold.assetIdsUnique
      hvalid.keysHold.vendorsResolve id with ⟨a, ha, hok⟩ | ⟨hnone, herr⟩
    · exact .inl ⟨_, ⟨a, ha.1, ha.2.2, rfl⟩, ha.2.1, getAsset_of_ok hok⟩
    · refine .inr ⟨?_, getAsset_of_error herr⟩
      rintro x ⟨a, ha, hvis, rfl⟩ hid
      exact hnone a ⟨ha, hid, hvis⟩
  have hunique : ∀ x y, Public db' x → Public db' y → x.id = y.id → x = y := by
    rintro _ _ ⟨a, ha, -, rfl⟩ ⟨b, hb, -, rfl⟩ hid
    rw [assetWithId_unique hvalid'.keysHold.assetIdsUnique ha hb hid]
  rcases hcases hvalid with ⟨x, hx, hid, hok⟩ | ⟨hnone, herr⟩
  · have hx' := (hview.assets x).mp hx
    rcases hcases hvalid' with ⟨y, hy, hid', hok'⟩ | ⟨hnone', -⟩
    · rw [hok, hok', hunique x y hx' hy (hid.trans hid'.symm)]
    · exact absurd hid (hnone' x hx')
  · rcases hcases hvalid' with ⟨y, hy, hid', -⟩ | ⟨-, herr'⟩
    · exact absurd hid' (hnone y ((hview.assets y).mpr hy))
    · rw [herr, herr']

end TwoRuns

/-- Non-public data influences no response: databases with the same public
    assets and the same taken days answer every request alike. -/
theorem noninterference {db db' : Database} (hvalid : db.Valid) (hvalid' : db'.Valid)
    (hview : SameView db db') (py : Python) (requestId : String) :
    (∀ p, respondList py db requestId p = respondList py db' requestId p) ∧
      ∀ id, respondDetail py db requestId id = respondDetail py db' requestId id := by
  refine ⟨?_, ?_⟩
  · intro p
    unfold respondList Outcome.respond
    rw [listAssets_view hvalid hvalid' hview]
  · intro id
    unfold respondDetail Outcome.respond
    rw [getAsset_view hvalid hvalid' hview]

/-- The sample with its rows reordered, other serial numbers, no Abuja asset, and
    the blocked days 100 to 102 split between a window and a confirmed booking. -/
def sampleDbTwin : Database :=
  { sampleDb with
    assets := [{ sampleAsset 13 .lagos 4000 with serialNumber := none },
      { sampleAsset 11 .lagos 5000 with conditionNotes := some "scratched" },
      sampleAsset 12 .lagos 5000]
    availabilityWindows := [⟨20, 11, 100, 101, true, 0, 0⟩,
      ⟨21, 11, 90, 110, false, 0, 0⟩]
    bookings := [sampleBooking,
      { sampleBooking with
        id := 31, assetId := 11, startsOn := 101, endsOn := 102, status := .confirmed }] }

theorem sampleDbTwin_valid : sampleDbTwin.Valid := by decide +kernel

theorem sampleDbTwin_sameView : SameView sampleDb sampleDbTwin := by
  refine ⟨?_, ?_⟩
  · intro x
    have hperm : (publicAssets sampleDb).Perm (publicAssets sampleDbTwin) := by decide +kernel
    rw [← mem_publicAssets, ← mem_publicAssets, hperm.mem_iff]
  · intro x _ d
    have hsample : Taken sampleDb x.id d ↔ 11 = x.id ∧ 100 ≤ d ∧ d ≤ 102 := by
      simp [Taken, BlockedOn, BookedOn, sampleDb, sampleBooking, Booking.Reserving]
    have htwin : Taken sampleDbTwin x.id d ↔ 11 = x.id ∧ 100 ≤ d ∧ d ≤ 102 := by
      simp [Taken, BlockedOn, BookedOn, sampleDbTwin, sampleBooking, Booking.Reserving,
        ← and_or_left]
      omega
    rw [hsample, htwin]

/-- The two samples answer every request alike. -/
theorem noninterference_sample :
    (∀ p, respondList Py.reference sampleDb "r" p = respondList Py.reference sampleDbTwin "r" p) ∧
      ∀ id, respondDetail Py.reference sampleDb "r" id =
        respondDetail Py.reference sampleDbTwin "r" id :=
  noninterference sampleDb_valid sampleDbTwin_valid sampleDbTwin_sameView Py.reference "r"

end Vouch
