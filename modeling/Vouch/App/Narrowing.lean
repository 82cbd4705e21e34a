/-
  Vouch.App.Narrowing

  How the filters of a search compose.

  Stricter filters leave assets out and change nothing else: the traversal is a
  sublist of the wider one (`narrower_sublist`), although each bound is rounded
  before it is compared.  A date range composes of its days: a stay is offered
  exactly if a search for each single day offers the asset (`stay_iff_days`),
  which rests on the CHECKs that keep windows and bookings from running
  backwards.
-/

import Vouch.App.Noninterference
import Vouch.App.Rates

namespace Vouch

open Py (Python Date)
open Keyset (collect rowsOf Done)

-- ============================================================================
-- Stricter filters
-- ============================================================================

/-- Each condition of `g` is a condition of `f`, or one that is weaker. -/
structure Filters.Narrows (f g : Filters) : Prop where
  category : ∀ label ∈ g.category, label ∈ f.category
  minDailyRate : ∀ r ∈ g.minDailyRate, ∃ r' ∈ f.minDailyRate, r.toRat ≤ r'.toRat
  maxDailyRate : ∀ r ∈ g.maxDailyRate, ∃ r' ∈ f.maxDailyRate, r'.toRat ≤ r.toRat
  dates : ∀ s ∈ g.startsOn, ∀ e ∈ g.endsOn, ∃ s' ∈ f.startsOn, ∃ e' ∈ f.endsOn, s' ≤ s ∧ e ≤ e'

section During

variable {db : Database} {a : Asset} {s s' e e' : Int}

/-- What overlaps a range overlaps every range around it. -/
theorem BlockedDuring.mono (h : BlockedDuring db a s e) (hs : s' ≤ s) (he : e ≤ e') :
    BlockedDuring db a s' e' := by
  obtain ⟨w, hw, hasset, hblocked, hstart, hend⟩ := h
  exact ⟨w, hw, hasset, hblocked, hstart.trans he, hs.trans hend⟩

theorem BookedDuring.mono (h : BookedDuring db a s e) (hs : s' ≤ s) (he : e ≤ e') :
    BookedDuring db a s' e' := by
  obtain ⟨b, hb, hasset, hstatus, hstart, hend⟩ := h
  exact ⟨b, hb, hasset, hstatus, hstart.trans he, hs.trans hend⟩

end During

/-- An asset that passes stricter filters passes the wider ones. -/
theorem Filters.Narrows.admits {db : Database} {f g : Filters} (h : f.Narrows g) (hf : f.Fits)
    {a : Asset} (ha : f.Admits db a) : g.Admits db a := by
  refine ⟨?_, ?_, ?_, ?_⟩
  · intro label hlabel
    exact ha.category label (h.category label hlabel)
  · intro r hr n hn
    obtain ⟨r', hr', hle⟩ := h.minDailyRate r hr
    obtain ⟨n', hn'⟩ := Option.isSome_iff_exists.mp (hf.minDailyRate r' hr').2
    exact Int.le_trans (Sql.Numeric.cast_mono hn hn' hle) (ha.minDailyRate r' hr' n' hn')
  · intro r hr n hn
    obtain ⟨r', hr', hle⟩ := h.maxDailyRate r hr
    obtain ⟨n', hn'⟩ := Option.isSome_iff_exists.mp (hf.maxDailyRate r' hr').2
    exact Int.le_trans (ha.maxDailyRate r' hr' n' hn') (Sql.Numeric.cast_mono hn' hn hle)
  · intro s hs e he
    obtain ⟨s', hs', e', he', hss, hee⟩ := h.dates s hs e he
    obtain ⟨hblocked, hbooked⟩ := ha.available s' hs' e' he'
    have hss' : (s'.val : Int) ≤ s.val := by exact_mod_cast hss
    have hee' : (e.val : Int) ≤ e'.val := by exact_mod_cast hee
    exact ⟨fun hd => hblocked (hd.mono hss' hee'), fun hd => hbooked (hd.mono hss' hee')⟩

/-- One condition more, on the filters or on the tables beside the assets, leaves
    out the assets that fail it. -/
theorem admitted_eq_filter {db db' : Database} (hassets : db'.assets = db.assets)
    (hids : db.AssetIdsUnique) {f g : Filters} {Q : Asset → Prop} [DecidablePred Q]
    (h : ∀ a, PubliclyVisible db' a ∧ g.Admits db' a ↔
      (PubliclyVisible db a ∧ f.Admits db a) ∧ Q a) :
    admitted db' g = (admitted db f).filter fun a => Q a := by
  rw [admitted, admitted, hassets, Keyset.sortByKey_filter hids.keys,
    Keyset.sortByKey_filter hids.keys, List.filter_filter]
  apply List.filter_congr
  intro a _
  rw [← Bool.decide_and, decide_eq_decide, h a]
  exact and_comm

theorem Filters.Narrows.admitted_sublist {db : Database} (hids : db.AssetIdsUnique) {f g : Filters}
    (h : f.Narrows g) (hf : f.Fits) : (admitted db f).Sublist (admitted db g) := by
  apply Keyset.sortByKey_filter_sublist hids.keys
  intro a ha
  rw [decide_eq_true_iff] at ha ⊢
  exact ⟨ha.1, h.admits hf ha.2⟩

-- ============================================================================
-- Days of a stay
-- ============================================================================

/-- The filters for a stay. -/
def Filters.on (f : Filters) (startsOn endsOn : Date) : Filters :=
  { f with startsOn := some startsOn, endsOn := some endsOn }

theorem Filters.Fits.on {f : Filters} (h : f.Fits) (s e : Date) : (f.on s e).Fits :=
  ⟨h.category, h.minDailyRate, h.maxDailyRate⟩

/-- An asset passes the filters for a stay exactly if it passes those for each
    of its days. -/
theorem admits_on_iff {db : Database} (hvalid : db.Valid) (f : Filters) (a : Asset) {s e : Date}
    (hse : s ≤ e) :
    (f.on s e).Admits db a ↔ ∀ d, s ≤ d → d ≤ e → (f.on d d).Admits db a := by
  have hfree : ∀ {s e : Date}, s ≤ e →
      (¬ BlockedDuring db a s.val e.val ∧ ¬ BookedDuring db a s.val e.val ↔
        ∀ d : Int, s.val ≤ d → d ≤ e.val → ¬ Taken db a.id d) := by
    intro s e hse
    exact free_iff hvalid a (by exact_mod_cast hse)
  refine ⟨?_, ?_⟩
  · intro h d hsd hde
    refine ⟨h.category, h.minDailyRate, h.maxDailyRate, ?_⟩
    intro s' hs' e' he'
    obtain rfl : d = s' := Option.some.inj hs'
    obtain rfl : d = e' := Option.some.inj he'
    rw [hfree (le_refl d)]
    have hstay := (hfree hse).mp (h.available s rfl e rfl)
    intro x hdx hxd
    apply hstay x
    · exact le_trans (by exact_mod_cast hsd) hdx
    · exact le_trans hxd (by exact_mod_cast hde)
  · intro h
    have hstart := h s (le_refl s) hse
    refine ⟨hstart.category, hstart.minDailyRate, hstart.maxDailyRate, ?_⟩
    intro s' hs' e' he'
    obtain rfl : s = s' := Option.some.inj hs'
    obtain rfl : e = e' := Option.some.inj he'
    rw [hfree hse]
    intro x hsx hxe
    -- a day between two dates is a date
    have hlt : x.toNat < Py.calendarDays := by
      have := e.isLt
      omega
    have hval : ((⟨x.toNat, hlt⟩ : Date).val : Int) = x := by
      show (x.toNat : Int) = x
      omega
    have hday := h ⟨x.toNat, hlt⟩ (by rw [Fin.le_def]; show s.val ≤ x.toNat; omega)
      (by rw [Fin.le_def]; show x.toNat ≤ e.val; omega)
    have hone := (hfree (le_refl _)).mp (hday.available _ rfl _ rfl)
    exact hone x (le_of_eq hval) (le_of_eq hval.symm)

-- ============================================================================
-- Traversals
-- ============================================================================

/-- Some complete traversal with the filters lists the asset. -/
def Listed (py : Python) (db : Database) (f : Filters) (limit : ℕ → ℕ) (a : Asset) : Prop :=
  ∃ n ps, collect (searchRequest py db f limit) n 0 none = .ok ps ∧ Done ps ∧ a ∈ rowsOf ps

section Traversal

variable {py : Python} (hpy : py.RoundTrip) {db : Database} (hvalid : db.Valid)
  {f g : Filters} {limit limit' : ℕ → ℕ} (hlimit : ∀ i, 1 ≤ limit i ∧ limit i ≤ maxPageLimit)
  (hlimit' : ∀ i, 1 ≤ limit' i ∧ limit' i ≤ maxPageLimit)

include hpy hvalid hlimit

theorem listed_iff (hf : f.Fits) (a : Asset) :
    Listed py db f limit a ↔ a ∈ admitted db f := by
  obtain ⟨⟨n, ps, hps, hdone⟩, hrows⟩ := traversal_eq_admitted hpy hvalid hlimit hf
  refine ⟨?_, ?_⟩
  · rintro ⟨m, qs, hqs, hqdone, ha⟩
    rwa [hrows m qs hqs hqdone] at ha
  · intro ha
    refine ⟨n, ps, hps, hdone, ?_⟩
    rwa [hrows n ps hps hdone]

/-- **Days of a stay.**  A search for a stay offers an asset exactly if a search
    for each of its days does. -/
theorem stay_iff_days (hf : f.Fits) (a : Asset) {s e : Date} (hse : s ≤ e) :
    Listed py db (f.on s e) limit a ↔
      ∀ d, s ≤ d → d ≤ e → Listed py db (f.on d d) limit a := by
  simp only [listed_iff hpy hvalid hlimit (hf.on _ _), mem_admitted,
    admits_on_iff hvalid f a hse]
  refine ⟨?_, ?_⟩
  · intro h d hsd hde
    exact ⟨h.1, h.2.1, h.2.2 d hsd hde⟩
  · intro h
    have hstart := h s (le_refl s) hse
    exact ⟨hstart.1, hstart.2.1, fun d hsd hde => (h d hsd hde).2.2⟩

include hlimit'

/-- **Stricter filters.**  The traversal with stricter filters is a sublist of
    the wider one, whatever the page sizes of either. -/
theorem narrower_sublist (hf : f.Fits) (hg : g.Fits) (h : f.Narrows g) :
    ∃ n ps m qs, collect (searchRequest py db f limit) n 0 none = .ok ps ∧ Done ps ∧
      collect (searchRequest py db g limit') m 0 none = .ok qs ∧ Done qs ∧
      (rowsOf ps).Sublist (rowsOf qs) := by
  obtain ⟨⟨n, ps, hps, hdone⟩, hrows⟩ := traversal_eq_admitted hpy hvalid hlimit hf
  obtain ⟨⟨m, qs, hqs, hdone'⟩, hrows'⟩ := traversal_eq_admitted hpy hvalid hlimit' hg
  refine ⟨n, ps, m, qs, hps, hdone, hqs, hdone', ?_⟩
  rw [hrows n ps hps hdone, hrows' m qs hqs hdone']
  exact h.admitted_sublist hvalid.keysHold.assetIdsUnique hf

end Traversal

/-- Days 98 and 99 before the blocked window of the sample's asset 11. -/
theorem stay_iff_days_sample :
    Listed Py.reference sampleDb (({} : Filters).on 98 99) (fun _ => 2)
        (sampleAsset 11 .lagos 5000) ↔
      ∀ d, 98 ≤ d → d ≤ 99 →
        Listed Py.reference sampleDb (({} : Filters).on d d) (fun _ => 2)
          (sampleAsset 11 .lagos 5000) :=
  stay_iff_days Py.reference_roundTrip sampleDb_valid (fun _ => ⟨by omega, by decide⟩) (by decide)
    _ (by decide)

/-- Cameras over 10000.005 NGN on a day when one of them is blocked, among all
    assets over 10000 NGN. -/
theorem narrower_sublist_sample :
    ∃ n ps m qs,
      collect (searchRequest Py.reference sampleDb
        { category := some "camera", startsOn := some 101, endsOn := some 101,
          minDailyRate := some ⟨10000005, -3⟩ } fun _ => 1) n 0 none = .ok ps ∧ Done ps ∧
      collect (searchRequest Py.reference sampleDb { minDailyRate := some ⟨10000, 0⟩ }
        fun _ => 100) m 0 none = .ok qs ∧ Done qs ∧ (rowsOf ps).Sublist (rowsOf qs) := by
  apply narrower_sublist Py.reference_roundTrip sampleDb_valid (fun _ => ⟨by omega, by decide⟩)
    (fun _ => ⟨by omega, by decide⟩) (by decide +kernel) (by decide +kernel)
  refine ⟨by simp, ?_, by simp, by simp⟩
  intro r hr
  obtain rfl := Option.some.inj hr
  exact ⟨_, rfl, by decide +kernel⟩

end Vouch
