/-
  Vouch.App.Rates

  The rate filter of a search against the bounds the client sent.

  A bound is rounded to the two places of `assets.daily_rate` before it is
  compared.  Next to a positive rate that moves a minimum up by half a kobo and
  a maximum down by as much (`admits_iff_near`): the filter keeps every asset
  within the bounds, and with it those that a bound misses by less.
-/

import Vouch.App.Traversal
import Vouch.Db.Lifecycle

namespace Vouch

open Py (Python Decimal)
open Sql (Numeric)
open Keyset (Page pageAfter collect pages rowsOf Done)

-- ============================================================================
-- Bounds
-- ============================================================================

/-- The rate lies within the bounds, as the client sent them. -/
structure Filters.InBounds (f : Filters) (a : Asset) : Prop where
  minimum : ∀ r ∈ f.minDailyRate, r.toRat ≤ a.dailyRate.toRat
  maximum : ∀ r ∈ f.maxDailyRate, a.dailyRate.toRat ≤ r.toRat

/-- All filters but the rate bounds. -/
def Filters.withoutRates (f : Filters) : Filters :=
  { f with minDailyRate := none, maxDailyRate := none }

/-- Half of 0.01 NGN. -/
def halfKobo : ℚ := Numeric.halfUnit 2

/-- The rate lies within the bounds or misses them by less than half a kobo; a
    maximum may be missed by half a kobo exactly. -/
structure Filters.NearBounds (f : Filters) (a : Asset) : Prop where
  minimum : ∀ r ∈ f.minDailyRate, r.toRat < a.dailyRate.toRat + halfKobo
  maximum : ∀ r ∈ f.maxDailyRate, a.dailyRate.toRat - halfKobo ≤ r.toRat

/-- A bound that the rate misses is missed clearly, or the other one is. -/
structure Filters.BoundsResolved (f : Filters) (a : Asset) : Prop where
  minimum : ∀ r ∈ f.minDailyRate, a.dailyRate.toRat < r.toRat →
    a.dailyRate.toRat + halfKobo ≤ r.toRat ∨
      ∃ r' ∈ f.maxDailyRate, r'.toRat < a.dailyRate.toRat - halfKobo
  maximum : ∀ r ∈ f.maxDailyRate, r.toRat < a.dailyRate.toRat →
    r.toRat < a.dailyRate.toRat - halfKobo ∨
      ∃ r' ∈ f.minDailyRate, a.dailyRate.toRat + halfKobo ≤ r'.toRat

theorem halfKobo_pos : 0 < halfKobo := Numeric.halfUnit_pos 2

theorem Filters.InBounds.near {f : Filters} {a : Asset} (h : f.InBounds a) : f.NearBounds a := by
  have hpos := halfKobo_pos
  refine ⟨?_, ?_⟩
  · intro r hr
    have hle := h.minimum r hr
    linarith
  · intro r hr
    have hle := h.maximum r hr
    linarith

/-- Near is within exactly for resolved bounds. -/
theorem Filters.near_iff_inBounds_iff {f : Filters} {a : Asset} :
    (f.NearBounds a ↔ f.InBounds a) ↔ f.BoundsResolved a := by
  refine ⟨?_, ?_⟩
  · intro h
    refine ⟨?_, ?_⟩
    · intro r hr hlt
      by_contra hnot
      push Not at hnot
      obtain ⟨hclose, hother⟩ := hnot
      have hnear : f.NearBounds a := by
        refine ⟨?_, hother⟩
        intro s hs
        obtain rfl := Option.mem_unique hr hs
        exact hclose
      exact absurd ((h.mp hnear).minimum r hr) (not_le.mpr hlt)
    · intro r hr hlt
      by_contra hnot
      push Not at hnot
      obtain ⟨hclose, hother⟩ := hnot
      have hnear : f.NearBounds a := by
        refine ⟨hother, ?_⟩
        intro s hs
        obtain rfl := Option.mem_unique hr hs
        exact hclose
      exact absurd ((h.mp hnear).maximum r hr) (not_le.mpr hlt)
  · intro h
    refine ⟨fun hnear => ⟨?_, ?_⟩, Filters.InBounds.near⟩
    · intro r hr
      by_contra hmissed
      rcases h.minimum r hr (not_le.mp hmissed) with hfar | ⟨s, hs, hfar⟩
      · exact absurd (hnear.minimum r hr) (not_lt.mpr hfar)
      · exact absurd (hnear.maximum s hs) (not_le.mpr hfar)
    · intro r hr
      by_contra hmissed
      rcases h.maximum r hr (not_le.mp hmissed) with hfar | ⟨s, hs, hfar⟩
      · exact absurd (hnear.maximum r hr) (not_le.mpr hfar)
      · exact absurd (hnear.minimum s hs) (not_lt.mpr hfar)

-- ============================================================================
-- The filter
-- ============================================================================

/-- `ck_assets_daily_rate_positive` -/
theorem Tables.Valid.dailyRate_pos {db : Database} (h : db.Valid) :
    ∀ a ∈ db.assets, 0 < a.dailyRate.unscaled := by
  intro a ha
  have hcheck := h.holds (t := Migration0002.assets) (by simp [schema0002])
    (k := .check (positive "daily_rate") "ck_assets_daily_rate_positive")
    (by simp [Migration0002.assets, Migration0001.assets])
  exact (decides_positive rfl).admits_iff.mp (hcheck a.toRow (List.mem_map_of_mem ha))

/-- The label of a category is one of the type's. -/
theorem AssetCategory.value_mem (c : AssetCategory) : c.value ∈ assetCategoryLabels := by
  cases c <;> simp [AssetCategory.value, assetCategoryLabels]

section Filter

variable {db : Database} {f : Filters} {a : Asset}
  (hmin : ∀ r ∈ f.minDailyRate, FitsRate r) (hmax : ∀ r ∈ f.maxDailyRate, FitsRate r)
  (hothers : f.withoutRates.Matches db a)

include hmin hmax hothers

/-- Filters that an asset passes fit their columns. -/
theorem fits_of_matches : f.Fits := by
  refine ⟨?_, hmin, hmax⟩
  intro label hlabel
  rw [← hothers.category label hlabel]
  exact a.category.value_mem

/-- Of the assets that pass the other filters, the statement selects those near
    the bounds. -/
theorem admits_iff_near (hrate : 0 < a.dailyRate.unscaled) : f.Admits db a ↔ f.NearBounds a := by
  refine ⟨?_, ?_⟩
  · intro h
    refine ⟨?_, ?_⟩
    · intro r hr
      obtain ⟨n, hn⟩ := Option.isSome_iff_exists.mp (hmin r hr).2
      exact (Numeric.cast_le_iff hn (le_of_lt hrate)).mp (h.minDailyRate r hr n hn)
    · intro r hr
      obtain ⟨n, hn⟩ := Option.isSome_iff_exists.mp (hmax r hr).2
      exact (Numeric.le_cast_iff hn hrate).mp (h.maxDailyRate r hr n hn)
  · intro h
    refine ⟨hothers.category, ?_, ?_, hothers.available⟩
    · intro r hr n hn
      exact (Numeric.cast_le_iff hn (le_of_lt hrate)).mpr (h.minimum r hr)
    · intro r hr n hn
      exact (Numeric.le_cast_iff hn hrate).mpr (h.maximum r hr)

end Filter

-- ============================================================================
-- Whole traversals
-- ============================================================================

section Traversal

variable {py : Python} (hpy : py.RoundTrip) {db : Database} (hvalid : db.Valid) {f : Filters}
  {limit : ℕ → ℕ} (hlimit : ∀ i, 1 ≤ limit i ∧ limit i ≤ maxPageLimit)

include hpy hvalid hlimit

/-- A traversal with bounds that are sent and fit their column ends, and then
    holds the selected assets. -/
theorem traversal_eq_admitted (hf : f.Fits) :
    (∃ n ps, collect (searchRequest py db f limit) n 0 none = .ok ps ∧ Done ps) ∧
      ∀ n ps, collect (searchRequest py db f limit) n 0 none = .ok ps → Done ps →
        rowsOf ps = admitted db f := by
  have hids := hvalid.keysHold.assetIdsUnique
  have hord := ordered_admitted hids f
  have hcollect := collect_admitted hpy hids hvalid.keysHold.vendorsResolve hf hlimit
  have hpage : ∀ i c, Keyset.PageOf assetKey (admitted db f) (limit i) c
      (pageAfter assetKey (admitted db f) (limit i) c) :=
    fun i c => Keyset.pageOf_lookAhead hord (hlimit i).1 c
  refine ⟨⟨_, _, hcollect _, Keyset.done_map_mapNext.mpr (Keyset.pages_exhaust hpage hord).1⟩, ?_⟩
  intro n ps hps hdone
  obtain rfl := Except.ok.inj ((hcollect n).symm.trans hps)
  rw [Keyset.rowsOf_map_mapNext, Keyset.pages_flatMap hpage hord n 0 none
    (Keyset.done_map_mapNext.mp hdone), Keyset.after_none_eq]

/-- **The rate filter is exact for resolved bounds.**  A traversal ends; for an
    asset that passes the other filters it agrees with the bounds the client sent
    if and only if they resolve the asset's rate. -/
theorem rate_filter_iff (hmin : ∀ r ∈ f.minDailyRate, FitsRate r)
    (hmax : ∀ r ∈ f.maxDailyRate, FitsRate r) {a : Asset} (ha : a ∈ db.assets)
    (hvisible : PubliclyVisible db a) (hothers : f.withoutRates.Matches db a) :
    (∃ n ps, collect (searchRequest py db f limit) n 0 none = .ok ps ∧ Done ps) ∧
      ∀ n ps, collect (searchRequest py db f limit) n 0 none = .ok ps → Done ps →
        ((a ∈ rowsOf ps ↔ f.InBounds a) ↔ f.BoundsResolved a) := by
  obtain ⟨hends, hrows⟩ := traversal_eq_admitted hpy hvalid hlimit
    (fits_of_matches hmin hmax hothers)
  refine ⟨hends, ?_⟩
  intro n ps hps hdone
  have hlisted : a ∈ rowsOf ps ↔ f.NearBounds a := by
    rw [hrows n ps hps hdone, mem_admitted,
      admits_iff_near hmin hmax hothers (hvalid.dailyRate_pos a ha)]
    exact ⟨fun h => h.2.2, fun h => ⟨ha, hvisible, h⟩⟩
  rw [hlisted, Filters.near_iff_inBounds_iff]

end Traversal

/-- Bounds of 12499.995 and 12500.0049 NGN. -/
def sampleBounds : Filters :=
  { minDailyRate := some ⟨12499995, -3⟩, maxDailyRate := some ⟨125000049, -4⟩ }

/-- In the sample, with asset 12 at 12500.00 between the bounds. -/
theorem rate_filter_iff_sample :
    (∃ n ps, collect (searchRequest Py.reference sampleDb sampleBounds fun _ => 1) n 0 none =
        .ok ps ∧ Done ps) ∧
      ∀ n ps, collect (searchRequest Py.reference sampleDb sampleBounds fun _ => 1) n 0 none =
        .ok ps → Done ps →
        ((sampleAsset 12 .lagos 5000 ∈ rowsOf ps ↔
          sampleBounds.InBounds (sampleAsset 12 .lagos 5000)) ↔
          sampleBounds.BoundsResolved (sampleAsset 12 .lagos 5000)) := by
  have hfits : sampleBounds.Fits := by decide +kernel
  have hvisible : PubliclyVisible sampleDb (sampleAsset 12 .lagos 5000) := by decide +kernel
  refine rate_filter_iff Py.reference_roundTrip sampleDb_valid (fun _ => ⟨by omega, by decide⟩)
    hfits.minDailyRate hfits.maxDailyRate (by simp [sampleDb]) hvisible ?_
  refine ⟨?_, ?_, ?_, ?_⟩ <;> simp [Filters.withoutRates, sampleBounds]

/-- A minimum of 12500.001 NGN. -/
def sampleMinimum : Filters := { minDailyRate := some ⟨12500001, -3⟩ }

/-- It misses the rate of asset 12, but by less than half a kobo: the traversal
    of the sample lists the asset. -/
theorem rate_filter_inexact :
    sampleAsset 12 .lagos 5000 ∈ sampleDb.assets ∧
      PubliclyVisible sampleDb (sampleAsset 12 .lagos 5000) ∧
      sampleMinimum.withoutRates.Matches sampleDb (sampleAsset 12 .lagos 5000) ∧
      ¬ sampleMinimum.InBounds (sampleAsset 12 .lagos 5000) ∧
      ∃ n ps, collect (searchRequest Py.reference sampleDb sampleMinimum fun _ => 20) n 0 none =
        .ok ps ∧ Done ps ∧ sampleAsset 12 .lagos 5000 ∈ rowsOf ps := by
  have hmem : sampleAsset 12 .lagos 5000 ∈ sampleDb.assets := by simp [sampleDb]
  have hvisible : PubliclyVisible sampleDb (sampleAsset 12 .lagos 5000) := by decide +kernel
  have hfits : sampleMinimum.Fits := by decide +kernel
  have hothers : sampleMinimum.withoutRates.Matches sampleDb (sampleAsset 12 .lagos 5000) := by
    refine ⟨?_, ?_, ?_, ?_⟩ <;> simp [Filters.withoutRates, sampleMinimum]
  have hnear : sampleMinimum.NearBounds (sampleAsset 12 .lagos 5000) := by
    refine ⟨?_, by simp [sampleMinimum]⟩
    intro r hr
    obtain rfl := Option.some.inj hr
    decide +kernel
  have hlimit : ∀ _ : ℕ, 1 ≤ 20 ∧ 20 ≤ maxPageLimit := fun _ => ⟨by omega, by decide⟩
  obtain ⟨⟨n, ps, hps, hdone⟩, hrows⟩ := traversal_eq_admitted Py.reference_roundTrip
    sampleDb_valid hlimit hfits
  refine ⟨hmem, hvisible, hothers, ?_, n, ps, hps, hdone, ?_⟩
  · intro h
    have hle := h.minimum _ rfl
    revert hle
    decide +kernel
  · rw [hrows n ps hps hdone, mem_admitted, admits_iff_near hfits.minDailyRate
      hfits.maxDailyRate hothers (sampleDb_valid.dailyRate_pos _ hmem)]
    exact ⟨hmem, hvisible, hnear⟩

end Vouch
