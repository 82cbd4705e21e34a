/-
  Vouch.App.Detail

  The detail endpoint, and its agreement with the search: over tables whose
  keys hold, an id has a detail page exactly when the traversal without filters
  lists it, and every other id ends in one and the same error.
-/

import Vouch.App.Routes
import Vouch.App.Traversal

namespace Vouch

open Py (Python UUID)
open Keyset (Page collect rowsOf Done)

/-- The publicly visible asset with an id. -/
def IsPublic (db : Database) (id : UUID) (a : Asset) : Prop :=
  a ∈ db.assets ∧ a.id = id ∧ PubliclyVisible db a

/-- The 404 of a missing or hidden resource. -/
def notFound : Exc := .api (resourceNotFoundError.init none [])

section Detail

variable {py : Python} {db : Database}

theorem means_id (id : UUID) : Means py db [.id id] fun a => a.id = id := by
  apply Means.single rfl
  intro a _
  simp [Clause.eval]

/-- Every asset has at most one row per id. -/
theorem assetWithId_unique (hids : db.AssetIdsUnique) {a b : Asset} (ha : a ∈ db.assets)
    (hb : b ∈ db.assets) (h : a.id = b.id) : a = b :=
  eq_of_key_eq hids ha hb h

variable (py) in
/-- The rows of the detail statement: the visible asset with the id, if any. -/
theorem execute_detail (hids : db.AssetIdsUnique) (hvendor : db.VendorsResolve) (id : UUID) :
    ∃ rows, (publicVisibilityClauses (({} : Select).where [.id id])).execute py db = .ok rows ∧
      (rows = [] ∧ (∀ a, ¬ IsPublic db id a) ∨ ∃ a, rows = [a] ∧ IsPublic db id a) := by
  have hmeans : Means py db (publicVisibilityClauses (({} : Select).where [.id id])).clauses
      fun a => a.id = id ∧ PubliclyVisible db a :=
    (means_id id).append (means_public hvendor)
  obtain ⟨bs, hbs, hP⟩ := hmeans
  have hfilter : (db.assets.filter fun a => bs.all fun c => c.eval db a (db.vendor a)) =
      db.assets.filter fun a => a.id = id ∧ PubliclyVisible db a := by
    apply List.filter_congr
    intro a ha
    rw [Bool.eq_iff_iff, hP a ha, decide_eq_true_iff]
  refine ⟨db.assets.filter fun a => a.id = id ∧ PubliclyVisible db a, ?_, ?_⟩
  · have hsource := source_filter hvendor
      (s := publicVisibilityClauses (({} : Select).where [.id id])) rfl bs
    rw [Select.execute, hbs]
    show Except.ok ((((publicVisibilityClauses _).source db).filter _).map Prod.fst) = _
    rw [hsource, hfilter]
  · by_cases h : ∃ a, IsPublic db id a
    · -- the one row with the id is visible
      obtain ⟨a, ha⟩ := h
      refine .inr ⟨a, ?_, ha⟩
      obtain ⟨hmem, rfl, hvis⟩ := ha
      have hsplit : (db.assets.filter fun b => b.id = a.id ∧ PubliclyVisible db b) =
          (db.assets.filter fun b => b.id = a.id).filter fun b => PubliclyVisible db b := by
        rw [List.filter_filter]
        apply List.filter_congr
        intro b _
        simp [Bool.and_comm]
      rw [hsplit, filter_eq_singleton hids hmem]
      simp [hvis]
    · have hnone : ∀ a, ¬ IsPublic db id a := fun a ha => h ⟨a, ha⟩
      refine .inl ⟨?_, hnone⟩
      rw [List.filter_eq_nil_iff]
      intro a ha hsel
      have hsel := of_decide_eq_true hsel
      exact hnone a ⟨ha, hsel.1, hsel.2⟩

variable (py) in
/-- The detail query returns the visible asset, or raises the one 404. -/
theorem getPublicAsset_cases (hids : db.AssetIdsUnique) (hvendor : db.VendorsResolve) (id : UUID) :
    (∃ a, IsPublic db id a ∧ (getPublicAsset py db id).result = .ok a) ∨
      ((∀ a, ¬ IsPublic db id a) ∧ (getPublicAsset py db id).result = .error notFound) := by
  obtain ⟨rows, hexec, hrows⟩ := execute_detail py hids hvendor id
  have hrun : (publicVisibilityClauses (({} : Select).where [.id id])).run py db = .ok rows := by
    rw [Select.run, hexec]
    rfl
  simp only [getPublicAsset, hrun]
  rcases hrows with ⟨rfl, hnone⟩ | ⟨a, rfl, ha⟩
  · exact .inr ⟨hnone, rfl⟩
  · exact .inl ⟨a, ha, rfl⟩

/-- The detail query finds an asset iff it is the public asset with the id. -/
theorem getPublicAsset_eq_ok (hids : db.AssetIdsUnique) (hvendor : db.VendorsResolve) {id : UUID}
    {a : Asset} : (getPublicAsset py db id).result = .ok a ↔ IsPublic db id a := by
  rcases getPublicAsset_cases py hids hvendor id with ⟨b, hb, hres⟩ | ⟨hnone, hres⟩
  · rw [hres]
    refine ⟨?_, ?_⟩
    · rintro ⟨⟩
      exact hb
    · intro ha
      have hid : b.id = a.id := hb.2.1.trans ha.2.1.symm
      rw [assetWithId_unique hids hb.1 ha.1 hid]
  · rw [hres]
    refine ⟨?_, ?_⟩
    · rintro ⟨⟩
    · intro ha
      exact absurd ha (hnone a)

theorem exists_detail_iff (hids : db.AssetIdsUnique) (hvendor : db.VendorsResolve) {id : UUID} :
    (∃ a, (getPublicAsset py db id).result = .ok a) ↔ ∃ a, IsPublic db id a := by
  apply exists_congr
  intro a
  exact getPublicAsset_eq_ok hids hvendor

end Detail

/-- The traversal without filters lists exactly the public assets. -/
theorem mem_listing_empty {db : Database} {a : Asset} :
    a ∈ listing db {} ↔ IsPublic db a.id a := by
  rw [mem_listing, IsPublic]
  refine ⟨fun ⟨ha, hv, _⟩ => ⟨ha, rfl, hv⟩, fun ⟨ha, _, hv⟩ => ⟨ha, hv, ?_⟩⟩
  refine ⟨?_, ?_, ?_, ?_⟩ <;> simp

/-- A public asset's id is listed once, as its projection. -/
theorem filter_listing_id {db : Database} (hids : db.AssetIdsUnique) {id : UUID} {a : Asset}
    (ha : IsPublic db id a) :
    ((listing db {}).map PublicAsset.modelValidate).filter (fun x => x.id = id) =
      [PublicAsset.modelValidate a] := by
  obtain rfl : a.id = id := ha.2.1
  have hmem : a ∈ listing db {} := mem_listing_empty.mpr ha
  have hord : (listing db {}).Pairwise fun x y => x.id ≠ y.id := by
    apply (List.perm_insertionSort _ _).symm.pairwise (hids.filter _)
    intro x y hxy
    exact hxy.symm
  have hone := filter_eq_singleton hord hmem
  rw [List.filter_map]
  show List.map _ ((listing db {}).filter fun x => x.id = a.id) = _
  rw [hone]
  rfl

/-- Search and detail agree.  For any sequence of requests without filters, the
    traversals of service and endpoint end; an id has a detail asset iff the
    traversal lists it, iff its asset is publicly visible; both endpoints then
    carry the same `PublicAsset`, and any other id ends in the same 404. -/
theorem detail_agrees_with_search {py : Python} (hpy : py.RoundTrip) {db : Database}
    (hkeys : db.KeysHold) {p : ℕ → ListParams} (hfilters : ∀ i, (p i).toFilters = {})
    (hcity : ∀ i, ∀ c ∈ (p i).city, c = "lagos") (id : UUID) :
    ∃ n ps qs,
      collect (searchRequest py db {} fun i => (p i).limit) n 0 none = .ok ps ∧ Done ps ∧
      collect (listRequest py (fun _ => db) p) n 0 none = .ok qs ∧ Done qs ∧
      ((∃ a, (getPublicAsset py db id).result = .ok a) ↔ ∃ a ∈ rowsOf ps, a.id = id) ∧
      ((∃ a, (getPublicAsset py db id).result = .ok a) ↔
        ∃ a ∈ db.assets, a.id = id ∧ PubliclyVisible db a) ∧
      (∀ a, (getPublicAsset py db id).result = .ok a →
        (getAsset py db id).result = .ok (PublicAsset.modelValidate a) ∧
        (rowsOf qs).filter (fun x => x.id = id) = [PublicAsset.modelValidate a]) ∧
      ((∀ a, (getPublicAsset py db id).result ≠ .ok a) →
        (getPublicAsset py db id).result = .error notFound) ∧
      (getPublicAsset py db id).result ≠ .error .multipleResultsFound := by
  have hids := hkeys.assetIdsUnique
  have hvendor := hkeys.vendorsResolve
  obtain ⟨hdone, hrows⟩ := pages_listing hids {} fun i => (p i).one_le_limit
  have hsearch := collect_searchRequest hpy hids hvendor Filters.valid_empty
    (fun i => ⟨(p i).one_le_limit, (p i).limit_le⟩) ((listing db {}).length + 1)
  have hlist := collect_listRequest hpy (fun _ => hkeys) Filters.valid_empty hfilters hcity
    ((listing db {}).length + 1)
  have hps : ∀ a, a ∈ listing db {} ↔ IsPublic db a.id a := fun a => mem_listing_empty
  refine ⟨_, _, _, hsearch, Keyset.done_map_mapNext.mpr hdone, hlist, ?_, ?_, ?_, ?_, ?_, ?_⟩
  · rw [Keyset.done_map_mapNext, Keyset.done_map_mapItems]
    exact hdone
  · -- found iff listed
    rw [Keyset.rowsOf_map_mapNext, hrows, exists_detail_iff hids hvendor]
    refine ⟨?_, ?_⟩
    · rintro ⟨a, ha⟩
      have hid : a.id = id := ha.2.1
      subst hid
      exact ⟨a, (hps a).mpr ha, rfl⟩
    · rintro ⟨a, ha, rfl⟩
      exact ⟨a, (hps a).mp ha⟩
  · rw [exists_detail_iff hids hvendor]
    rfl
  · intro a ha
    have hpublic := (getPublicAsset_eq_ok hids hvendor).mp ha
    refine ⟨?_, ?_⟩
    · exact getAsset_of_ok ha
    · rw [Keyset.rowsOf_map_mapNext, Keyset.rowsOf_map_mapItems, hrows]
      exact filter_listing_id hids hpublic
  · intro hnone
    rcases getPublicAsset_cases py hids hvendor id with ⟨a, -, ha⟩ | ⟨-, herr⟩
    · exact absurd ha (hnone a)
    · exact herr
  · intro hmany
    rcases getPublicAsset_cases py hids hvendor id with ⟨a, -, ha⟩ | ⟨-, herr⟩
    · rw [ha] at hmany
      cases hmany
    · rw [herr] at hmany
      cases hmany

/-- In the sample, the Lagos listing 12 has a detail page and the Abuja asset 10
    has none. -/
theorem detail_agrees_with_search_sample :
    (∃ a, (getPublicAsset Py.reference sampleDb 12).result = .ok a) ∧
      (getPublicAsset Py.reference sampleDb 10).result = .error notFound := by
  have hkeys := sampleDb_valid.keysHold
  have hdetail := detail_agrees_with_search Py.reference_roundTrip hkeys
    (p := fun _ => {}) (fun _ => rfl) (by simp)
  refine ⟨?_, ?_⟩
  · obtain ⟨_, _, _, -, -, -, -, -, hiff, -, -, -⟩ := hdetail 12
    rw [hiff]
    decide +kernel
  · obtain ⟨_, _, _, -, -, -, -, -, hiff, -, h404, -⟩ := hdetail 10
    have hhidden : ¬ ∃ a ∈ sampleDb.assets, a.id = 10 ∧ PubliclyVisible sampleDb a := by
      decide +kernel
    rw [← hiff] at hhidden
    exact h404 fun a ha => hhidden ⟨a, ha⟩

end Vouch
