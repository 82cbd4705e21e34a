/-
  Vouch.App.Deployment

  The deployed database over its whole life: migrations up and down and
  transactions, in any order, from the empty database.

  Each migration step is made explicit at each version (`attempt_…`), so that a
  run lemma needs one case per version.  What a run reaches is sound
  (`Deployment.sound_stateAt`); what it stores at the head is read as a valid
  `Database` (`read_of_valid`), and everything proved of valid databases holds
  of it (`Tables.Valid.regular`).
-/

import Vouch.App.Availability
import Vouch.App.Upgrade
import Vouch.Db.Load
import Vouch.Db.Payout

namespace Vouch

open Sql (Data Deployment Operation Schema)
open Machine (stateAt)

-- ============================================================================
-- Steps
-- ============================================================================

/-- The deployment after the first `n` operations. -/
def deployed (ops : List Operation) (n : ℕ) : Deployment :=
  stateAt (Deployment.step versions) Deployment.base ops n

/-- The head version. -/
def head : Option String := some listingPublicationFields.revision

theorem initialSchema_ne_head : some initialSchema.revision ≠ head := by decide

/-- A version some migration leads to or from. -/
def Known (version : Option String) : Prop :=
  version = none ∨ version = some initialSchema.revision ∨ version = head

section Steps

variable {s s' : Deployment} (hs : s.Sound schemaOf)

include hs

theorem attempt_upgrade_base (h : s.version = none) :
    s.attempt versions .upgrade = .ok ⟨some initialSchema.revision, schema0001, s.data⟩ := by
  have hschema : s.schema = emptySchema := by rw [hs.schema, h, schemaOf_base]
  rw [Deployment.attempt, h]
  refine Deployment.migrate_of_run _ ?_
  rw [hschema]
  exact (run_upgrade0001 (hschema ▸ hs.consistent)).1

theorem attempt_upgrade_initialSchema (h : s.version = some initialSchema.revision) :
    s.attempt versions .upgrade = .ok ⟨head, schema0002, withDraftColumns s.data⟩ := by
  have hschema : s.schema = schema0001 := by rw [hs.schema, h, schemaOf_initialSchema]
  rw [Deployment.attempt, h]
  refine Deployment.migrate_of_run _ ?_
  rw [hschema]
  exact run_upgrade0002 (hschema ▸ hs.consistent)

theorem attempt_downgrade_head (h : s.version = head) :
    s.attempt versions .downgrade =
      .ok ⟨some initialSchema.revision, schema0001, withoutListingColumns s.data⟩ := by
  have hschema : s.schema = schema0002 := by
    rw [hs.schema, h, head, schemaOf_listingPublicationFields]
  rw [Deployment.attempt, h]
  refine Deployment.migrate_of_run _ ?_
  rw [hschema]
  exact run_downgrade0002 (hschema ▸ hs.consistent)

theorem attempt_downgrade_initialSchema (h : s.version = some initialSchema.revision) :
    s.attempt versions .downgrade = .ok Deployment.base := by
  have hschema : s.schema = schema0001 := by rw [hs.schema, h, schemaOf_initialSchema]
  rw [Deployment.attempt, h]
  refine Deployment.migrate_of_run _ ?_
  rw [hschema]
  exact run_downgrade0001 (hschema ▸ hs.consistent)

omit hs in
theorem attempt_upgrade_head (h : s.version = head) : s.attempt versions .upgrade = .ok s := by
  rw [Deployment.attempt, h]
  rfl

omit hs in
theorem attempt_downgrade_base (h : s.version = none) : s.attempt versions .downgrade = .ok s := by
  rw [Deployment.attempt, h]
  rfl

end Steps

/-- A migration in either direction. -/
def migrates : Operation → Bool
  | .upgrade => true
  | .downgrade => true
  | .transaction _ => false

theorem version_of_transaction {s s' : Deployment} {script : List Sql.Dml}
    (h : s.attempt versions (.transaction script) = .ok s') : s'.version = s.version := by
  rw [Deployment.attempt] at h
  split_ifs at h
  cases hrun : Sql.Dml.run s.schema script s.data with
  | none => simp [hrun] at h
  | some d =>
    simp only [hrun] at h
    obtain rfl := Except.ok.inj h
    rfl

theorem step_transaction_version (s : Deployment) (script : List Sql.Dml) :
    (s.step versions (.transaction script)).version = s.version := by
  cases h : s.attempt versions (.transaction script) with
  | error e => rw [Deployment.step_of_error h]
  | ok s' => rw [Deployment.step_of_ok h, version_of_transaction h]

/-- What a step makes of the version. -/
theorem known_step {s : Deployment} (hs : s.Sound schemaOf) (hknown : Known s.version)
    (o : Operation) : Known (s.step versions o).version := by
  cases o with
  | upgrade =>
    rcases hknown with h | h | h
    · rw [Deployment.step_of_ok (attempt_upgrade_base hs h)]
      exact .inr (.inl rfl)
    · rw [Deployment.step_of_ok (attempt_upgrade_initialSchema hs h)]
      exact .inr (.inr rfl)
    · rw [Deployment.step_of_ok (attempt_upgrade_head h)]
      exact .inr (.inr h)
  | downgrade =>
    rcases hknown with h | h | h
    · rw [Deployment.step_of_ok (attempt_downgrade_base h)]
      exact .inl h
    · rw [Deployment.step_of_ok (attempt_downgrade_initialSchema hs h)]
      exact .inl rfl
    · rw [Deployment.step_of_ok (attempt_downgrade_head hs h)]
      exact .inr (.inl rfl)
  | transaction script => rwa [step_transaction_version]

/-- Before the first migration there is nothing. -/
theorem eq_base {s : Deployment} (hs : s.Sound schemaOf) (h : s.version = none) :
    s = Deployment.base := by
  obtain ⟨version, schema, data⟩ := s
  obtain rfl : version = none := h
  obtain rfl : schema = emptySchema := hs.schema
  obtain rfl : data = fun _ => [] := consistent_emptySchema hs.consistent
  rfl

-- ============================================================================
-- Runs
-- ============================================================================

theorem base_sound : Deployment.base.Sound schemaOf :=
  ⟨rfl, fun _ ht => absurd ht List.not_mem_nil, fun _ _ => rfl⟩

section Runs

variable (ops : List Operation) (n : ℕ)

theorem deployed_sound : (deployed ops n).Sound schemaOf :=
  Deployment.sound_stateAt versions_sound base_sound ops n

theorem deployed_zero : deployed ops 0 = Deployment.base := Machine.stateAt_zero

theorem deployed_succ {o : Operation} (h : ops[n]? = some o) :
    deployed ops (n + 1) = (deployed ops n).step versions o := Machine.stateAt_succ h

theorem deployed_succ_of_none (h : ops[n]? = none) : deployed ops (n + 1) = deployed ops n :=
  Machine.stateAt_succ_of_none h

theorem deployed_known : Known (deployed ops n).version := by
  induction n with
  | zero =>
    rw [deployed_zero]
    exact .inl rfl
  | succ n ih =>
    cases hop : ops[n]? with
    | none => rwa [deployed_succ_of_none ops n hop]
    | some o =>
      rw [deployed_succ ops n hop]
      exact known_step (deployed_sound ops n) ih o

/-- In every state of every run the schema is the one of the recorded version and
    the data satisfies it; two upgrades succeed and lead to the head, and two
    downgrades succeed and leave no type, table or index.  An upgrade at the head
    and a downgrade at the base do nothing. -/
theorem deployment_lifecycle :
    (deployed ops n).schema = schemaOf (deployed ops n).version ∧
      (deployed ops n).schema.Consistent (deployed ops n).data ∧
      (∃ next last, (deployed ops n).attempt versions .upgrade = .ok next ∧
        next.attempt versions .upgrade = .ok last ∧ last.version = head) ∧
      ∃ next, (deployed ops n).attempt versions .downgrade = .ok next ∧
        next.attempt versions .downgrade = .ok Deployment.base := by
  have hs := deployed_sound ops n
  refine ⟨hs.schema, hs.consistent, ?_, ?_⟩
  · obtain ⟨next, hnext, hsound⟩ := Deployment.attempt_upgrade versions_sound hs
    obtain ⟨last, hlast, -⟩ := Deployment.attempt_upgrade versions_sound hsound
    refine ⟨next, last, hnext, hlast, ?_⟩
    rcases deployed_known ops n with h | h | h
    · obtain rfl := Except.ok.inj (hnext.symm.trans (attempt_upgrade_base hs h))
      obtain rfl := Except.ok.inj (hlast.symm.trans (attempt_upgrade_initialSchema hsound rfl))
      rfl
    · obtain rfl := Except.ok.inj (hnext.symm.trans (attempt_upgrade_initialSchema hs h))
      obtain rfl := Except.ok.inj (hlast.symm.trans (attempt_upgrade_head rfl))
      rfl
    · obtain rfl := Except.ok.inj (hnext.symm.trans (attempt_upgrade_head h))
      obtain rfl := Except.ok.inj (hlast.symm.trans (attempt_upgrade_head h))
      exact h
  · obtain ⟨next, hnext, hsound⟩ := Deployment.attempt_downgrade versions_sound hs
    refine ⟨next, hnext, ?_⟩
    rcases deployed_known ops n with h | h | h
    · rw [eq_base hs h] at hnext
      obtain rfl := Except.ok.inj (hnext.symm.trans (attempt_downgrade_base rfl))
      exact attempt_downgrade_base rfl
    · obtain rfl := Except.ok.inj (hnext.symm.trans (attempt_downgrade_initialSchema hs h))
      exact attempt_downgrade_base rfl
    · obtain rfl := Except.ok.inj (hnext.symm.trans (attempt_downgrade_head hs h))
      exact attempt_downgrade_initialSchema hsound rfl

end Runs

-- ============================================================================
-- A run
-- ============================================================================

/-- The first three rows: a vendor, a renter, and an asset of the vendor. -/
def seed : List Sql.Dml :=
  [⟨"users", [.insert (sampleUser 1 "+2341" .vendor).toRow,
     .insert (sampleUser 2 "+2342" .renter).toRow]⟩,
   ⟨"assets", [.insert (sampleAsset 12 .lagos 5000).toRow]⟩]

def seedDb : Database :=
  { sampleDb with
    assets := [sampleAsset 12 .lagos 5000]
    availabilityWindows := []
    bookings := []
    handoverRecords := [] }

def sampleRun : List Operation := [.upgrade, .upgrade, .transaction seed, .downgrade, .upgrade]

theorem sampleRun_version : (deployed sampleRun 3).version = head ∧
    (deployed sampleRun 4).version = some initialSchema.revision ∧
    (deployed sampleRun 5).version = head := by decide +kernel

-- ============================================================================
-- What migrations keep
-- ============================================================================

theorem withoutListing_idem (r : Sql.Row) :
    withoutListing (withoutListing r) = withoutListing r := by
  rw [withoutListing, withoutListing, List.filter_filter]
  simp only [Bool.and_self]

theorem withoutListingColumns_idem (d : Data) :
    withoutListingColumns (withoutListingColumns d) = withoutListingColumns d := by
  show (d.mapTable "assets" withoutListing).mapTable "assets" withoutListing = _
  rw [Sql.Data.mapTable_mapTable]
  simp only [withoutListing_idem]
  rfl

/-- Data of revision 0001 has none of the columns. -/
theorem withoutListingColumns_eq_self {d : Data} (h : schema0001.Consistent d) :
    withoutListingColumns d = d := by
  rw [← withoutListing_withDrafts h, withoutListingColumns_idem]

/-- One migration step that does not lead to the empty database. -/
theorem withoutListing_step {s : Deployment} (hs : s.Sound schemaOf) (hknown : Known s.version)
    {o : Operation} (ho : migrates o) (hbase : s.version ≠ none)
    (hbase' : (s.step versions o).version ≠ none) :
    withoutListingColumns (s.step versions o).data = withoutListingColumns s.data := by
  have hversion := hknown.resolve_left hbase
  cases o with
  | transaction script => cases ho
  | upgrade =>
    rcases hversion with h | h
    · have hdata : schema0001.Consistent s.data := by
        rw [← schemaOf_initialSchema, ← h, ← hs.schema]
        exact hs.consistent
      rw [Deployment.step_of_ok (attempt_upgrade_initialSchema hs h),
        withoutListing_withDrafts hdata, withoutListingColumns_eq_self hdata]
    · rw [Deployment.step_of_ok (attempt_upgrade_head h)]
  | downgrade =>
    rcases hversion with h | h
    · rw [Deployment.step_of_ok (attempt_downgrade_initialSchema hs h)] at hbase'
      exact absurd rfl hbase'
    · rw [Deployment.step_of_ok (attempt_downgrade_head hs h), withoutListingColumns_idem]

/-- Over any stretch of a run in which only migrations run and none of them leads
    back to the empty database, every row of every table keeps all its values
    outside the five listing columns. -/
theorem migrations_keep_rows {ops : List Operation} {i j : ℕ} (hij : i ≤ j)
    (hops : ∀ k, i ≤ k → k < j → ∀ o, ops[k]? = some o → migrates o)
    (hbase : ∀ k, i ≤ k → k ≤ j → (deployed ops k).version ≠ none) :
    withoutListingColumns (deployed ops j).data = withoutListingColumns (deployed ops i).data := by
  induction j, hij using Nat.le_induction with
  | base => rfl
  | succ j hij ih =>
    have ih := ih (fun k hk hkj => hops k hk (by omega)) (fun k hk hkj => hbase k hk (by omega))
    cases hop : ops[j]? with
    | none => rw [deployed_succ_of_none ops j hop, ih]
    | some o =>
      have hbase' := hbase (j + 1) (by omega) (le_refl _)
      rw [deployed_succ ops j hop] at hbase' ⊢
      rw [← ih]
      exact withoutListing_step (deployed_sound ops j) (deployed_known ops j)
        (hops j hij (by omega) o hop) (hbase j hij (by omega)) hbase'

/-- Down to revision 0001 and up again. -/
theorem migrations_keep_rows_sample :
    withoutListingColumns (deployed sampleRun 5).data =
      withoutListingColumns (deployed sampleRun 3).data := by
  apply migrations_keep_rows (by omega)
  · intro k h₁ h₂ o ho
    obtain rfl | rfl : k = 3 ∨ k = 4 := by omega
    · cases ho
      rfl
    · cases ho
      rfl
  · intro k h₁ h₂
    obtain ⟨h₃, h₄, h₅⟩ := sampleRun_version
    obtain rfl | rfl | rfl : k = 3 ∨ k = 4 ∨ k = 5 := by omega
    · simp [h₃, head]
    · simp [h₄]
    · simp [h₅, head]

-- ============================================================================
-- What only a transaction does
-- ============================================================================

/-- Every stored asset is a draft, where there is a listing status. -/
def AllDrafts (s : Deployment) : Prop :=
  s.version = head → ∀ r ∈ s.data "assets", r.get "listing_status" = .enum "draft"

/-- No migration publishes: drafts stay drafts, and what is migrated becomes one. -/
theorem allDrafts_step {s : Deployment} (hs : s.Sound schemaOf) (hknown : Known s.version)
    {o : Operation} (ho : migrates o) (h : AllDrafts s) : AllDrafts (s.step versions o) := by
  cases o with
  | transaction script => cases ho
  | upgrade =>
    rcases hknown with hv | hv | hv
    · rw [Deployment.step_of_ok (attempt_upgrade_base hs hv)]
      intro hhead
      exact absurd hhead initialSchema_ne_head
    · have hdata : schema0001.Consistent s.data := by
        rw [← schemaOf_initialSchema, ← hv, ← hs.schema]
        exact hs.consistent
      rw [Deployment.step_of_ok (attempt_upgrade_initialSchema hs hv)]
      intro _ r hr
      obtain ⟨r₀, hr₀, rfl⟩ := List.mem_map.mp hr
      exact Sql.Row.get_append_right (fresh_of_mem hdata r₀ hr₀ _ (by decide))
    · rw [Deployment.step_of_ok (attempt_upgrade_head hv)]
      exact h
  | downgrade =>
    rcases hknown with hv | hv | hv
    · rw [Deployment.step_of_ok (attempt_downgrade_base hv)]
      exact h
    · rw [Deployment.step_of_ok (attempt_downgrade_initialSchema hs hv)]
      intro hhead
      cases hhead
    · rw [Deployment.step_of_ok (attempt_downgrade_head hs hv)]
      intro hhead
      exact absurd hhead initialSchema_ne_head

/-- The last operation before which every asset was a draft is a transaction that
    ends this, and the head has not been left since. -/
theorem exists_transaction_of_not_allDrafts {ops : List Operation} {n : ℕ}
    (h : ¬ AllDrafts (deployed ops n)) :
    ∃ k < n, (∃ script, ops[k]? = some (.transaction script)) ∧ AllDrafts (deployed ops k) ∧
      ¬ AllDrafts (deployed ops (k + 1)) ∧
      ∀ m, k < m → m ≤ n → (deployed ops m).version = head := by
  have hhead : ∀ {m}, ¬ AllDrafts (deployed ops m) → (deployed ops m).version = head := by
    intro m hm
    exact (Classical.not_imp.mp hm).1
  induction n with
  | zero =>
    rw [deployed_zero] at h
    exact absurd (fun hversion => by cases hversion) h
  | succ n ih =>
    by_cases hprev : AllDrafts (deployed ops n)
    · refine ⟨n, by omega, ?_, hprev, h, ?_⟩
      · cases hop : ops[n]? with
        | none =>
          rw [deployed_succ_of_none ops n hop] at h
          exact absurd hprev h
        | some o =>
          cases o with
          | transaction script => exact ⟨script, rfl⟩
          | _ =>
            rw [deployed_succ ops n hop] at h
            exact absurd (allDrafts_step (deployed_sound ops n) (deployed_known ops n) rfl hprev) h
      · intro m hm hmn
        obtain rfl : m = n + 1 := by omega
        exact hhead h
    · obtain ⟨k, hk, hop, hdrafts, hafter, hversion⟩ := ih hprev
      refine ⟨k, by omega, hop, hdrafts, hafter, ?_⟩
      intro m hm hmn
      rcases Nat.lt_or_ge m (n + 1) with hlt | hge
      · exact hversion m hm (by omega)
      · obtain rfl : m = n + 1 := by omega
        exact hhead h

-- ============================================================================
-- What the models find
-- ============================================================================

/-- What the constraints make of a database, in the terms of its records. -/
structure Tables.Regular (db : Database) : Prop where
  /-- every asset has its vendor -/
  vendor : ∀ a ∈ db.assets, ∃ u ∈ db.users, u.id = a.vendorId
  /-- a confirmed or active booking has its asset to itself on each of its days -/
  exclusive : ∀ b ∈ db.bookings, ∀ c ∈ db.bookings, ∀ d, b.assetId = c.assetId →
    b.Reserving → c.Reserving → b.startsOn ≤ d → d ≤ b.endsOn → c.startsOn ≤ d → d ≤ c.endsOn →
    b = c
  /-- a completed handover is evidenced and signed by the parties of its booking -/
  handover : ∀ h ∈ db.handoverRecords, h.status = .completed → h.Evidenced ∧
    ∃ b ∈ db.bookings, b.id = h.bookingId ∧ h.vendorSignerId = some b.vendorId ∧
      h.renterSignerId = some b.renterId
  payment : ∀ p ∈ db.payments, p.Lawful
  kycProfile : ∀ k ∈ db.kycProfiles, k.Lawful

theorem Tables.Valid.exclusive {db : Database} (hvalid : db.Valid) {b c : Booking} {d : Int}
    (hb : b ∈ db.bookings) (hc : c ∈ db.bookings) (hasset : b.assetId = c.assetId)
    (hbres : b.Reserving) (hcres : c.Reserving) (hb₁ : b.startsOn ≤ d) (hb₂ : d ≤ b.endsOn)
    (hc₁ : c.startsOn ≤ d) (hc₂ : d ≤ c.endsOn) : b = c := by
  by_contra hne
  have hpair := (noOverlap_iff hvalid.bookingDates).mp hvalid.noOverlap
  have hsymm : Std.Symm fun b c : Booking => ¬ b.Conflicts c := ⟨fun _ _ h hc => h hc.symm⟩
  exact hpair.forall hb hc hne ⟨hbres, hcres, hasset, by omega, by omega⟩

theorem Tables.Valid.regular {db : Database} (hvalid : db.Valid) : db.Regular := by
  refine ⟨hvalid.keysHold.vendor, ?_, ?_, ?_, ?_⟩
  · intro b hb c hc d hasset hbres hcres hb₁ hb₂ hc₁ hc₂
    exact hvalid.exclusive hb hc hasset hbres hcres hb₁ hb₂ hc₁ hc₂
  · intro h hmem hstatus
    have hev := hvalid.evidenced hmem hstatus
    obtain ⟨b, hb, hid, hvendor⟩ := hvalid.vendorSigner hmem hev.vendorSigner
    obtain ⟨b', hb', hid', hrenter⟩ := hvalid.renterSigner hmem hev.renterSigner
    obtain rfl : b = b' := eq_of_key_eq hvalid.bookingIds hb hb' (hid.trans hid'.symm)
    exact ⟨hev, b, hb, hid, hvendor, hrenter⟩
  · intro p hp
    have htable := hvalid Migration0001.payments (by simp [schema0002])
    refine p.accepts_iff.mp (htable.accepts p.toRow ?_)
    show p.toRow ∈ db.data "payments"
    rw [data_payments]
    exact List.mem_map_of_mem hp
  · intro k hk
    have htable := hvalid Migration0001.kycProfiles (by simp [schema0002])
    refine k.accepts_iff.mp (htable.accepts k.toRow ?_)
    exact List.mem_map_of_mem hk

/-- At the head the data is of revision 0002. -/
theorem consistent_of_head {s : Deployment} (hs : s.Sound schemaOf) (h : s.version = head) :
    schema0002.Consistent s.data := by
  have hschema : s.schema = schema0002 := by
    rw [hs.schema, h, head, schemaOf_listingPublicationFields]
  exact hschema ▸ hs.consistent

/-- Whatever migrations and transactions came before, at the head the stored rows
    hold records, value by value, and these satisfy the rules of the business;
    they load exactly as far as Python has the values. -/
theorem deployment_loads (py : Py.Python) {ops : List Operation} {n : ℕ}
    (h : (deployed ops n).version = head) :
    ∃ db, Tables.read (deployed ops n).data = some db ∧
      (deployed ops n).data.SameValues db.data ∧ db.Valid ∧ db.Regular ∧
      ((Tables.load py (deployed ops n).data).isSome ↔ db.Loadable py) ∧
      (Tables.load py (deployed ops n).data = some db ↔ db.Exact py) := by
  have hdata := consistent_of_head (deployed_sound ops n) h
  obtain ⟨db, hread, hstored, hvalid⟩ := read_of_valid hdata.valid hdata.within
  exact ⟨db, hread, hstored ▸ hdata.valid.sameValues, hvalid, hvalid.regular, load_of_read hread⟩

theorem deployment_loads_sample : ∃ db, Tables.read (deployed sampleRun 3).data = some db ∧
    db.Valid ∧ db.Regular ∧
    (Tables.load Py.reference (deployed sampleRun 3).data = some db ↔ db.Exact Py.reference) := by
  obtain ⟨db, hread, -, hvalid, hregular, -, hexact⟩ :=
    deployment_loads Py.reference sampleRun_version.1
  exact ⟨db, hread, hvalid, hregular, hexact⟩

/-- A listing that is read as anything but a draft is stored as such. -/
theorem not_allDrafts_of_read {s : Deployment} (hs : s.Sound schemaOf) (h : s.version = head)
    {db : Database} (hread : Tables.read s.data = some db) {a : Asset} (ha : a ∈ db.assets)
    (hstatus : a.listingStatus ≠ .draft) : ¬ AllDrafts s := by
  intro hdrafts
  have hdata := consistent_of_head hs h
  obtain ⟨db', hread', hstored, -⟩ := read_of_valid hdata.valid hdata.within
  obtain rfl := Option.some.inj (hread.symm.trans hread')
  have hrow : a.toRow ∈ schema0002.arrange s.data "assets" := by
    rw [← hstored, data_assets]
    exact List.mem_map_of_mem ha
  have htable : schema0002.table? Migration0002.assets.name = some Migration0002.assets := rfl
  rw [show "assets" = Migration0002.assets.name from rfl,
    Sql.Schema.arrange_of_table htable] at hrow
  obtain ⟨r, hr, heq⟩ := List.mem_map.mp hrow
  have hconforms := (hdata.valid _ (Sql.table?_eq_some htable).1).1 r hr
  have hget : r.get "listing_status" = .enum a.listingStatus.value := by
    rw [← hconforms.get_project, heq]
    rfl
  have hdraft := hdrafts h r hr
  rw [hget, Sql.Value.enum.injEq] at hdraft
  exact hstatus (ListingStatus.value_injective hdraft)

/-- Nothing is published but by a transaction: if the public search could return
    an asset, then before some transaction every asset was a draft, after it not,
    and the head has been deployed since. -/
theorem published_by_transaction {ops : List Operation} {n : ℕ} {db : Database}
    (hhead : (deployed ops n).version = head)
    (hread : Tables.read (deployed ops n).data = some db) {a : Asset} (ha : a ∈ db.assets)
    (hvisible : PubliclyVisible db a) :
    ∃ k < n, (∃ script, ops[k]? = some (.transaction script)) ∧ AllDrafts (deployed ops k) ∧
      ¬ AllDrafts (deployed ops (k + 1)) ∧
      ∀ m, k < m → m ≤ n → (deployed ops m).version = head := by
  apply exists_transaction_of_not_allDrafts
  refine not_allDrafts_of_read (deployed_sound ops n) hhead hread ha ?_
  rw [hvisible.active]
  exact fun h => by cases h

/-- The asset of the seed. -/
theorem published_by_transaction_sample : ∃ k < 3,
    (∃ script, sampleRun[k]? = some (.transaction script)) ∧ AllDrafts (deployed sampleRun k) ∧
      ¬ AllDrafts (deployed sampleRun (k + 1)) ∧
      ∀ m, k < m → m ≤ 3 → (deployed sampleRun m).version = head := by
  have hread : Tables.read (deployed sampleRun 3).data = some seedDb := by rfl
  have hvisible : PubliclyVisible seedDb (sampleAsset 12 .lagos 5000) :=
    ⟨rfl, rfl, rfl, rfl, sampleUser 1 "+2341" .vendor, List.mem_cons_self, rfl, rfl, rfl⟩
  exact published_by_transaction sampleRun_version.1 hread List.mem_cons_self hvisible

end Vouch
