/-
  Vouch.App.Listing

  What the inventory queries are for, stated on the tables: the publicly
  visible assets, the filters, and the sorted listing; and that the statements
  compute it (`execute_of_means`, `means_public`, `means_admits`).

  `Means py db cs P` says that the clauses `cs` can be bound and then select
  exactly the assets with `P`.  It composes over appended clauses, so each
  clause is treated once.
-/

import Vouch.App.Inventory
import Vouch.Db.Valid

namespace Vouch

open Py (Python UUID Instant Date Datetime Decimal Timestamptz)
open Sql (Numeric)
open Keyset (sortByKey Ordered)

-- ============================================================================
-- The listing
-- ============================================================================

/-- The five visibility rules. -/
structure PubliclyVisible (db : Database) (a : Asset) : Prop where
  active : a.listingStatus = .active
  available : a.isAvailable = true
  notDeleted : a.deletedAt = none
  lagos : a.city = .lagos
  vendor : ∃ u ∈ db.users, u.id = a.vendorId ∧ u.isActive = true ∧ u.deletedAt = none

/-- A blocked window of the asset overlaps the dates. -/
def BlockedDuring (db : Database) (a : Asset) (startsOn endsOn : Int) : Prop :=
  ∃ w ∈ db.availabilityWindows, w.assetId = a.id ∧ w.isBlocked = true ∧
    w.startsAt ≤ endsOn ∧ startsOn ≤ w.endsAt

/-- A confirmed or active booking of the asset overlaps the dates. -/
def BookedDuring (db : Database) (a : Asset) (startsOn endsOn : Int) : Prop :=
  ∃ b ∈ db.bookings, b.assetId = a.id ∧ (b.status = .confirmed ∨ b.status = .active) ∧
    b.startsOn ≤ endsOn ∧ startsOn ≤ b.endsOn

/-- The asset passes the filters. -/
structure Filters.Matches (db : Database) (f : Filters) (a : Asset) : Prop where
  category : ∀ label ∈ f.category, a.category.value = label
  minDailyRate : ∀ r ∈ f.minDailyRate, r.toRat ≤ a.dailyRate.toRat
  maxDailyRate : ∀ r ∈ f.maxDailyRate, a.dailyRate.toRat ≤ r.toRat
  available : ∀ s ∈ f.startsOn, ∀ e ∈ f.endsOn,
    ¬ BlockedDuring db a s.val e.val ∧ ¬ BookedDuring db a s.val e.val

instance (db : Database) (a : Asset) : Decidable (PubliclyVisible db a) :=
  decidable_of_iff
    (a.listingStatus = .active ∧ a.isAvailable = true ∧ a.deletedAt = none ∧ a.city = .lagos ∧
      ∃ u ∈ db.users, u.id = a.vendorId ∧ u.isActive = true ∧ u.deletedAt = none)
    ⟨fun ⟨h₁, h₂, h₃, h₄, h₅⟩ => ⟨h₁, h₂, h₃, h₄, h₅⟩,
      fun ⟨h₁, h₂, h₃, h₄, h₅⟩ => ⟨h₁, h₂, h₃, h₄, h₅⟩⟩

instance (db : Database) (a : Asset) (s e : Int) : Decidable (BlockedDuring db a s e) :=
  inferInstanceAs (Decidable (∃ _ ∈ _, _))

instance (db : Database) (a : Asset) (s e : Int) : Decidable (BookedDuring db a s e) :=
  inferInstanceAs (Decidable (∃ _ ∈ _, _))

instance (db : Database) (f : Filters) (a : Asset) : Decidable (f.Matches db a) :=
  decidable_of_iff
    ((∀ label ∈ f.category, a.category.value = label) ∧
      (∀ r ∈ f.minDailyRate, r.toRat ≤ a.dailyRate.toRat) ∧
      (∀ r ∈ f.maxDailyRate, a.dailyRate.toRat ≤ r.toRat) ∧
      ∀ s ∈ f.startsOn, ∀ e ∈ f.endsOn,
        ¬ BlockedDuring db a s.val e.val ∧ ¬ BookedDuring db a s.val e.val)
    ⟨fun ⟨h₁, h₂, h₃, h₄⟩ => ⟨h₁, h₂, h₃, h₄⟩, fun ⟨h₁, h₂, h₃, h₄⟩ => ⟨h₁, h₂, h₃, h₄⟩⟩

/-- The assets a search may return, in key order. -/
def listing (db : Database) (f : Filters) : List Asset :=
  sortByKey assetKey (db.assets.filter fun a => PubliclyVisible db a ∧ f.Matches db a)

/-- The filters `list_assets` accepts: a label of the enum, dates given
    together and in order, rates that NUMERIC(12, 2) represents and no longer
    than a `numeric`. -/
structure Filters.Valid (f : Filters) : Prop where
  category : ∀ label ∈ f.category, label ∈ assetCategoryLabels
  dates : (f.startsOn = none ∧ f.endsOn = none) ∨
    ∃ s e, f.startsOn = some s ∧ f.endsOn = some e ∧ s ≤ e
  minDailyRate : ∀ r ∈ f.minDailyRate, r.IsNumeric ∧ ∃ n : Numeric 12 2, n.toRat = r.toRat
  maxDailyRate : ∀ r ∈ f.maxDailyRate, r.IsNumeric ∧ ∃ n : Numeric 12 2, n.toRat = r.toRat

/-- The amount is a `numeric` and rounds into NUMERIC(12, 2). -/
def FitsRate (r : Decimal) : Prop := r.IsNumeric ∧ (Numeric.cast 12 2 r.toRat).isSome

instance (r : Decimal) : Decidable (FitsRate r) := inferInstanceAs (Decidable (_ ∧ _))

/-- The filter values fit the columns they are compared with: the category is a
    label of the enum, and the rates round into their column. -/
structure Filters.Fits (f : Filters) : Prop where
  category : ∀ label ∈ f.category, label ∈ assetCategoryLabels
  minDailyRate : ∀ r ∈ f.minDailyRate, FitsRate r
  maxDailyRate : ∀ r ∈ f.maxDailyRate, FitsRate r

instance (f : Filters) : Decidable f.Fits :=
  decidable_of_iff
    ((∀ label ∈ f.category, label ∈ assetCategoryLabels) ∧
      (∀ r ∈ f.minDailyRate, FitsRate r) ∧ ∀ r ∈ f.maxDailyRate, FitsRate r)
    ⟨fun ⟨h₁, h₂, h₃⟩ => ⟨h₁, h₂, h₃⟩, fun ⟨h₁, h₂, h₃⟩ => ⟨h₁, h₂, h₃⟩⟩

/-- The driver sends the amount, and what it sends rounds into NUMERIC(12, 2). -/
def BindableRate (py : Python) (r : Decimal) : Prop :=
  ∃ q ∈ py.numericParameter r, (Numeric.cast 12 2 q).isSome

instance (py : Python) (r : Decimal) : Decidable (BindableRate py r) :=
  inferInstanceAs (Decidable (∃ _ ∈ _, _))

/-- The filter values can be bound: the category is a label of the enum, and the
    rates are sent and round into their column. -/
structure Filters.Bindable (py : Python) (f : Filters) : Prop where
  category : ∀ label ∈ f.category, label ∈ assetCategoryLabels
  minDailyRate : ∀ r ∈ f.minDailyRate, BindableRate py r
  maxDailyRate : ∀ r ∈ f.maxDailyRate, BindableRate py r

instance (py : Python) (f : Filters) : Decidable (f.Bindable py) :=
  decidable_of_iff
    ((∀ label ∈ f.category, label ∈ assetCategoryLabels) ∧
      (∀ r ∈ f.minDailyRate, BindableRate py r) ∧ ∀ r ∈ f.maxDailyRate, BindableRate py r)
    ⟨fun ⟨h₁, h₂, h₃⟩ => ⟨h₁, h₂, h₃⟩, fun ⟨h₁, h₂, h₃⟩ => ⟨h₁, h₂, h₃⟩⟩

/-- The asset passes the filters as the statement compares them: rates as they
    were bound. -/
structure Filters.Selects (py : Python) (db : Database) (f : Filters) (a : Asset) : Prop where
  category : ∀ label ∈ f.category, a.category.value = label
  minDailyRate : ∀ r ∈ f.minDailyRate, ∀ n, bindRate py r = .ok n → n ≤ a.dailyRate
  maxDailyRate : ∀ r ∈ f.maxDailyRate, ∀ n, bindRate py r = .ok n → a.dailyRate ≤ n
  available : ∀ s ∈ f.startsOn, ∀ e ∈ f.endsOn,
    ¬ BlockedDuring db a s.val e.val ∧ ¬ BookedDuring db a s.val e.val

/-- The same of rates that are sent as they are: rounded to the column's scale. -/
structure Filters.Admits (db : Database) (f : Filters) (a : Asset) : Prop where
  category : ∀ label ∈ f.category, a.category.value = label
  minDailyRate : ∀ r ∈ f.minDailyRate, ∀ n ∈ Numeric.cast 12 2 r.toRat, n ≤ a.dailyRate
  maxDailyRate : ∀ r ∈ f.maxDailyRate, ∀ n ∈ Numeric.cast 12 2 r.toRat, a.dailyRate ≤ n
  available : ∀ s ∈ f.startsOn, ∀ e ∈ f.endsOn,
    ¬ BlockedDuring db a s.val e.val ∧ ¬ BookedDuring db a s.val e.val

instance Filters.decidableAdmits (db : Database) (f : Filters) (a : Asset) :
    Decidable (f.Admits db a) :=
  decidable_of_iff
    ((∀ label ∈ f.category, a.category.value = label) ∧
      (∀ r ∈ f.minDailyRate, ∀ n ∈ Numeric.cast 12 2 r.toRat, n ≤ a.dailyRate) ∧
      (∀ r ∈ f.maxDailyRate, ∀ n ∈ Numeric.cast 12 2 r.toRat, a.dailyRate ≤ n) ∧
      ∀ s ∈ f.startsOn, ∀ e ∈ f.endsOn,
        ¬ BlockedDuring db a s.val e.val ∧ ¬ BookedDuring db a s.val e.val)
    ⟨fun ⟨h₁, h₂, h₃, h₄⟩ => ⟨h₁, h₂, h₃, h₄⟩, fun ⟨h₁, h₂, h₃, h₄⟩ => ⟨h₁, h₂, h₃, h₄⟩⟩

/-- The assets the search statement selects, in key order. -/
def admitted (db : Database) (f : Filters) : List Asset :=
  sortByKey assetKey (db.assets.filter fun a => PubliclyVisible db a ∧ f.Admits db a)

/-- A search without filters. -/
theorem Filters.valid_empty : Filters.Valid {} := by
  refine ⟨?_, .inl ⟨rfl, rfl⟩, ?_, ?_⟩ <;> simp

-- ============================================================================
-- Keys of the tables
-- ============================================================================

/-- Asset ids are unique. -/
def Tables.AssetIdsUnique (db : Database) : Prop := db.assets.Pairwise fun a b => a.id ≠ b.id

/-- Every `vendor_id` names exactly one user. -/
def Tables.VendorsResolve (db : Database) : Prop :=
  ∀ a ∈ db.assets, ∃ u, (db.users.filter fun u => u.id = a.vendorId) = [u]

/-- The user an asset is joined with. -/
def Tables.vendor (db : Database) (a : Asset) : Option User :=
  db.users.find? fun u => u.id = a.vendorId

theorem Tables.KeysHold.assetIdsUnique {db : Database} (h : db.KeysHold) : db.AssetIdsUnique :=
  h.assetIds

theorem Tables.KeysHold.vendorsResolve {db : Database} (h : db.KeysHold) : db.VendorsResolve := by
  intro a ha
  obtain ⟨u, hu, hid⟩ := h.vendor a ha
  exact ⟨u, hid ▸ filter_eq_singleton h.userIds hu⟩

theorem assetKey_inj {a b : Asset} (h : assetKey a = assetKey b) : a.id = b.id :=
  congrArg (fun k => (ofLex k).2) h

theorem Tables.AssetIdsUnique.keys {db : Database} (h : db.AssetIdsUnique) :
    db.assets.Pairwise fun a b => assetKey a ≠ assetKey b :=
  h.imp fun hne hk => hne (assetKey_inj hk)

theorem mem_listing {db : Database} {f : Filters} {a : Asset} :
    a ∈ listing db f ↔ a ∈ db.assets ∧ PubliclyVisible db a ∧ f.Matches db a := by
  simp [listing, Keyset.mem_sortByKey]

theorem ordered_listing {db : Database} (h : db.AssetIdsUnique) (f : Filters) :
    Ordered assetKey (listing db f) :=
  Keyset.ordered_sortByKey (h.keys.filter _)

theorem mem_admitted {db : Database} {f : Filters} {a : Asset} :
    a ∈ admitted db f ↔ a ∈ db.assets ∧ PubliclyVisible db a ∧ f.Admits db a := by
  simp [admitted, Keyset.mem_sortByKey]

theorem ordered_admitted {db : Database} (h : db.AssetIdsUnique) (f : Filters) :
    Ordered assetKey (admitted db f) :=
  Keyset.ordered_sortByKey (h.keys.filter _)

theorem vendor_eq_some {db : Database} {a : Asset} {u : User}
    (h : (db.users.filter fun u => u.id = a.vendorId) = [u]) : db.vendor a = some u := by
  rw [Tables.vendor, ← List.head?_filter, h]
  rfl

/-- The one user an asset names carries its vendor rules. -/
theorem exists_vendor_iff {db : Database} {a : Asset} {u : User}
    (h : (db.users.filter fun u => u.id = a.vendorId) = [u]) (P : User → Prop) :
    (∃ v ∈ db.users, v.id = a.vendorId ∧ P v) ↔ P u := by
  have hmem : ∀ v, (v ∈ db.users ∧ v.id = a.vendorId) ↔ v = u := by
    intro v
    rw [← List.mem_singleton (a := v) (b := u), ← h]
    simp
  refine ⟨fun ⟨v, hv, hid, hP⟩ => ?_, fun hP => ?_⟩
  · obtain rfl := (hmem v).mp ⟨hv, hid⟩
    exact hP
  · obtain ⟨hu, hid⟩ := (hmem u).mpr rfl
    exact ⟨u, hu, hid, hP⟩

-- ============================================================================
-- The meaning of clauses
-- ============================================================================

/-- The clauses bind, and then select exactly the assets with `P`. -/
def Means (py : Python) (db : Database) (cs : List (Clause Decimal Datetime))
    (P : Asset → Prop) : Prop :=
  ∃ bs, cs.mapM (Clause.bind py) = .ok bs ∧
    ∀ a ∈ db.assets, (bs.all fun c => c.eval db a (db.vendor a)) = true ↔ P a

section Means

variable {py : Python} {db : Database} {cs ds : List (Clause Decimal Datetime)}
  {P Q : Asset → Prop}

theorem Means.nil : Means py db [] fun _ => True := ⟨[], rfl, by simp⟩

theorem Means.single {c : Clause Decimal Datetime} {b : BoundClause} (hb : c.bind py = .ok b)
    (h : ∀ a ∈ db.assets, b.eval db a (db.vendor a) = true ↔ P a) : Means py db [c] P := by
  refine ⟨[b], ?_, ?_⟩
  · simp [hb, bind, Except.bind, pure, Except.pure]
  · simpa using h

theorem Means.append (hc : Means py db cs P) (hd : Means py db ds Q) :
    Means py db (cs ++ ds) fun a => P a ∧ Q a := by
  obtain ⟨bs, hbs, hP⟩ := hc
  obtain ⟨bs', hbs', hQ⟩ := hd
  refine ⟨bs ++ bs', ?_, fun a ha => ?_⟩
  · simp [List.mapM_append, hbs, hbs', bind, Except.bind, pure, Except.pure]
  · rw [List.all_append, Bool.and_eq_true, hP a ha, hQ a ha]

theorem Means.congr (hc : Means py db cs P) (h : ∀ a ∈ db.assets, P a ↔ Q a) :
    Means py db cs Q := by
  obtain ⟨bs, hbs, hP⟩ := hc
  exact ⟨bs, hbs, fun a ha => (hP a ha).trans (h a ha)⟩

/-- An optional filter. -/
theorem Means.option {α : Type} {c : α → Clause Decimal Datetime} {P : α → Asset → Prop}
    {o : Option α} (h : ∀ x ∈ o, Means py db [c x] (P x)) :
    Means py db (o.map c).toList fun a => ∀ x ∈ o, P x a := by
  cases o with
  | none => exact Means.nil.congr (by simp)
  | some x => exact (h x rfl).congr (by simp)

end Means

/-- The statement joins every asset with its one user. -/
theorem source_filter {db : Database} (h : db.VendorsResolve) {s : Select} (hjoin : s.join = true)
    (bs : List BoundClause) :
    ((s.source db).filter fun p => bs.all (Clause.eval db p.1 p.2)).map Prod.fst =
      db.assets.filter fun a => bs.all fun c => c.eval db a (db.vendor a) := by
  rw [Select.source, if_pos hjoin]
  have hassets : ∀ l : List Asset, (∀ a ∈ l, a ∈ db.assets) →
      ((l.flatMap fun a => (db.users.filter fun u => u.id = a.vendorId).map fun u =>
        (a, some u)).filter fun p => bs.all (Clause.eval db p.1 p.2)).map Prod.fst =
      l.filter fun a => bs.all fun c => c.eval db a (db.vendor a) := by
    intro l hl
    induction l with
    | nil => rfl
    | cons a l ih =>
        obtain ⟨ha, hl⟩ := List.forall_mem_cons.mp hl
        obtain ⟨u, hu⟩ := h a ha
        simp only [List.flatMap_cons, hu, List.map_cons, List.map_nil, List.filter_append,
          List.map_append, ih hl, List.filter_cons, vendor_eq_some hu]
        split <;> simp
  exact hassets db.assets fun _ ha => ha

/-- What a search statement returns, from the meaning of its clauses. -/
theorem execute_of_means {py : Python} {db : Database} {s : Select} {P : Asset → Prop}
    [DecidablePred P] (h : Means py db s.clauses P) (hvendor : db.VendorsResolve)
    (hjoin : s.join = true) (hord : s.ordered = true) {n : Nat} (hlimit : s.limit = some n) :
    s.execute py db = .ok ((sortByKey assetKey (db.assets.filter fun a => P a)).take n) := by
  obtain ⟨bs, hbs, hP⟩ := h
  have hfilter : (db.assets.filter fun a => bs.all fun c => c.eval db a (db.vendor a)) =
      db.assets.filter fun a => P a := by
    apply List.filter_congr
    intro a ha
    rw [Bool.eq_iff_iff, hP a ha, decide_eq_true_iff]
  simp only [Select.execute, hbs, bind, Except.bind, source_filter hvendor hjoin, hfilter, hord,
    hlimit, if_true]

/-- The search statement of filters and the clauses of a cursor, if any. -/
def statementOf (f : Filters) (cs : List (Clause Decimal Datetime)) (limit : Nat) : Select :=
  { ((publicVisibilityClauses {}).where f.clauses).where cs with
    ordered := true
    limit := some (limit + 1) }

/-- The clauses a cursor adds. -/
def cursorClauses (py : Python) : Option String → Except Exc (List (Clause Decimal Datetime))
  | none => .ok []
  | some cursor => (cursorClause py cursor).map ([·])

/-- Building the statement fails only on the cursor. -/
theorem searchStatement_eq (py : Python) (q : SearchParams) (limit : Nat) :
    searchStatement py q limit =
      (cursorClauses py q.cursor).map (statementOf q.toFilters · limit) := by
  cases hc : q.cursor with
  | none => simp [searchStatement, hc, cursorClauses, statementOf, Select.where, Except.map,
      bind, Except.bind]
  | some cursor =>
    cases hp : cursorClause py cursor with
    | error e => simp [searchStatement, hc, hp, cursorClauses, Except.map, bind, Except.bind]
    | ok clause =>
      simp [searchStatement, hc, hp, cursorClauses, statementOf, Except.map, bind, Except.bind]

/-- A search whose cursor gives no clause ends before any statement runs. -/
theorem searchPublicAssets_eq_error {py : Python} {db : Database} {q : SearchParams} {e : Exc}
    (h : cursorClauses py q.cursor = .error e) :
    searchPublicAssets py db q = ⟨[], .error e⟩ := by
  simp only [searchPublicAssets, searchStatement_eq, h, Except.map]

/-- One search, in terms of its statement. -/
theorem searchPublicAssets_eq {py : Python} {db : Database} {q : SearchParams}
    {cs : List (Clause Decimal Datetime)} (h : cursorClauses py q.cursor = .ok cs)
    (hmax : q.limit ≤ maxPageLimit) :
    searchPublicAssets py db q =
      ⟨[statementOf q.toFilters cs q.limit],
        do buildPage py q.limit (← (statementOf q.toFilters cs q.limit).run py db)⟩ := by
  have hlimit : min q.limit maxPageLimit = q.limit := min_eq_left hmax
  simp only [searchPublicAssets, hlimit, searchStatement_eq, h, Except.map]

/-- The visibility clauses mean the visibility rules. -/
theorem means_public {py : Python} {db : Database} (hvendor : db.VendorsResolve) :
    Means py db (publicVisibilityClauses {}).clauses (PubliclyVisible db) := by
  refine ⟨[.listingStatus .active, .isAvailable, .notDeleted, .city .lagos, .vendorActive,
    .vendorNotDeleted], rfl, fun a ha => ?_⟩
  obtain ⟨u, hu⟩ := hvendor a ha
  simp only [List.all_cons, List.all_nil, Clause.eval, vendor_eq_some hu, Option.any_some,
    Bool.and_eq_true, decide_eq_true_eq, Option.isNone_iff_eq_none, Bool.and_true]
  refine ⟨fun ⟨h₁, h₂, h₃, h₄, h₅, h₆⟩ => ⟨h₁, h₂, h₃, h₄, ?_⟩, fun h => ?_⟩
  · exact (exists_vendor_iff hu fun u => u.isActive = true ∧ u.deletedAt = none).mpr ⟨h₅, h₆⟩
  · have hv := (exists_vendor_iff hu fun u => u.isActive = true ∧ u.deletedAt = none).mp h.vendor
    exact ⟨h.active, h.available, h.notDeleted, h.lagos, hv.1, hv.2⟩

theorem means_noBlockedWindow {py : Python} {db : Database} (s e : Int) :
    Means py db [.noBlockedWindow s e] fun a => ¬ BlockedDuring db a s e := by
  refine Means.single rfl fun a _ => ?_
  simp [Clause.eval, BlockedDuring]

theorem means_noActiveBooking {py : Python} {db : Database} (s e : Int) :
    Means py db [.noActiveBooking s e] fun a => ¬ BookedDuring db a s e := by
  refine Means.single rfl fun a _ => ?_
  simp [Clause.eval, BookedDuring]

theorem bindRate_ok_iff {py : Python} {r : Decimal} :
    (∃ n, bindRate py r = .ok n) ↔ BindableRate py r := by
  rw [bindRate, BindableRate]
  cases py.numericParameter r with
  | none => simp
  | some q => cases hq : Numeric.cast 12 2 q <;> simp [hq]

/-- The filter clauses, with rates as they are bound, mean what they say of the
    stored values. -/
theorem means_selects {py : Python} {db : Database} {f : Filters} (hf : f.Bindable py) :
    Means py db f.clauses (f.Selects py db) := by
  have hcategory : Means py db (f.category.map .category).toList
      fun a => ∀ label ∈ f.category, a.category.value = label := by
    refine Means.option fun label hl => Means.single (b := .category label) ?_ (by simp [Clause.eval])
    simp [Clause.bind, hf.category label hl]
  have hmin : Means py db (f.minDailyRate.map .minDailyRate).toList
      fun a => ∀ r ∈ f.minDailyRate, ∀ n, bindRate py r = .ok n → n ≤ a.dailyRate := by
    refine Means.option fun r hr => ?_
    obtain ⟨n, hn⟩ := bindRate_ok_iff.mpr (hf.minDailyRate r hr)
    refine Means.single (b := .minDailyRate n) (by rw [Clause.bind, hn]; rfl) ?_
    simp [Clause.eval, hn]
  have hmax : Means py db (f.maxDailyRate.map .maxDailyRate).toList
      fun a => ∀ r ∈ f.maxDailyRate, ∀ n, bindRate py r = .ok n → a.dailyRate ≤ n := by
    refine Means.option fun r hr => ?_
    obtain ⟨n, hn⟩ := bindRate_ok_iff.mpr (hf.maxDailyRate r hr)
    refine Means.single (b := .maxDailyRate n) (by rw [Clause.bind, hn]; rfl) ?_
    simp [Clause.eval, hn]
  have hdates : Means py db (dateClauses f.startsOn f.endsOn)
      fun a => ∀ s ∈ f.startsOn, ∀ e ∈ f.endsOn,
        ¬ BlockedDuring db a s.val e.val ∧ ¬ BookedDuring db a s.val e.val := by
    cases f.startsOn with
    | none => exact Means.nil.congr (by simp)
    | some s =>
      cases f.endsOn with
      | none => exact Means.nil.congr (by simp)
      | some e =>
        exact ((means_noBlockedWindow s.val e.val).append
          (means_noActiveBooking s.val e.val)).congr (by simp)
  refine (((hcategory.append hmin).append hmax).append hdates).congr fun a _ => ?_
  exact ⟨fun ⟨⟨⟨h₁, h₂⟩, h₃⟩, h₄⟩ => ⟨h₁, h₂, h₃, h₄⟩, fun ⟨h₁, h₂, h₃, h₄⟩ => ⟨⟨⟨h₁, h₂⟩, h₃⟩, h₄⟩⟩

section Fits

variable {py : Python} (hpy : py.RoundTrip)

include hpy

/-- An amount that fits is sent as it is. -/
theorem bindRate_ok_iff_cast {r : Decimal} (h : FitsRate r) {n : Numeric 12 2} :
    bindRate py r = .ok n ↔ Numeric.cast 12 2 r.toRat = some n := by
  simp only [bindRate, hpy.numericParameter_eq r h.1]
  cases Numeric.cast 12 2 r.toRat <;> simp

theorem bindableRate_of_fits {r : Decimal} (h : FitsRate r) : BindableRate py r :=
  ⟨r.toRat, hpy.numericParameter_eq r h.1, h.2⟩

/-- Filter values that fit their columns can be bound. -/
theorem Filters.Fits.bindable {f : Filters} (hf : f.Fits) : f.Bindable py :=
  ⟨hf.category, fun r hr => bindableRate_of_fits hpy (hf.minDailyRate r hr),
    fun r hr => bindableRate_of_fits hpy (hf.maxDailyRate r hr)⟩

theorem Filters.Fits.selects_iff {f : Filters} (hf : f.Fits) {db : Database} {a : Asset} :
    f.Selects py db a ↔ f.Admits db a := by
  have hmin : (∀ r ∈ f.minDailyRate, ∀ n, bindRate py r = .ok n → n ≤ a.dailyRate) ↔
      ∀ r ∈ f.minDailyRate, ∀ n ∈ Numeric.cast 12 2 r.toRat, n ≤ a.dailyRate := by
    refine forall₂_congr fun r hr => forall_congr' fun n => ?_
    rw [bindRate_ok_iff_cast hpy (hf.minDailyRate r hr), Option.mem_def]
  have hmax : (∀ r ∈ f.maxDailyRate, ∀ n, bindRate py r = .ok n → a.dailyRate ≤ n) ↔
      ∀ r ∈ f.maxDailyRate, ∀ n ∈ Numeric.cast 12 2 r.toRat, a.dailyRate ≤ n := by
    refine forall₂_congr fun r hr => forall_congr' fun n => ?_
    rw [bindRate_ok_iff_cast hpy (hf.maxDailyRate r hr), Option.mem_def]
  refine ⟨?_, ?_⟩
  · intro h
    exact ⟨h.category, hmin.mp h.minDailyRate, hmax.mp h.maxDailyRate, h.available⟩
  · intro h
    exact ⟨h.category, hmin.mpr h.minDailyRate, hmax.mpr h.maxDailyRate, h.available⟩

/-- With rates that fit, the filter clauses mean the filters after rounding. -/
theorem means_admits {db : Database} {f : Filters} (hf : f.Fits) :
    Means py db f.clauses (f.Admits db) :=
  (means_selects (hf.bindable hpy)).congr fun _ _ => hf.selects_iff hpy

end Fits

/-- Valid filter values fit their columns. -/
theorem Filters.Valid.fits {f : Filters} (hf : f.Valid) : f.Fits := by
  refine ⟨hf.category, ?_, ?_⟩
  · intro r hr
    obtain ⟨hnumeric, n, hn⟩ := hf.minDailyRate r hr
    refine ⟨hnumeric, ?_⟩
    rw [← hn, Numeric.cast_toRat]
    rfl
  · intro r hr
    obtain ⟨hnumeric, n, hn⟩ := hf.maxDailyRate r hr
    refine ⟨hnumeric, ?_⟩
    rw [← hn, Numeric.cast_toRat]
    rfl

/-- Rates that the column represents are not rounded. -/
theorem Filters.Valid.admits_iff {f : Filters} (hf : f.Valid) {db : Database} {a : Asset} :
    f.Admits db a ↔ f.Matches db a := by
  have hmin : (∀ r ∈ f.minDailyRate, ∀ n ∈ Numeric.cast 12 2 r.toRat, n ≤ a.dailyRate) ↔
      ∀ r ∈ f.minDailyRate, r.toRat ≤ a.dailyRate.toRat := by
    apply forall₂_congr
    intro r hr
    obtain ⟨-, n, hn⟩ := hf.minDailyRate r hr
    rw [← hn, Numeric.cast_toRat, Numeric.toRat_le_toRat]
    simp
  have hmax : (∀ r ∈ f.maxDailyRate, ∀ n ∈ Numeric.cast 12 2 r.toRat, a.dailyRate ≤ n) ↔
      ∀ r ∈ f.maxDailyRate, a.dailyRate.toRat ≤ r.toRat := by
    apply forall₂_congr
    intro r hr
    obtain ⟨-, n, hn⟩ := hf.maxDailyRate r hr
    rw [← hn, Numeric.cast_toRat, Numeric.toRat_le_toRat]
    simp
  refine ⟨?_, ?_⟩
  · intro h
    exact ⟨h.category, hmin.mp h.minDailyRate, hmax.mp h.maxDailyRate, h.available⟩
  · intro h
    exact ⟨h.category, hmin.mpr h.minDailyRate, hmax.mpr h.maxDailyRate, h.available⟩

/-- With valid filters the statement selects the listing. -/
theorem Filters.Valid.admitted_eq {f : Filters} (hf : f.Valid) (db : Database) :
    admitted db f = listing db f := by
  rw [admitted, listing]
  congr 1
  apply List.filter_congr
  intro a _
  rw [decide_eq_decide, hf.admits_iff]

/-- The rows of a search: the selected assets, cut down by the cursor's clauses. -/
theorem execute_admitted {py : Python} (hpy : py.RoundTrip) {db : Database}
    (hids : db.AssetIdsUnique) (hvendor : db.VendorsResolve) {f : Filters} (hf : f.Fits)
    {cs : List (Clause Decimal Datetime)} {P : Asset → Prop} [DecidablePred P]
    (hcs : Means py db cs P) (limit : Nat) :
    (statementOf f cs limit).execute py db =
      .ok (((admitted db f).filter fun a => P a).take (limit + 1)) := by
  have hmeans := ((@means_public py db hvendor).append (means_admits hpy hf)).append hcs
  have hfilter : (db.assets.filter fun a => (PubliclyVisible db a ∧ f.Admits db a) ∧ P a) =
      (db.assets.filter fun a => PubliclyVisible db a ∧ f.Admits db a).filter fun a => P a := by
    simp only [List.filter_filter, Bool.decide_and, Bool.and_comm]
  rw [execute_of_means hmeans hvendor rfl rfl rfl, hfilter,
    Keyset.sortByKey_filter (hids.keys.filter _)]
  rfl

end Vouch
