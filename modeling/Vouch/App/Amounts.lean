/-
  Vouch.App.Amounts

  Amounts as a client reads and sends them.

  The response body carries each amount as a decimal string
  (`_serialize_decimal`), and the rate bounds of a search arrive as decimal
  strings in the query.  A string written by the one is read by the other as
  the amount it was written for (`amount_format`), so a client that filters a
  listing by the rates it is shown, and the service given two of these rates as
  bounds, keep the same assets (`shown_rates_bound`).
-/

import Vouch.App.Narrowing
import Vouch.Py.Decimal
import Vouch.Py.Url

namespace Vouch

open Py (Python Str Decimal Unicode)
open Sql (Numeric)
open Keyset (collect rowsOf Done)

-- ============================================================================
-- The text of an amount
-- ============================================================================

/-- The digits of an amount: naira, and two digits of kobo. -/
def amountDigits (cents : ℕ) : List Char := Nat.toDigits 10 (cents / 100)

/-- The two digits of kobo. -/
def koboDigits (cents : ℕ) : List Char :=
  [(cents % 100 / 10).digitChar, (cents % 10).digitChar]

/-- The code points of an amount without its sign. -/
def unsignedText (cents : ℕ) : Str :=
  (amountDigits cents).map Char.toNat ++ 0x2E :: (koboDigits cents).map Char.toNat

theorem ofString_append (s t : String) :
    Str.ofString (s ++ t) = Str.ofString s ++ Str.ofString t := by
  rw [Str.ofString, String.toList_append, List.map_append]
  rfl

theorem ofString_toString (n : ℕ) :
    Str.ofString (toString n) = (Nat.toDigits 10 n).map Char.toNat := by
  rw [Str.ofString, Nat.toString_eq_ofList_toDigits, String.toList_ofList]

/-- What `_serialize_decimal` writes. -/
theorem ofString_serializeDecimal (v : Numeric 12 2) :
    Str.ofString (serializeDecimal v) =
      if v.unscaled < 0 then 0x2D :: unsignedText v.unscaled.natAbs
      else unsignedText v.unscaled.natAbs := by
  have htens : v.unscaled.natAbs % 100 / 10 < 10 := by omega
  have hunits : v.unscaled.natAbs % 10 < 10 := by omega
  have hdigits : Str.ofString (toString (v.unscaled.natAbs / 100)) ++ Str.ofString "." ++
      Str.ofString (toString (v.unscaled.natAbs % 100 / 10)) ++
      Str.ofString (toString (v.unscaled.natAbs % 10)) = unsignedText v.unscaled.natAbs := by
    rw [ofString_toString, ofString_toString, ofString_toString, Nat.toDigits_of_lt_base htens,
      Nat.toDigits_of_lt_base hunits, List.append_assoc, List.append_assoc]
    rfl
  rw [serializeDecimal, ofString_append, ofString_append, ofString_append, ofString_append,
    ← hdigits]
  split
  · simp only [List.append_assoc]
    rfl
  · simp only [List.append_assoc]
    rfl

theorem isDigit_of_mem_amountDigits {n : ℕ} : ∀ c ∈ amountDigits n, c.isDigit := by
  intro c hc
  exact Nat.isDigit_of_mem_toDigits (by omega) (by omega) hc

theorem isDigit_of_mem_koboDigits {n : ℕ} : ∀ c ∈ koboDigits n, c.isDigit := by
  intro c hc
  have htens : n % 100 / 10 < 10 := by omega
  have hunits : n % 10 < 10 := by omega
  rw [koboDigits, ← List.singleton_append, ← Nat.toDigits_of_lt_base htens,
    ← Nat.toDigits_of_lt_base hunits] at hc
  rcases List.mem_append.mp hc with hc | hc
  · exact Nat.isDigit_of_mem_toDigits (by omega) (by omega) hc
  · exact Nat.isDigit_of_mem_toDigits (by omega) (by omega) hc

/-- A digit, a point or a minus sign. -/
def IsAmountChar (c : ℕ) : Prop := 0x30 ≤ c ∧ c ≤ 0x39 ∨ c = 0x2E ∨ c = 0x2D

theorem isAmountChar_unsignedText {n : ℕ} : ∀ c ∈ unsignedText n, IsAmountChar c := by
  intro c hc
  have hdigit : ∀ ch : Char, ch.isDigit → IsAmountChar ch.toNat :=
    fun ch h => .inl (Py.toNat_of_isDigit h)
  rcases List.mem_append.mp hc with hc | hc
  · obtain ⟨ch, hch, rfl⟩ := List.mem_map.mp hc
    exact hdigit ch (isDigit_of_mem_amountDigits ch hch)
  · rcases List.mem_cons.mp hc with rfl | hc
    · exact .inr (.inl rfl)
    · obtain ⟨ch, hch, rfl⟩ := List.mem_map.mp hc
      exact hdigit ch (isDigit_of_mem_koboDigits ch hch)

theorem isAmountChar_serializeDecimal (v : Numeric 12 2) :
    ∀ c ∈ Str.ofString (serializeDecimal v), IsAmountChar c := by
  rw [ofString_serializeDecimal]
  split
  · rw [List.forall_mem_cons]
    exact ⟨.inr (.inr rfl), isAmountChar_unsignedText⟩
  · exact isAmountChar_unsignedText

-- ============================================================================
-- Reading it
-- ============================================================================

section Parse

variable (un : Unicode)

theorem strip_amount {s : Str} (h : ∀ c ∈ s, IsAmountChar c) :
    (un.strip s).filter (· ≠ 0x5F) = s := by
  have hspace : ∀ c ∈ s, un.space c = false := by
    intro c hc
    have hchar := h c hc
    rw [IsAmountChar] at hchar
    rw [Unicode.space, if_pos (by omega)]
    simp only [Bool.or_eq_false_iff, Bool.and_eq_false_iff, decide_eq_false_iff_not]
    omega
  rw [Py.strip_eq_self hspace, List.filter_eq_self]
  intro c hc
  have hchar := h c hc
  rw [IsAmountChar] at hchar
  rw [decide_eq_true_iff]
  omega

theorem takeDigits_unsignedText (n : ℕ) :
    un.takeDigits (unsignedText n) = ((amountDigits n).map fun c => c.toNat - 0x30,
      0x2E :: (koboDigits n).map Char.toNat) :=
  Py.takeDigits_append isDigit_of_mem_amountDigits rfl

theorem takeFraction_kobo (n : ℕ) :
    un.takeFraction (0x2E :: (koboDigits n).map Char.toNat) = ([n % 100 / 10, n % 10], []) := by
  have hread : un.takeDigits ((koboDigits n).map Char.toNat ++ []) = _ :=
    Py.takeDigits_append isDigit_of_mem_koboDigits rfl
  rw [List.append_nil] at hread
  show un.takeDigits ((koboDigits n).map Char.toNat) = _
  rw [hread, koboDigits, List.map_cons, List.map_singleton,
    Nat.toNat_digitChar_sub_48_of_lt_ten (by omega),
    Nat.toNat_digitChar_sub_48_of_lt_ten (by omega)]

theorem ofDigits_amount (n : ℕ) :
    Py.ofDigits ((amountDigits n).map (fun c => c.toNat - 0x30) ++ [n % 100 / 10, n % 10]) = n := by
  rw [Py.ofDigits_append_pair, amountDigits, Py.ofDigits_toDigits]
  omega

/-- Amounts are nowhere near the exponents a `Decimal` cannot have. -/
theorem inRange_amount {n : ℤ} (h : n.natAbs < 10 ^ 12) : (⟨n, -2⟩ : Decimal).InRange := by
  have hlog : Nat.log 10 n.natAbs < 12 := by
    rcases Nat.eq_zero_or_pos n.natAbs with hzero | hpos
    · rw [hzero, Nat.log_zero_right]
      omega
    · exact (Nat.log_lt_iff_lt_pow (by omega) (by omega)).mpr h
  rw [Decimal.InRange]
  show -1999999999999999997 ≤ (-2 : ℤ) ∧ (-2 : ℤ) + Nat.log 10 n.natAbs ≤ 999999999999999999
  omega

theorem takeSign_unsignedText (n : ℕ) : Py.takeSign (unsignedText n) = (false, unsignedText n) := by
  obtain ⟨c, cs, hcs⟩ := List.exists_cons_of_ne_nil (Nat.toDigits_ne_nil (n := n / 100) (b := 10))
  have hc : c.isDigit := isDigit_of_mem_amountDigits (n := n) c (by simp [amountDigits, hcs])
  rw [unsignedText, amountDigits, hcs, List.map_cons, List.cons_append]
  exact Py.takeSign_of_isDigit hc _

/-- The text of an amount is read as the amount, with its two places. -/
theorem parse_serializeDecimal (v : Numeric 12 2) :
    Decimal.parse un (Str.ofString (serializeDecimal v)) = some ⟨v.unscaled, -2⟩ := by
  have hsign : Py.takeSign (Str.ofString (serializeDecimal v)) =
      (decide (v.unscaled < 0), unsignedText v.unscaled.natAbs) := by
    rw [ofString_serializeDecimal]
    split
    · rename_i hneg
      rw [decide_eq_true hneg]
      rfl
    · rename_i hneg
      rw [decide_eq_false hneg]
      exact takeSign_unsignedText _
  have hsigned : Py.signed (decide (v.unscaled < 0)) v.unscaled.natAbs = v.unscaled := by
    rw [Py.signed]
    simp only [decide_eq_true_eq]
    split
    · omega
    · omega
  have hrange := inRange_amount v.in_range
  rw [Decimal.parse, strip_amount un (isAmountChar_serializeDecimal v), hsign]
  simp only [takeDigits_unsignedText, takeFraction_kobo, Unicode.readExponent, ofDigits_amount,
    hsigned, List.cons_ne_nil, and_false, if_false]
  exact if_pos hrange

end Parse

-- ============================================================================
-- The format
-- ============================================================================

theorem toRat_amount (v : Numeric 12 2) : (⟨v.unscaled, -2⟩ : Decimal).toRat = v.toRat := rfl

theorem isPlain_amount (v : Numeric 12 2) :
    ∀ c ∈ Str.ofString (serializeDecimal v), Py.IsPlain c := by
  intro c hc
  have hchar := isAmountChar_serializeDecimal v c hc
  rw [IsAmountChar] at hchar
  refine ⟨?_, ?_, ?_⟩
  · omega
  · omega
  · omega

/-- **The amount format.**  The text written for an amount is read as that
    amount, arrives in a query string as it was sent, and is the text of no
    other amount. -/
theorem amount_format (un : Unicode) (v : Numeric 12 2) :
    Decimal.parse un (Str.ofString (serializeDecimal v)) = some ⟨v.unscaled, -2⟩ ∧
    (⟨v.unscaled, -2⟩ : Decimal).toRat = v.toRat ∧
    (∀ name : Str, (∀ c ∈ name, Py.IsPlain c ∧ c ≠ 0x3D) →
      Py.parseQsl (name ++ 0x3D :: Str.ofString (serializeDecimal v)) =
        [(name, Str.ofString (serializeDecimal v))]) ∧
    ∀ w : Numeric 12 2, serializeDecimal v = serializeDecimal w → v = w := by
  refine ⟨parse_serializeDecimal un v, toRat_amount v, ?_, ?_⟩
  · intro name hname
    exact Py.parseQsl_field hname (isPlain_amount v)
  · intro w h
    have hread := parse_serializeDecimal un v
    rw [h, parse_serializeDecimal, Option.some_inj, Decimal.mk.injEq] at hread
    obtain ⟨m, hm⟩ := v
    obtain ⟨n, hn⟩ := w
    obtain rfl : n = m := hread.1
    rfl

-- ============================================================================
-- Bounds in a query string
-- ============================================================================

/-- A query parameter; the last of its name counts. -/
def queryParam (qs : Str) (name : String) : Option Str :=
  ((Py.parseQsl qs).reverse.find? fun p => p.1 = Str.ofString name).map Prod.snd

/-- A parameter declared `Decimal | None`; `none` is the validation error. -/
def readRate (un : Unicode) (qs : Str) (name : String) : Option (Option Decimal) :=
  match queryParam qs name with
  | none => some none
  | some text => (Decimal.parse un text).map some

/-- The filters with the rate bounds of a query string. -/
def Filters.readRates (un : Unicode) (f : Filters) (qs : Str) : Option Filters := do
  let minDailyRate ← readRate un qs "min_daily_rate"
  let maxDailyRate ← readRate un qs "max_daily_rate"
  return { f with minDailyRate := minDailyRate, maxDailyRate := maxDailyRate }

/-- `min_daily_rate=…&max_daily_rate=…` -/
def rateQuery (lo hi : String) : Str :=
  (Str.ofString "min_daily_rate" ++ 0x3D :: Str.ofString lo) ++
    0x26 :: (Str.ofString "max_daily_rate" ++ 0x3D :: Str.ofString hi)

theorem parseQsl_rateQuery {lo hi : String} (hlo : ∀ c ∈ Str.ofString lo, Py.IsPlain c)
    (hhi : ∀ c ∈ Str.ofString hi, Py.IsPlain c) :
    Py.parseQsl (rateQuery lo hi) = [(Str.ofString "min_daily_rate", Str.ofString lo),
      (Str.ofString "max_daily_rate", Str.ofString hi)] := by
  rw [rateQuery, Py.parseQsl_append, Py.parseQsl_field (by decide) hlo,
    Py.parseQsl_field (by decide) hhi]
  rfl

/-- The filters with bounds of whole kobo. -/
def Filters.between (f : Filters) (v w : Numeric 12 2) : Filters :=
  { f with minDailyRate := some ⟨v.unscaled, -2⟩, maxDailyRate := some ⟨w.unscaled, -2⟩ }

/-- Bounds written as amounts are read as these amounts. -/
theorem readRates_rateQuery (un : Unicode) (f : Filters) (v w : Numeric 12 2) :
    f.readRates un (rateQuery (serializeDecimal v) (serializeDecimal w)) =
      some (f.between v w) := by
  have hfields := parseQsl_rateQuery (isPlain_amount v) (isPlain_amount w)
  have hne : Str.ofString "max_daily_rate" ≠ Str.ofString "min_daily_rate" := by decide
  have hmin : queryParam (rateQuery (serializeDecimal v) (serializeDecimal w)) "min_daily_rate" =
      some (Str.ofString (serializeDecimal v)) := by
    rw [queryParam, hfields]
    simp [hne]
  have hmax : queryParam (rateQuery (serializeDecimal v) (serializeDecimal w)) "max_daily_rate" =
      some (Str.ofString (serializeDecimal w)) := by
    rw [queryParam, hfields]
    simp
  simp only [Filters.readRates, readRate, hmin, hmax, parse_serializeDecimal, Option.map_some]
  rfl

-- ============================================================================
-- Filtering by shown rates
-- ============================================================================

/-- An asset as the response body shows it. -/
def shown (a : Asset) : PublicAssetJson := (PublicAsset.modelValidate a).serialize

/-- A client's own filter: the rate it is shown lies within two amounts it was
    shown. -/
def PublicAssetJson.rateWithin (un : Unicode) (lo hi : String) (a : PublicAssetJson) : Bool :=
  match Decimal.parse un (Str.ofString lo), Decimal.parse un (Str.ofString a.dailyRate),
      Decimal.parse un (Str.ofString hi) with
  | some l, some r, some h => l.toRat ≤ r.toRat && r.toRat ≤ h.toRat
  | _, _, _ => false

theorem rateWithin_shown (un : Unicode) (v w : Numeric 12 2) (a : Asset) :
    (shown a).rateWithin un (serializeDecimal v) (serializeDecimal w) =
      decide (v ≤ a.dailyRate ∧ a.dailyRate ≤ w) := by
  have hrate : (shown a).dailyRate = serializeDecimal a.dailyRate := rfl
  rw [PublicAssetJson.rateWithin, hrate]
  simp only [parse_serializeDecimal, toRat_amount, Numeric.toRat_le_toRat, Bool.decide_and]

/-- Bounds of whole kobo are compared as they are. -/
theorem admits_amounts_iff {db : Database} {f : Filters} (v w : Numeric 12 2) (a : Asset) :
    (f.between v w).Admits db a ↔
      f.withoutRates.Admits db a ∧ v ≤ a.dailyRate ∧ a.dailyRate ≤ w := by
  have hcast : ∀ x n : Numeric 12 2, n ∈ Numeric.cast 12 2 (⟨x.unscaled, -2⟩ : Decimal).toRat →
      x = n := by
    intro x n hn
    rw [toRat_amount, Numeric.cast_toRat] at hn
    exact Option.some.inj hn
  refine ⟨?_, ?_⟩
  · intro h
    refine ⟨⟨h.category, by simp [Filters.withoutRates], by simp [Filters.withoutRates],
      h.available⟩, h.minDailyRate _ rfl v ?_, h.maxDailyRate _ rfl w ?_⟩
    · exact Numeric.cast_toRat v
    · exact Numeric.cast_toRat w
  · rintro ⟨h, hlo, hhi⟩
    refine ⟨h.category, ?_, ?_, h.available⟩
    · intro r hr n hn
      obtain rfl := Option.some.inj hr
      rwa [← hcast v n hn]
    · intro r hr n hn
      obtain rfl := Option.some.inj hr
      rwa [← hcast w n hn]

/-- An amount with two decimal places is a `numeric` and is not rounded. -/
theorem fitsRate_amount (x : Numeric 12 2) : FitsRate ⟨x.unscaled, -2⟩ := by
  have hlog : Nat.log 10 x.unscaled.natAbs < 12 := Nat.log_lt_of_lt_pow' (by omega) x.in_range
  refine ⟨⟨?_, ?_⟩, ?_⟩
  · show -16383 ≤ (-2 : ℤ)
    omega
  · show -2 + (Nat.log 10 x.unscaled.natAbs : ℤ) < 131072
    omega
  · rw [toRat_amount, Numeric.cast_toRat]
    rfl

/-- **Filtering by shown rates.**  A client sends two amounts as rate bounds, as
    they stand in a response.  The search then returns, item for item, what the
    client would keep of the search without bounds by reading the rates it is
    shown. -/
theorem shown_rates_bound {py : Python} (hpy : py.RoundTrip) (un : Unicode) {db : Database}
    (hvalid : db.Valid) {f : Filters} (hf : f.Fits) {limit : ℕ → ℕ}
    (hlimit : ∀ i, 1 ≤ limit i ∧ limit i ≤ maxPageLimit) (v w : Numeric 12 2) :
    ∃ g, f.readRates un (rateQuery (serializeDecimal v) (serializeDecimal w)) = some g ∧
      ∃ n ps m qs,
        collect (searchRequest py db f.withoutRates limit) n 0 none = .ok ps ∧ Done ps ∧
        collect (searchRequest py db g limit) m 0 none = .ok qs ∧ Done qs ∧
        (rowsOf qs).map shown = ((rowsOf ps).map shown).filter
          (PublicAssetJson.rateWithin un (serializeDecimal v) (serializeDecimal w)) := by
  refine ⟨_, readRates_rateQuery un f v w, ?_⟩
  have hbare : f.withoutRates.Fits :=
    ⟨hf.category, by simp [Filters.withoutRates], by simp [Filters.withoutRates]⟩
  have hbounds : (f.between v w).Fits := by
    refine ⟨hf.category, ?_, ?_⟩
    · intro r hr
      obtain rfl := Option.some.inj hr
      exact fitsRate_amount v
    · intro r hr
      obtain rfl := Option.some.inj hr
      exact fitsRate_amount w
  obtain ⟨⟨n, ps, hps, hdone⟩, hrows⟩ := traversal_eq_admitted hpy hvalid hlimit hbare
  obtain ⟨⟨m, qs, hqs, hdone'⟩, hrows'⟩ := traversal_eq_admitted hpy hvalid hlimit hbounds
  refine ⟨n, ps, m, qs, hps, hdone, hqs, hdone', ?_⟩
  have hfilter : admitted db (f.between v w) =
      (admitted db f.withoutRates).filter fun a => v ≤ a.dailyRate ∧ a.dailyRate ≤ w := by
    apply admitted_eq_filter rfl hvalid.keysHold.assetIdsUnique
    intro a
    rw [admits_amounts_iff, and_assoc]
  have hkeep : PublicAssetJson.rateWithin un (serializeDecimal v) (serializeDecimal w) ∘ shown =
      fun a => decide (v ≤ a.dailyRate ∧ a.dailyRate ≤ w) := by
    funext a
    rw [Function.comp_apply, rateWithin_shown]
  rw [hrows' m qs hqs hdone', hrows n ps hps hdone, hfilter, List.filter_map, hkeep]

/-- The sample's listings from 10000.00 to 12500.00 NGN. -/
theorem shown_rates_bound_sample :
    ∃ g, ({} : Filters).readRates ⟨fun _ => none, fun _ => false⟩
        (rateQuery (serializeDecimal ⟨1000000, by decide⟩)
          (serializeDecimal ⟨1250000, by decide⟩)) = some g ∧
      ∃ n ps m qs,
        collect (searchRequest Py.reference sampleDb ({} : Filters).withoutRates fun _ => 2) n 0
          none = .ok ps ∧ Done ps ∧
        collect (searchRequest Py.reference sampleDb g fun _ => 2) m 0 none = .ok qs ∧ Done qs ∧
        (rowsOf qs).map shown = ((rowsOf ps).map shown).filter
          (PublicAssetJson.rateWithin ⟨fun _ => none, fun _ => false⟩
            (serializeDecimal ⟨1000000, by decide⟩) (serializeDecimal ⟨1250000, by decide⟩)) :=
  shown_rates_bound Py.reference_roundTrip _ sampleDb_valid (by decide)
    (fun _ => ⟨by omega, by decide⟩) _ _

end Vouch
