/-
  Vouch.Sql.Numeric

  `NUMERIC(precision, scale)`: exact decimals with a fixed number of decimal
  places, and the cast that rounds a number into the type.

  Comparing a cast number with a positive numeric moves the bound by half a unit
  (`cast_le_iff`, `le_cast_iff`).
-/

import Mathlib.Data.Rat.Floor
import Mathlib.Tactic.Linarith
import Mathlib.Tactic.Positivity

namespace Sql

/-- A value of `NUMERIC(precision, scale)`: an integer number of units of
    `10 ^ -scale`, with at most `precision` digits. -/
structure Numeric (precision scale : ℕ) where
  unscaled : ℤ
  in_range : unscaled.natAbs < 10 ^ precision
deriving DecidableEq, Repr

namespace Numeric

variable {p s : ℕ}

/-- Numerics compare as their unscaled integers. -/
instance : LE (Numeric p s) := ⟨fun a b => a.unscaled ≤ b.unscaled⟩

instance (a b : Numeric p s) : Decidable (a ≤ b) := inferInstanceAs (Decidable (_ ≤ _))

theorem le_iff {a b : Numeric p s} : a ≤ b ↔ a.unscaled ≤ b.unscaled := Iff.rfl

/-- The number a numeric denotes. -/
def toRat (a : Numeric p s) : ℚ := mkRat a.unscaled (10 ^ s)

/-- The nearest integer, ties away from zero. -/
def roundHalfAway (q : ℚ) : ℤ := if 0 ≤ q then ⌊q + 1 / 2⌋ else -⌊-q + 1 / 2⌋

/-- `CAST(q AS NUMERIC(p, s))`: rounding to `s` places; `none` is the numeric
    field overflow. -/
def cast (p s : ℕ) (q : ℚ) : Option (Numeric p s) :=
  let n := roundHalfAway (q * 10 ^ s)
  if h : n.natAbs < 10 ^ p then some ⟨n, h⟩ else none

-- ============================================================================
-- Exact numbers survive the cast
-- ============================================================================

theorem toRat_eq (a : Numeric p s) : a.toRat = a.unscaled / 10 ^ s := by
  rw [toRat, Rat.mkRat_eq_div]
  push_cast
  rfl

/-- A numeric is a whole number of its units. -/
theorem toRat_mul_pow (a : Numeric p s) : a.toRat * 10 ^ s = a.unscaled := by
  have hpow : (10 : ℚ) ^ s ≠ 0 := by positivity
  rw [toRat_eq, div_mul_cancel₀ _ hpow]

/-- The order of numerics is that of the numbers they denote. -/
theorem toRat_le_toRat {a b : Numeric p s} : a.toRat ≤ b.toRat ↔ a ≤ b := by
  have hpos : (0 : ℚ) < 10 ^ s := by positivity
  rw [toRat_eq, toRat_eq, div_le_div_iff_of_pos_right hpos, le_iff, Int.cast_le]

theorem toRat_pos {a : Numeric p s} : 0 < a.toRat ↔ 0 < a.unscaled := by
  have hpos : (0 : ℚ) < 10 ^ s := by positivity
  rw [toRat_eq, div_pos_iff_of_pos_right hpos, Int.cast_pos]

theorem toRat_nonneg {a : Numeric p s} : 0 ≤ a.toRat ↔ 0 ≤ a.unscaled := by
  have hpos : (0 : ℚ) < 10 ^ s := by positivity
  rw [toRat_eq, le_div_iff₀ hpos, zero_mul, Int.cast_nonneg_iff]

theorem roundHalfAway_intCast (n : ℤ) : roundHalfAway n = n := by
  have hfloor : ∀ m : ℤ, ⌊(m : ℚ) + 1 / 2⌋ = m := by
    intro m
    rw [Int.floor_eq_iff]
    constructor <;> linarith
  rw [roundHalfAway]
  split
  · exact hfloor n
  · rw [← Int.cast_neg, hfloor, neg_neg]

/-- A number the type represents is cast to itself. -/
theorem cast_toRat (a : Numeric p s) : cast p s a.toRat = some a := by
  rw [cast]
  simp only [toRat_mul_pow, roundHalfAway_intCast]
  rw [dif_pos a.in_range]

-- ============================================================================
-- Comparing a cast number
-- ============================================================================

/-- Rounding stays at or below a nonnegative integer short of the midpoint
    above it, which is itself rounded away. -/
theorem roundHalfAway_le_iff {q : ℚ} {m : ℤ} (hm : 0 ≤ m) :
    roundHalfAway q ≤ m ↔ q < m + 1 / 2 := by
  have hm' : (0 : ℚ) ≤ m := by exact_mod_cast hm
  rw [roundHalfAway]
  split
  · rw [← Int.lt_add_one_iff, Int.floor_lt]
    push_cast
    refine ⟨?_, ?_⟩ <;> intro h <;> linarith
  · rename_i hq
    have hfloor : 0 ≤ ⌊-q + 1 / 2⌋ := Int.floor_nonneg.mpr (by linarith)
    refine ⟨?_, ?_⟩
    · intro _
      linarith
    · intro _
      omega

/-- It reaches a positive integer from the midpoint below it on. -/
theorem le_roundHalfAway_iff {q : ℚ} {m : ℤ} (hm : 0 < m) :
    m ≤ roundHalfAway q ↔ m - 1 / 2 ≤ q := by
  have hm' : (1 : ℚ) ≤ m := by exact_mod_cast hm
  rw [roundHalfAway]
  split
  · rw [Int.le_floor, sub_le_iff_le_add]
  · rename_i hq
    have hfloor : 0 ≤ ⌊-q + 1 / 2⌋ := Int.floor_nonneg.mpr (by linarith)
    refine ⟨?_, ?_⟩
    · intro _
      omega
    · intro _
      linarith

/-- Rounding keeps the order. -/
theorem roundHalfAway_mono {q r : ℚ} (h : q ≤ r) : roundHalfAway q ≤ roundHalfAway r := by
  rw [roundHalfAway, roundHalfAway]
  split
  · rw [if_pos (by linarith)]
    exact Int.floor_mono (by linarith)
  · rename_i hq
    split
    · rename_i hr
      have hlow : 0 ≤ ⌊-q + 1 / 2⌋ := Int.floor_nonneg.mpr (by linarith)
      have hhigh : 0 ≤ ⌊r + 1 / 2⌋ := Int.floor_nonneg.mpr (by linarith)
      omega
    · have hfloor : ⌊-r + 1 / 2⌋ ≤ ⌊-q + 1 / 2⌋ := Int.floor_mono (by linarith)
      omega

/-- Half a unit of the last decimal place. -/
def halfUnit (s : ℕ) : ℚ := 1 / (2 * 10 ^ s)

theorem halfUnit_pos (s : ℕ) : 0 < halfUnit s := by
  rw [halfUnit]
  positivity

theorem halfUnit_mul (s : ℕ) : halfUnit s * 10 ^ s = 1 / 2 := by
  have hpow : (10 : ℚ) ^ s ≠ 0 := by positivity
  rw [halfUnit, one_div_mul_eq_div, div_mul_cancel_right₀ hpow, one_div]

section Cast

variable {q : ℚ} {a n : Numeric p s} (hn : n ∈ cast p s q)

include hn

theorem unscaled_cast : n.unscaled = roundHalfAway (q * 10 ^ s) := by
  rw [cast] at hn
  split at hn
  · rw [← Option.some.inj hn]
  · cases hn

/-- A larger number is cast to a larger numeric. -/
theorem cast_mono {r : ℚ} {m : Numeric p s} (hm : m ∈ cast p s r) (h : q ≤ r) : n ≤ m := by
  have hpos : (0 : ℚ) < 10 ^ s := by positivity
  rw [le_iff, unscaled_cast hn, unscaled_cast hm]
  exact roundHalfAway_mono (mul_le_mul_of_nonneg_right h hpos.le)

/-- A number is cast to at most `a` if it lies below the midpoint above `a`. -/
theorem cast_le_iff (ha : 0 ≤ a.unscaled) : n ≤ a ↔ q < a.toRat + halfUnit s := by
  have hpos : (0 : ℚ) < 10 ^ s := by positivity
  rw [le_iff, unscaled_cast hn, roundHalfAway_le_iff ha, ← toRat_mul_pow, ← halfUnit_mul s,
    ← add_mul, mul_lt_mul_iff_left₀ hpos]

/-- A number is cast to at least `a` from the midpoint below `a` on. -/
theorem le_cast_iff (ha : 0 < a.unscaled) : a ≤ n ↔ a.toRat - halfUnit s ≤ q := by
  have hpos : (0 : ℚ) < 10 ^ s := by positivity
  rw [le_iff, unscaled_cast hn, le_roundHalfAway_iff ha, ← toRat_mul_pow, ← halfUnit_mul s,
    ← sub_mul, mul_le_mul_iff_left₀ hpos]

end Cast

end Numeric

end Sql
