/-
  Vouch.Sql.Range

  Date ranges as sets of days.

  `&&` compares bounds; `overlaps_iff` says that on non-empty ranges it means a
  common day.  `overlapping_iff` brings two ranges built with inclusive bounds
  to closed intervals, where Mathlib's lattice of intervals applies.
-/

import Mathlib.Data.Int.ConditionallyCompleteOrder
import Mathlib.Order.Interval.Set.Basic
import Vouch.Sql.Schema

namespace Sql

-- ============================================================================
-- The days of a range
-- ============================================================================

/-- The days a range contains. -/
def DateRange.days (r : DateRange) : Set Int :=
  {d | (∀ l ∈ r.lower, l ≤ d) ∧ ∀ u ∈ r.upper, d < u}

/-- The intersection `r * s`. -/
def DateRange.inter (r s : DateRange) : DateRange :=
  ⟨r.lower.merge max s.lower, r.upper.merge min s.upper⟩

theorem DateRange.days_inter (r s : DateRange) : (r.inter s).days = r.days ∩ s.days := by
  obtain ⟨l, u⟩ := r
  obtain ⟨l', u'⟩ := s
  ext d
  cases l <;> cases l' <;> cases u <;> cases u' <;> simp [DateRange.days, DateRange.inter] <;> omega

/-- A range has a day exactly when its bounds are in order. -/
theorem DateRange.days_nonempty {r : DateRange} : r.days.Nonempty ↔ boundLt r.lower r.upper := by
  obtain ⟨l, u⟩ := r
  refine ⟨?_, ?_⟩
  · rintro ⟨d, hl, hu⟩
    cases l with
    | none => rfl
    | some a =>
      cases u with
      | none => rfl
      | some b =>
        have hlt : a < b := lt_of_le_of_lt (hl a rfl) (hu b rfl)
        simpa [boundLt] using hlt
  · intro h
    cases l with
    | none =>
      cases u with
      | none => exact ⟨0, by simp, by simp⟩
      | some b => exact ⟨b - 1, by simp, by simp⟩
    | some a =>
      refine ⟨a, by simp, ?_⟩
      intro b hb
      obtain rfl : u = some b := hb
      simpa [boundLt] using h

/-- The bounds of an intersection are in order when all pairs of bounds are. -/
theorem boundLt_merge {l l' u u' : Option Int} :
    boundLt (l.merge max l') (u.merge min u') ↔
      (boundLt l u ∧ boundLt l u') ∧ boundLt l' u ∧ boundLt l' u' := by
  cases l <;> cases l' <;> cases u <;> cases u' <;> (simp [boundLt]; try omega)

/-- Non-empty ranges overlap exactly when they share a day. -/
theorem DateRange.overlaps_iff {r s : DateRange} (hr : r.days.Nonempty) (hs : s.days.Nonempty) :
    r.overlaps s ↔ (r.days ∩ s.days).Nonempty := by
  rw [days_nonempty] at hr hs
  rw [← days_inter, days_nonempty, DateRange.inter, boundLt_merge, DateRange.overlaps,
    Bool.and_eq_true]
  refine ⟨?_, ?_⟩
  · rintro ⟨h₁, h₂⟩
    exact ⟨⟨hr, h₁⟩, h₂, hs⟩
  · rintro ⟨⟨-, h₁⟩, h₂, -⟩
    exact ⟨h₁, h₂⟩

-- ============================================================================
-- Inclusive bounds
-- ============================================================================

/-- `daterange(lo, hi, '[]')` of ordered dates holds the days from `lo` to `hi`. -/
theorem daterange_of_le {lo hi : Int} (h : lo ≤ hi) :
    ∃ r, daterange (.date lo) (.date hi) = .ok r ∧ r.days = Set.Icc lo hi := by
  refine ⟨⟨some lo, some (hi + 1)⟩, ?_, ?_⟩
  · rw [daterange, if_pos h]
  · ext d
    show (∀ l ∈ some lo, l ≤ d) ∧ (∀ u ∈ some (hi + 1), d < u) ↔ lo ≤ d ∧ d ≤ hi
    simp only [Option.mem_some_iff, forall_eq', Int.lt_add_one_iff]

/-- Closed intervals share a point exactly when each starts before the other ends. -/
theorem Icc_inter_Icc_nonempty {α : Type*} [LinearOrder α] {a b c d : α} (hab : a ≤ b)
    (hcd : c ≤ d) : (Set.Icc a b ∩ Set.Icc c d).Nonempty ↔ a ≤ d ∧ c ≤ b := by
  rw [Set.Icc_inter_Icc, Set.nonempty_Icc, sup_le_iff, le_inf_iff, le_inf_iff]
  refine ⟨?_, ?_⟩
  · rintro ⟨⟨-, had⟩, hcb, -⟩
    exact ⟨had, hcb⟩
  · rintro ⟨had, hcb⟩
    exact ⟨⟨hab, had⟩, hcb, hcd⟩

/-- Two ranges with ordered inclusive bounds overlap exactly when each starts
    on or before the other's last day. -/
theorem overlapping_iff {lo hi lo' hi' : Int} (h : lo ≤ hi) (h' : lo' ≤ hi') :
    overlapping (daterange (.date lo) (.date hi)) (daterange (.date lo') (.date hi')) ↔
      lo ≤ hi' ∧ lo' ≤ hi := by
  obtain ⟨r, hr, hdays⟩ := daterange_of_le h
  obtain ⟨s, hs, hdays'⟩ := daterange_of_le h'
  have hne : r.days.Nonempty := by
    rw [hdays]
    exact Set.nonempty_Icc.mpr h
  have hne' : s.days.Nonempty := by
    rw [hdays']
    exact Set.nonempty_Icc.mpr h'
  rw [hr, hs, ← Icc_inter_Icc_nonempty h h', ← hdays, ← hdays', ← DateRange.overlaps_iff hne hne']
  rfl

end Sql
