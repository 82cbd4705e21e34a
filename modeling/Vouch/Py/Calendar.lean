/-
  Vouch.Py.Calendar

  `datetime.date` and its ISO text: the proleptic Gregorian calendar of
  Python's `datetime` module, with the ordinal conversions as it computes them
  (`_ord2ymd`, `_ymd2ord`) and the proof that one undoes the other.
-/

import Mathlib.Algebra.GroupWithZero.Nat
import Vouch.Py.Text

namespace Py

-- ============================================================================
-- Ordinals and year, month, day
-- ============================================================================

/-- Days from 0001-01-01 to 9999-12-31. -/
def calendarDays : Nat := 3652059

instance calendarDays_neZero : NeZero calendarDays := ⟨Nat.succ_ne_zero 3652058⟩

/-- A `datetime.date`: its `toordinal()` minus one. -/
abbrev Date := Fin calendarDays

/-- `_is_leap`. -/
def isLeap (year : Nat) : Bool := year % 4 = 0 && (year % 100 ≠ 0 || year % 400 = 0)

/-- `_DAYS_BEFORE_MONTH`, for a year that is not a leap year. -/
def daysBeforeMonth : List Nat := [0, 0, 31, 59, 90, 120, 151, 181, 212, 243, 273, 304, 334]

/-- `_days_before_year`. -/
def daysBeforeYear (year : Nat) : Nat :=
  (year - 1) * 365 + (year - 1) / 4 - (year - 1) / 100 + (year - 1) / 400

/-- Days of the year before the month begins. -/
def monthStart (leap : Bool) (month : Nat) : Nat :=
  daysBeforeMonth.getD month 0 + (if 2 < month && leap then 1 else 0)

/-- A calendar day. -/
structure Civil where
  year : Nat
  month : Nat
  day : Nat
deriving DecidableEq, Repr

/-- The month and day of the `n`-th day of a year, counting from zero. -/
def monthDay (leap : Bool) (n : Nat) : Nat × Nat :=
  let month := (n + 50) / 32
  if n < monthStart leap month then (month - 1, n - monthStart leap (month - 1) + 1)
  else (month, n - monthStart leap month + 1)

/-- The calendar day at position `r1` of year `n1` of a four-year cycle `n4` of
    a century `n100` of a 400-year cycle `n400`, all counting from zero. -/
def ymdOfCycles (n400 n100 n4 n1 r1 : Nat) : Civil :=
  let year := n400 * 400 + n100 * 100 + n4 * 4 + n1 + 1
  if n1 = 4 ∨ n100 = 4 then ⟨year - 1, 12, 31⟩
  else
    let md := monthDay (n1 = 3 && (n4 ≠ 24 || n100 = 3)) r1
    ⟨year, md.1, md.2⟩

/-- `_ord2ymd`, of an ordinal that counts from zero. -/
def ord2ymd (n : Nat) : Civil :=
  let r400 := n % 146097
  let r100 := r400 % 36524
  let r4 := r100 % 1461
  ymdOfCycles (n / 146097) (r400 / 36524) (r100 / 1461) (r4 / 365) (r4 % 365)

/-- `_ymd2ord`, counting from zero. -/
def ymd2ord (c : Civil) : Nat :=
  daysBeforeYear c.year + monthStart (isLeap c.year) c.month + c.day - 1

/-- The day `monthDay` finds is the `n`-th of the year. -/
theorem monthStart_add_day : ∀ leap, ∀ n < 365,
    monthStart leap (monthDay leap n).1 + (monthDay leap n).2 = n + 1 := by
  decide +kernel

theorem daysBeforeYear_eq {a b c d : Nat} (hb : b ≤ 3) (hc : c ≤ 24) (hd : d ≤ 3) :
    daysBeforeYear (a * 400 + b * 100 + c * 4 + d + 1) =
      a * 146097 + b * 36524 + c * 1461 + d * 365 := by
  rw [daysBeforeYear]
  omega

theorem isLeap_eq {a b c d : Nat} (hb : b ≤ 3) (hc : c ≤ 24) (hd : d ≤ 3) :
    isLeap (a * 400 + b * 100 + c * 4 + d + 1) = (d = 3 && (c ≠ 24 || b = 3)) := by
  rw [Bool.eq_iff_iff]
  simp only [isLeap, Bool.and_eq_true, Bool.or_eq_true, decide_eq_true_eq]
  omega

theorem ymd2ord_mk (y m d : Nat) :
    ymd2ord ⟨y, m, d⟩ = daysBeforeYear y + monthStart (isLeap y) m + d - 1 := rfl

/-- The 366th day of a leap year. -/
theorem ymd2ord_leapEnd {a b c : Nat} (hb : b ≤ 3) (hc : c ≤ 24) (h : c ≠ 24 ∨ b = 3) :
    ymd2ord ⟨a * 400 + b * 100 + c * 4 + 3 + 1, 12, 31⟩ =
      a * 146097 + b * 36524 + c * 1461 + 3 * 365 + 365 := by
  have hleap : isLeap (a * 400 + b * 100 + c * 4 + 3 + 1) = true := by
    rw [isLeap_eq hb hc (by omega)]
    simpa using h
  have hyear := daysBeforeYear_eq (a := a) hb hc (Nat.le_refl 3)
  calc ymd2ord ⟨a * 400 + b * 100 + c * 4 + 3 + 1, 12, 31⟩
      = daysBeforeYear (a * 400 + b * 100 + c * 4 + 3 + 1) + 335 + 31 - 1 := by
        rw [ymd2ord_mk, hleap, show monthStart true 12 = 335 from by decide]
    _ = a * 146097 + b * 36524 + c * 1461 + 3 * 365 + 365 := by omega

theorem ymd2ord_ymdOfCycles {n400 n100 n4 n1 r1 : Nat} (h100 : n100 ≤ 4) (h4 : n4 ≤ 24)
    (h1 : n1 ≤ 4) (hr : r1 < 365) (hc : n100 = 4 → n4 = 0 ∧ n1 = 0 ∧ r1 = 0)
    (hy : n1 = 4 → r1 = 0 ∧ n4 ≠ 24) :
    ymd2ord (ymdOfCycles n400 n100 n4 n1 r1) =
      n400 * 146097 + n100 * 36524 + n4 * 1461 + n1 * 365 + r1 := by
  rw [ymdOfCycles]
  by_cases hlast : n1 = 4 ∨ n100 = 4
  · -- the 366th day of the last year of a four-year or 400-year cycle
    rw [if_pos hlast]
    rcases hlast with rfl | rfl
    · obtain ⟨rfl, h24⟩ := hy rfl
      have h3 : n100 ≤ 3 := by omega
      rw [show n400 * 400 + n100 * 100 + n4 * 4 + 4 + 1 - 1 =
        n400 * 400 + n100 * 100 + n4 * 4 + 3 + 1 from by omega]
      exact (ymd2ord_leapEnd h3 h4 (.inl h24)).trans (by omega)
    · obtain ⟨rfl, rfl, rfl⟩ := hc rfl
      rw [show n400 * 400 + 4 * 100 + 0 * 4 + 0 + 1 - 1 =
        n400 * 400 + 3 * 100 + 24 * 4 + 3 + 1 from by omega]
      exact (ymd2ord_leapEnd (Nat.le_refl 3) (Nat.le_refl 24) (.inr rfl)).trans (by omega)
  · rw [if_neg hlast]
    have h3 : n100 ≤ 3 := by omega
    have hd : n1 ≤ 3 := by omega
    have hmd := monthStart_add_day (n1 = 3 && (n4 ≠ 24 || n100 = 3)) r1 hr
    have hyear := daysBeforeYear_eq (a := n400) h3 h4 hd
    rw [ymd2ord_mk, isLeap_eq h3 h4 hd]
    omega

/-- The ordinal of the calendar day of an ordinal. -/
theorem ymd2ord_ord2ymd (n : Nat) : ymd2ord (ord2ymd n) = n := by
  rw [ord2ymd]
  rw [ymd2ord_ymdOfCycles (by omega) (by omega) (by omega) (by omega) (by omega) (by omega)]
  omega

-- ============================================================================
-- ISO text
-- ============================================================================

/-- The last `width` digits of `n` in a base, most significant first. -/
def padded (base : Nat) (digitChar : Nat → Nat) : Nat → Nat → Str
  | 0, _ => []
  | width + 1, n => digitChar (n / base ^ width % base) :: padded base digitChar width n

/-- `n` in decimal, padded with zeros to `width` digits. -/
def zeroPadded (width n : Nat) : Str := padded 10 (0x30 + ·) width n

/-- `date.isoformat()`, as code points. -/
def isoDate (n : Nat) : Str :=
  let c := ord2ymd n
  zeroPadded 4 c.year ++ 0x2D :: zeroPadded 2 c.month ++ 0x2D :: zeroPadded 2 c.day

/-- The Lean string of ASCII code points. -/
def asciiString (s : Str) : String := String.ofList (s.map Char.ofNat)

/-- `str(d)` of a `datetime.date`. -/
def Date.str (d : Date) : String := asciiString (isoDate d)

/-- `str(d)` of a `datetime.date` that may be missing. -/
def strOptDate : Option Date → String
  | none => "None"
  | some d => Date.str d

example : Date.str ⟨739520, by decide⟩ = "2025-09-27" := by decide

end Py
