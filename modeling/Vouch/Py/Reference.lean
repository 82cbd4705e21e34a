/-
  Vouch.Py.Reference

  One concrete `Python`, whose parsers accept what its printers write and
  little more.  On those texts it agrees with CPython: `isoformat`,
  `str(uuid)`, and their inverses (`reference_roundTrip`).
-/

import Mathlib.Data.Nat.ModEq
import Vouch.Py.Library

namespace Py

-- ============================================================================
-- Digits
-- ============================================================================

/-- Read one expected code point. -/
def lit (c : Nat) : Str → Option Str
  | x :: s => if x = c then some s else none
  | [] => none

/-- Read exactly `width` digits of a base onto an accumulator. -/
def digits (base : Nat) (digitVal : Nat → Option Nat) : Nat → Nat → Str → Option (Nat × Str)
  | 0, acc, s => some (acc, s)
  | width + 1, acc, c :: s => do
      let v ← digitVal c
      digits base digitVal width (acc * base + v) s
  | _ + 1, _, [] => none

def decimalVal (c : Nat) : Option Nat := if 0x30 ≤ c ∧ c ≤ 0x39 then some (c - 0x30) else none

@[simp] theorem lit_cons (c : Nat) (s : Str) : lit c (c :: s) = some s := by simp [lit]

theorem digits_padded_acc {base : Nat} {digitChar : Nat → Nat} {digitVal : Nat → Option Nat}
    (hbase : 0 < base) (hval : ∀ v < base, digitVal (digitChar v) = some v)
    (width n acc : Nat) (s : Str) :
    digits base digitVal width acc (padded base digitChar width n ++ s) =
      some (acc * base ^ width + n % base ^ width, s) := by
  induction width generalizing acc with
  | zero => simp [digits, padded, Nat.mod_one]
  | succ width ih =>
      have hlt : n / base ^ width % base < base := Nat.mod_lt _ hbase
      rw [padded, List.cons_append, digits, hval _ hlt, Option.bind_eq_bind, Option.bind_some, ih,
        Nat.mod_pow_succ, pow_succ]
      congr 2
      ring

/-- Reading back a number that fits its width. -/
theorem digits_padded {base : Nat} {digitChar : Nat → Nat} {digitVal : Nat → Option Nat}
    (hbase : 0 < base) (hval : ∀ v < base, digitVal (digitChar v) = some v)
    {width n : Nat} (hn : n < base ^ width) (s : Str) :
    digits base digitVal width 0 (padded base digitChar width n ++ s) = some (n, s) := by
  rw [digits_padded_acc hbase hval, Nat.mod_eq_of_lt hn, Nat.zero_mul, Nat.zero_add]

/-- Decimal digits. -/
def number (width : Nat) (s : Str) : Option (Nat × Str) := digits 10 decimalVal width 0 s

theorem number_zeroPadded {width n : Nat} (hn : n < 10 ^ width) (s : Str) :
    number width (zeroPadded width n ++ s) = some (n, s) :=
  digits_padded (by omega) (by decide) hn s

-- ============================================================================
-- Dates and times
-- ============================================================================

/-- `.ffffff`, left out when zero. -/
def isoFraction (us : Nat) : Str := if us = 0 then [] else 0x2E :: zeroPadded 6 us

/-- `HH:MM:SS[.ffffff]` of a number of microseconds within a day. -/
def isoTime (t : Nat) : Str :=
  zeroPadded 2 (t / 3600000000) ++ 0x3A :: zeroPadded 2 (t / 60000000 % 60) ++
    0x3A :: zeroPadded 2 (t / 1000000 % 60) ++ isoFraction (t % 1000000)

/-- `±HH:MM[:SS[.ffffff]]`, the offset of an aware datetime. -/
def isoOffset : Option Int → Str
  | none => []
  | some o =>
      let t := o.natAbs
      (if o < 0 then 0x2D else 0x2B) :: zeroPadded 2 (t / 3600000000) ++
        0x3A :: zeroPadded 2 (t / 60000000 % 60) ++
        (if t % 60000000 = 0 then []
         else 0x3A :: zeroPadded 2 (t / 1000000 % 60) ++ isoFraction (t % 1000000))

/-- `d.isoformat()`, as code points. -/
def isoDatetime (d : Datetime) : Str :=
  isoDate (d.wall.val / 86400000000) ++ 0x54 :: isoTime (d.wall.val % 86400000000) ++
    isoOffset d.utcoffset

/-- `YYYY-MM-DD` of an existing day. -/
def readDate (s : Str) : Option (Nat × Str) := do
  let (year, s) ← number 4 s
  let s ← lit 0x2D s
  let (month, s) ← number 2 s
  let s ← lit 0x2D s
  let (day, s) ← number 2 s
  let n := ymd2ord ⟨year, month, day⟩
  if ord2ymd n = ⟨year, month, day⟩ then some (n, s) else none

/-- An optional `.ffffff`. -/
def readFraction : Str → Option (Nat × Str)
  | 0x2E :: s => number 6 s
  | s => some (0, s)

/-- `HH:MM:SS[.ffffff]`, in microseconds. -/
def readTime (s : Str) : Option (Nat × Str) := do
  let (hour, s) ← number 2 s
  let s ← lit 0x3A s
  let (minute, s) ← number 2 s
  let s ← lit 0x3A s
  let (second, s) ← number 2 s
  let (us, s) ← readFraction s
  if hour < 24 ∧ minute < 60 ∧ second < 60 then
    some (((hour * 60 + minute) * 60 + second) * 1000000 + us, s)
  else none

/-- An optional `:SS[.ffffff]` at the end of an offset. -/
def readOffsetSeconds : Str → Option Nat
  | [] => some 0
  | 0x3A :: s => do
      let (second, s) ← number 2 s
      let (us, s) ← readFraction s
      if s = [] then some (second * 1000000 + us) else none
  | _ => none

/-- The offset at the end of the text. -/
def readOffset : Str → Option (Option Int)
  | [] => some none
  | c :: s => do
      let sign : Int ← if c = 0x2B then some 1 else if c = 0x2D then some (-1) else none
      let (hour, s) ← number 2 s
      let s ← lit 0x3A s
      let (minute, s) ← number 2 s
      let rest ← readOffsetSeconds s
      some (some (sign * ((hour * 60 + minute) * 60000000 + rest : Nat)))

/-- A datetime, if its components are in range. -/
def mkDatetime (wall : Nat) (offset : Option Int) : Option Datetime :=
  if h : wall < calendarMicros ∧ ∀ o ∈ offset, -86400000000 < o ∧ o < 86400000000 then
    some ⟨⟨wall, h.1⟩, offset, h.2⟩
  else none

/-- The texts `isoformat` writes, read back. -/
def readDatetime (s : Str) : Option Datetime := do
  let (day, s) ← readDate s
  let s ← lit 0x54 s
  let (time, s) ← readTime s
  let offset ← readOffset s
  mkDatetime (day * 86400000000 + time) offset

-- ============================================================================
-- Reading back
-- ============================================================================

theorem monthDay_lt : ∀ leap, ∀ n < 365, (monthDay leap n).1 < 100 ∧ (monthDay leap n).2 < 100 := by
  decide +kernel

theorem ymdOfCycles_lt {a b c d r : Nat} (hyear : a * 400 + b * 100 + c * 4 + d + 1 < 10000)
    (hr : r < 365) : (ymdOfCycles a b c d r).year < 10000 ∧ (ymdOfCycles a b c d r).month < 100 ∧
      (ymdOfCycles a b c d r).day < 100 := by
  rw [ymdOfCycles]
  by_cases hlast : d = 4 ∨ b = 4
  · simp only [if_pos hlast]
    omega
  · simp only [if_neg hlast]
    exact ⟨hyear, monthDay_lt _ _ hr⟩

/-- Years of Python's calendar have four digits. -/
theorem ord2ymd_lt {n : Nat} (hn : n < calendarDays) :
    (ord2ymd n).year < 10000 ∧ (ord2ymd n).month < 100 ∧ (ord2ymd n).day < 100 := by
  have hn' : n < 3652059 := hn
  -- the calendar ends within the last cycle of 400 years, and within its last century
  have hyear : n / 146097 * 400 + n % 146097 / 36524 * 100 + n % 146097 % 36524 / 1461 * 4 +
      n % 146097 % 36524 % 1461 / 365 + 1 < 10000 := by
    have h400 : n / 146097 ≤ 24 := by omega
    rcases Nat.lt_or_ge (n / 146097) 24 with h | h
    · omega
    · have h100 : n % 146097 / 36524 ≤ 3 := by omega
      rcases Nat.lt_or_ge (n % 146097 / 36524) 3 with h' | h'
      · omega
      · have h4 : n % 146097 % 36524 / 1461 ≤ 24 := by omega
        omega
  exact ymdOfCycles_lt hyear (Nat.mod_lt _ (by omega))

theorem readDate_isoDate {n : Nat} (hn : n < calendarDays) (s : Str) :
    readDate (isoDate n ++ s) = some (n, s) := by
  obtain ⟨hyear, hmonth, hday⟩ := ord2ymd_lt hn
  have h4 := @number_zeroPadded 4 _ hyear
  have h2 := @number_zeroPadded 2 _ hmonth
  have h2' := @number_zeroPadded 2 _ hday
  simp only [readDate, isoDate, List.append_assoc, List.cons_append, Option.bind_eq_bind, h4, h2,
    h2', Option.bind_some, lit_cons]
  rw [show (⟨(ord2ymd n).year, (ord2ymd n).month, (ord2ymd n).day⟩ : Civil) = ord2ymd n from rfl,
    ymd2ord_ord2ymd, if_pos rfl]

/-- What may follow a time: nothing, or the sign of an offset. -/
def EndsTime : Str → Prop
  | [] => True
  | c :: _ => c ≠ 0x2E

theorem readFraction_isoFraction {us : Nat} (hus : us < 1000000) {s : Str} (hs : EndsTime s) :
    readFraction (isoFraction us ++ s) = some (us, s) := by
  rw [isoFraction]
  by_cases h : us = 0
  · subst h
    rw [if_pos rfl, List.nil_append]
    rcases s with _ | ⟨c, s⟩
    · rfl
    · unfold readFraction
      split
      · rename_i heq
        exact absurd (List.cons.inj heq).1 hs
      · rfl
  · rw [if_neg h, List.cons_append]
    exact @number_zeroPadded 6 _ hus s

theorem readTime_isoTime {t : Nat} (ht : t < 86400000000) {s : Str} (hs : EndsTime s) :
    readTime (isoTime t ++ s) = some (t, s) := by
  have hhour := @number_zeroPadded 2 (t / 3600000000) (by omega)
  have hminute := @number_zeroPadded 2 (t / 60000000 % 60) (by omega)
  have hsecond := @number_zeroPadded 2 (t / 1000000 % 60) (by omega)
  have hus := @readFraction_isoFraction (t % 1000000) (by omega) s hs
  simp only [readTime, isoTime, List.append_assoc, List.cons_append, Option.bind_eq_bind, hhour,
    hminute, hsecond, hus, Option.bind_some, lit_cons]
  rw [if_pos (by omega)]
  congr 2
  omega

theorem readOffsetSeconds_isoOffset {t : Nat} (hus : t % 1000000 < 1000000) :
    readOffsetSeconds (if t % 60000000 = 0 then []
      else 0x3A :: zeroPadded 2 (t / 1000000 % 60) ++ isoFraction (t % 1000000)) =
      some (t % 60000000) := by
  by_cases h : t % 60000000 = 0
  · rw [if_pos h, h]
    rfl
  · rw [if_neg h]
    have hsecond := @number_zeroPadded 2 (t / 1000000 % 60) (by omega)
    have hfraction := @readFraction_isoFraction (t % 1000000) hus [] trivial
    rw [List.append_nil] at hfraction
    simp only [List.cons_append, readOffsetSeconds, hsecond, hfraction, Option.bind_eq_bind,
      Option.bind_some, if_true]
    congr 1
    omega

theorem readOffset_isoOffset {offset : Option Int}
    (h : ∀ o ∈ offset, -86400000000 < o ∧ o < 86400000000) :
    readOffset (isoOffset offset) = some offset := by
  rcases offset with _ | o
  · rfl
  · obtain ⟨hlo, hhi⟩ := h o rfl
    have ht : o.natAbs < 86400000000 := by omega
    have hhour := @number_zeroPadded 2 (o.natAbs / 3600000000) (by omega)
    have hminute := @number_zeroPadded 2 (o.natAbs / 60000000 % 60) (by omega)
    have hrest := @readOffsetSeconds_isoOffset o.natAbs (Nat.mod_lt _ (by omega))
    have hsum : (o.natAbs / 3600000000 * 60 + o.natAbs / 60000000 % 60) * 60000000 +
        o.natAbs % 60000000 = o.natAbs := by omega
    simp only [isoOffset, List.cons_append, List.append_assoc, readOffset] at hrest ⊢
    by_cases hneg : o < 0
    · have hsign : (-1 : Int) * (o.natAbs : Int) = o := by omega
      simp only [if_pos hneg, hhour, hminute, hrest, lit_cons, Option.bind_eq_bind,
        Option.bind_some, hsum]
      exact congrArg (fun x => some (some x)) hsign
    · have hsign : (1 : Int) * (o.natAbs : Int) = o := by omega
      simp only [if_neg hneg, if_true, hhour, hminute, hrest, lit_cons, Option.bind_eq_bind,
        Option.bind_some, hsum]
      exact congrArg (fun x => some (some x)) hsign

theorem endsTime_isoOffset (offset : Option Int) : EndsTime (isoOffset offset) := by
  rcases offset with _ | o
  · trivial
  · show (if o < 0 then 0x2D else 0x2B) ≠ 0x2E
    split <;> decide

theorem mkDatetime_self (d : Datetime) : mkDatetime d.wall.val d.utcoffset = some d := by
  rw [mkDatetime, dif_pos ⟨d.wall.isLt, d.offset_lt⟩]

theorem div_lt_calendarDays {t : Nat} (h : t < calendarMicros) :
    t / 86400000000 < calendarDays := by
  unfold calendarMicros at h
  exact Nat.div_lt_of_lt_mul (Nat.mul_comm _ _ ▸ h)

theorem readDatetime_parts {day time : Nat} (hday : day < calendarDays) (htime : time < 86400000000)
    {offset : Option Int} (h : ∀ o ∈ offset, -86400000000 < o ∧ o < 86400000000) :
    readDatetime (isoDate day ++ 0x54 :: isoTime time ++ isoOffset offset) =
      mkDatetime (day * 86400000000 + time) offset := by
  rw [readDatetime, List.append_assoc, List.cons_append, readDate_isoDate hday]
  simp only [Option.bind_eq_bind, Option.bind_some, lit_cons]
  rw [readTime_isoTime htime (endsTime_isoOffset offset)]
  simp only [Option.bind_some]
  rw [readOffset_isoOffset h, Option.bind_some]

/-- A datetime is read back from its text. -/
theorem readDatetime_isoDatetime (d : Datetime) : readDatetime (isoDatetime d) = some d := by
  have hparts := readDatetime_parts (div_lt_calendarDays d.wall.isLt)
    (Nat.mod_lt d.wall.val (by omega : 0 < 86400000000)) d.offset_lt
  rw [Nat.div_add_mod', mkDatetime_self] at hparts
  exact hparts

-- ============================================================================
-- Identifiers
-- ============================================================================

/-- `str(u)`, as code points: 8-4-4-4-12 lower-case hexadecimal digits. -/
def uuidText (u : UUID) : Str :=
  let hex (width shift : Nat) : Str := padded 16 Json.hexDigit width (u.val / 16 ^ shift)
  hex 8 24 ++ 0x2D :: hex 4 20 ++ 0x2D :: hex 4 16 ++ 0x2D :: hex 4 12 ++ 0x2D :: hex 12 0

/-- `uuid.UUID(s)` of 32 hexadecimal digits, hyphens ignored. -/
def readUUID (s : Str) : Option UUID := do
  let (n, rest) ← digits 16 Json.hexVal 32 0 (s.filter fun c => c ≠ 0x2D)
  if h : n < 2 ^ 128 ∧ rest = [] then some ⟨n, h.1⟩ else none

theorem padded_no_hyphen (width n : Nat) :
    (padded 16 Json.hexDigit width n).filter (fun c => c ≠ 0x2D) =
      padded 16 Json.hexDigit width n := by
  have hdigit : ∀ v < 16, Json.hexDigit v ≠ 0x2D := by decide
  induction width with
  | zero => rfl
  | succ width ih =>
      have hne := hdigit (n / 16 ^ width % 16) (Nat.mod_lt _ (by omega))
      rw [padded, List.filter_cons_of_pos (by simpa using hne), ih]

theorem padded_append (base : Nat) (digitChar : Nat → Nat) (w v n : Nat) :
    padded base digitChar w (n / base ^ v) ++ padded base digitChar v n =
      padded base digitChar (w + v) n := by
  induction w with
  | zero => simp [padded]
  | succ w ih =>
      rw [padded, List.cons_append, ih, Nat.succ_add, padded, Nat.div_div_eq_div_mul, ← pow_add,
        Nat.add_comm v w]

/-- An identifier is read back from its text. -/
theorem readUUID_uuidText (u : UUID) : readUUID (uuidText u) = some u := by
  have htext : (uuidText u).filter (fun c => c ≠ 0x2D) = padded 16 Json.hexDigit 32 u.val := by
    have hyphen : ∀ s : Str, (0x2D :: s).filter (fun c => c ≠ 0x2D) =
        s.filter fun c => c ≠ 0x2D := fun s => List.filter_cons_of_neg (by simp)
    simp only [uuidText, List.filter_append, hyphen, padded_no_hyphen, List.append_assoc]
    rw [pow_zero, Nat.div_one, padded_append, padded_append, padded_append, padded_append]
  have hu : u.val < 16 ^ 32 := u.isLt
  have hread := digits_padded (by omega) Json.hexVal_hexDigit hu []
  rw [List.append_nil] at hread
  simp only [readUUID, htext, hread, Option.bind_eq_bind, Option.bind_some]
  rw [dif_pos ⟨u.isLt, trivial⟩]

-- ============================================================================
-- The instance
-- ============================================================================

/-- `str` of the JSON constants; other values are left out. -/
def strConstant : Json → Option Str
  | .null => some (Str.ofString "None")
  | .bool true => some (Str.ofString "True")
  | .bool false => some (Str.ofString "False")
  | _ => none

/-- A naive `datetime` in a system whose time zone is UTC: the first and the last
    stand for the infinities, and `astimezone` raises on the first day, before
    which it looks for the offset. -/
def utcParameter (t : Instant) : Option Timestamptz :=
  if t.val = 0 then some ⊥
  else if t.val + 1 = calendarMicros then some ((⊤ : WithTop Instant) : Timestamptz)
  else if t.val < 86400000000 then none
  else some (Timestamptz.ofInstant t)

/-- Whether `json.loads` reads a document, with `depth` levels of the recursion
    limit left. -/
def Json.isReadable : Nat → Json → Bool
  | 0, _ => false
  | depth + 1, .arr xs => xs.all (Json.isReadable depth)
  | depth + 1, .obj kvs => kvs.all fun kv => Json.isReadable depth kv.2
  | _ + 1, .int n => n.natAbs < 10 ^ Json.intMaxStrDigits
  | _ + 1, _ => true

/-- A `Python` with UTC as the system's time zone.  Amounts beyond `numeric` are
    refused. -/
def reference : Python where
  recursionLimit := 1000
  two_le_recursionLimit := by decide
  strValue := strConstant
  isoformat d := asciiString (isoDatetime d)
  fromisoformat := readDatetime
  strUUID u := asciiString (uuidText u)
  parseUUID := readUUID
  naiveToUtc := utcParameter
  numericParameter d := if d.IsNumeric then some d.toRat else none
  loadsJsonb j := if j.isReadable 1000 then some j else none

theorem ofString_asciiString {s : Str} (h : ∀ c ∈ s, c < 128) :
    Str.ofString (asciiString s) = s := by
  rw [Str.ofString, asciiString, String.toList_ofList, List.map_map]
  refine (List.map_congr_left fun c hc => ?_).trans (List.map_id s)
  exact toNat_charOfNat (h c hc)

/-- What holds of every digit holds of a padded number. -/
theorem forall_mem_padded {base : Nat} {digitChar : Nat → Nat} {P : Nat → Prop} (hbase : 0 < base)
    (h : ∀ v < base, P (digitChar v)) (width n : Nat) : ∀ c ∈ padded base digitChar width n, P c := by
  induction width with
  | zero => simp [padded]
  | succ width ih => exact List.forall_mem_cons.mpr ⟨h _ (Nat.mod_lt _ hbase), ih⟩

theorem length_padded (base : Nat) (digitChar : Nat → Nat) (width n : Nat) :
    (padded base digitChar width n).length = width := by
  induction width with
  | zero => rfl
  | succ width ih => rw [padded, List.length_cons, ih]

theorem zeroPadded_lt (width n : Nat) : ∀ c ∈ zeroPadded width n, c < 128 :=
  forall_mem_padded (by omega) (by omega) width n

theorem isoFraction_lt (us : Nat) : ∀ c ∈ isoFraction us, c < 128 := by
  rw [isoFraction]
  split
  · simp
  · exact List.forall_mem_cons.mpr ⟨by omega, zeroPadded_lt 6 us⟩

theorem isoDatetime_lt (d : Datetime) : ∀ c ∈ isoDatetime d, c < 128 := by
  have hdate : ∀ c ∈ isoDate (d.wall.val / 86400000000), c < 128 := by
    simp only [isoDate, List.forall_mem_append, List.forall_mem_cons]
    exact ⟨⟨zeroPadded_lt _ _, by omega, zeroPadded_lt _ _⟩, by omega, zeroPadded_lt _ _⟩
  have htime : ∀ c ∈ isoTime (d.wall.val % 86400000000), c < 128 := by
    simp only [isoTime, List.forall_mem_append, List.forall_mem_cons]
    exact ⟨⟨⟨zeroPadded_lt _ _, by omega, zeroPadded_lt _ _⟩, by omega, zeroPadded_lt _ _⟩,
      isoFraction_lt _⟩
  have hoffset : ∀ c ∈ isoOffset d.utcoffset, c < 128 := by
    rcases d.utcoffset with _ | o
    · simp [isoOffset]
    · simp only [isoOffset, List.forall_mem_append, List.forall_mem_cons]
      refine ⟨⟨⟨by split <;> decide, zeroPadded_lt _ _⟩, by omega, zeroPadded_lt _ _⟩, ?_⟩
      split
      · simp
      · simp only [List.forall_mem_append, List.forall_mem_cons]
        exact ⟨⟨by omega, zeroPadded_lt _ _⟩, isoFraction_lt _⟩
  rw [isoDatetime]
  simp only [List.forall_mem_append, List.forall_mem_cons]
  exact ⟨⟨hdate, by omega, htime⟩, hoffset⟩

/-- The text of a UUID is visible ASCII. -/
theorem uuidText_visible (u : UUID) : ∀ c ∈ uuidText u, 0x21 ≤ c ∧ c ≤ 0x7E := by
  have hhex : ∀ width n, ∀ c ∈ padded 16 Json.hexDigit width n, 0x21 ≤ c ∧ c ≤ 0x7E :=
    forall_mem_padded (by omega) (by decide)
  simp only [uuidText, List.forall_mem_append, List.forall_mem_cons]
  exact ⟨⟨⟨⟨hhex _ _, by omega, hhex _ _⟩, by omega, hhex _ _⟩, by omega, hhex _ _⟩,
    by omega, hhex _ _⟩

theorem uuidText_lt (u : UUID) : ∀ c ∈ uuidText u, c < 128 :=
  fun c hc => Nat.lt_of_le_of_lt (uuidText_visible u c hc).2 (by omega)

theorem length_uuidText (u : UUID) : (uuidText u).length = 36 := by
  simp only [uuidText, List.length_append, List.length_cons, length_padded]

/-- The reference meets the documented inverse laws. -/
theorem reference_roundTrip : reference.RoundTrip where
  fromisoformat_isoformat d _ := by
    show readDatetime (Str.ofString (asciiString (isoDatetime d))) = some d
    rw [ofString_asciiString (isoDatetime_lt d), readDatetime_isoDatetime]
  parseUUID_strUUID u := by
    show readUUID (Str.ofString (asciiString (uuidText u))) = some u
    rw [ofString_asciiString (uuidText_lt u), readUUID_uuidText]
  numericParameter_eq _ h := if_pos h

example : reference.isoformat (Datetime.ofInstant ⟨63894564245000250, by decide⟩) =
    "2025-09-27T10:04:05.000250+00:00" := by decide +kernel

example : reference.strUUID 4660 = "00000000-0000-0000-0000-000000001234" := by decide +kernel

end Py
