/-
  Vouch.Py.Library

  Values of Python's `datetime`, `uuid` and `decimal` modules, and the library
  functions a program relies on that keeps timestamps and identifiers as text
  and sends parameters to a database.

  `Python` collects those functions as parameters: their grammars
  (`fromisoformat`, `uuid.UUID`), `str` of arbitrary JSON values and what the
  driver sends or refuses differ between versions, and no result below depends
  on them beyond the documented laws of `Python.RoundTrip`.
-/

import Mathlib.Data.Nat.Log
import Mathlib.Data.Rat.Floor
import Mathlib.Order.Fin.Basic
import Mathlib.Order.WithBot
import Vouch.Py.Calendar
import Vouch.Py.Json

namespace Py

-- ============================================================================
-- Values
-- ============================================================================

/-- A `uuid.UUID`: 128 bits, ordered as PostgreSQL orders `uuid`. -/
abbrev UUID := Fin (2 ^ 128)

instance uuid_neZero : NeZero (2 ^ 128) := ⟨by decide⟩

/-- Microseconds from 0001-01-01T00:00:00 to the end of year 9999. -/
def calendarMicros : Nat := calendarDays * 86400000000

/-- An instant in UTC at microsecond resolution, within Python's calendar. -/
abbrev Instant := Fin calendarMicros

instance calendarMicros_neZero : NeZero calendarMicros := ⟨by decide⟩

/-- A `timestamptz` as a driver may send it: an instant or `±infinity`. -/
abbrev Timestamptz := WithBot (WithTop Instant)

/-- A finite `timestamptz`. -/
def Timestamptz.ofInstant (t : Instant) : Timestamptz := ((t : WithTop Instant) : Timestamptz)

/-- A `datetime.datetime`: its wall clock, and the `utcoffset` in microseconds
    of an aware one, strictly between minus and plus 24 hours. -/
structure Datetime where
  wall : Instant
  utcoffset : Option Int
  offset_lt : ∀ o ∈ utcoffset, -86400000000 < o ∧ o < 86400000000
deriving DecidableEq

/-- The aware UTC `datetime` of an instant, as drivers return `timestamptz`. -/
def Datetime.ofInstant (t : Instant) : Datetime :=
  ⟨t, some 0, fun o ho => by
    obtain rfl : 0 = o := by simpa using ho
    decide⟩

/-- A finite `decimal.Decimal`: `coefficient * 10 ^ exponent`. -/
structure Decimal where
  coefficient : Int
  exponent : Int
deriving DecidableEq, Repr

/-- The number a `Decimal` denotes. -/
def Decimal.toRat (d : Decimal) : ℚ :=
  if 0 ≤ d.exponent then (d.coefficient * 10 ^ d.exponent.toNat : ℤ)
  else mkRat d.coefficient (10 ^ (-d.exponent).toNat)

/-- The documented limits of PostgreSQL's `numeric`: 16383 digits after the
    decimal point, 131072 before it. -/
def Decimal.IsNumeric (d : Decimal) : Prop :=
  -16383 ≤ d.exponent ∧ d.exponent + Nat.log 10 d.coefficient.natAbs < 131072

instance (d : Decimal) : Decidable d.IsNumeric := inferInstanceAs (Decidable (_ ∧ _))

-- ============================================================================
-- Functions
-- ============================================================================

/-- The functions of the libraries and of the database driver. -/
structure Python where
  /-- `sys.getrecursionlimit()`. -/
  recursionLimit : Nat
  /-- An object with string values can be scanned. -/
  two_le_recursionLimit : 2 ≤ recursionLimit
  /-- `str(v)` for a JSON value that is no string; it may raise. -/
  strValue : Json → Option Str
  /-- `d.isoformat()`. -/
  isoformat : Datetime → String
  /-- `datetime.fromisoformat(s)`; `none` is `ValueError`. -/
  fromisoformat : Str → Option Datetime
  /-- `str(u)`. -/
  strUUID : UUID → String
  /-- `uuid.UUID(s)`; `none` is `ValueError`. -/
  parseUUID : Str → Option UUID
  /-- The parameter a driver sends for a naive `datetime`, by the system's time
      zone; the ends of the calendar may stand for the infinities. -/
  naiveToUtc : Instant → Option Timestamptz
  /-- The number that reaches the server when a `Decimal` is a `numeric`
      parameter; `none` where the driver refuses it for its exponent or its
      length. -/
  numericParameter : Decimal → Option ℚ
  /-- `json.loads` of the text the server sends for a `jsonb` document; it may
      raise. -/
  loadsJsonb : Json → Option Json

/-- The inverse laws the standard library documents, and what the driver does
    with amounts that are no longer than a `numeric`. -/
structure Python.RoundTrip (py : Python) : Prop where
  fromisoformat_isoformat : ∀ d : Datetime, d.utcoffset ≠ none →
    py.fromisoformat (Str.ofString (py.isoformat d)) = some d
  parseUUID_strUUID : ∀ u, py.parseUUID (Str.ofString (py.strUUID u)) = some u
  numericParameter_eq : ∀ d : Decimal, d.IsNumeric → py.numericParameter d = some d.toRat

/-- `str(v)`; a string is itself. -/
def Python.str (py : Python) : Json → Option Str
  | .str s => some s
  | v => py.strValue v

/-- The instant a number of microseconds after 0001-01-01T00:00:00, if the
    calendar reaches it. -/
def Instant.ofMicros (t : Int) : Option Instant :=
  if h : t.toNat < calendarMicros ∧ 0 ≤ t then some ⟨t.toNat, h.1⟩ else none

/-- `d.astimezone(utc)`; `none` is the `OverflowError` at the ends of the
    calendar. -/
def Python.toUtc (py : Python) (d : Datetime) : Option Timestamptz :=
  match d.utcoffset with
  | none => py.naiveToUtc d.wall
  | some o => (Instant.ofMicros (d.wall.val - o)).map Timestamptz.ofInstant

theorem Timestamptz.ofInstant_le {t u : Instant} :
    Timestamptz.ofInstant t ≤ Timestamptz.ofInstant u ↔ t ≤ u := by
  simp [Timestamptz.ofInstant]

theorem Timestamptz.ofInstant_inj {t u : Instant} :
    Timestamptz.ofInstant t = Timestamptz.ofInstant u ↔ t = u := by
  simp [Timestamptz.ofInstant]

@[simp] theorem Python.str_str (py : Python) (s : Str) : py.str (.str s) = some s := rfl

@[simp] theorem Instant.ofMicros_val (t : Instant) : Instant.ofMicros t.val = some t := by
  rw [Instant.ofMicros, dif_pos ⟨by simp, Int.natCast_nonneg _⟩]
  simp

/-- A UTC `datetime` is its instant. -/
@[simp] theorem Python.toUtc_ofInstant (py : Python) (t : Instant) :
    py.toUtc (Datetime.ofInstant t) = some (Timestamptz.ofInstant t) := by
  have hwall : Instant.ofMicros ((t.val : Int) - 0) = some t := by
    rw [Int.sub_zero, Instant.ofMicros_val]
  simp only [Python.toUtc, Datetime.ofInstant, hwall, Option.map_some]

end Py
