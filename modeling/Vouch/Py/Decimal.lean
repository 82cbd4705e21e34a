/-
  Vouch.Py.Decimal

  `decimal.Decimal(text)`, over code points.

  White space around the text and underscores in it are dropped; what is left is
  a sign, digits with at most one point among them, and an exponent.  Infinities
  and NaNs, which Python also reads, are left out: a field that asks for a finite
  number rejects them as it rejects text that is no number.

  Which code points beyond ASCII are digits or white space is a parameter
  (`Unicode`); nothing here depends on it.
-/

import Mathlib.Data.List.DropRight
import Mathlib.Data.Nat.Log
import Vouch.Py.Library

namespace Py

-- ============================================================================
-- Characters
-- ============================================================================

/-- What the Unicode database says of code points beyond ASCII. -/
structure Unicode where
  /-- The value of a decimal digit. -/
  digit : Nat → Option Nat
  isSpace : Nat → Bool

namespace Unicode

variable (un : Unicode)

/-- `\d`, with the value of the digit. -/
def digitVal (c : Nat) : Option Nat :=
  if c < 0x80 then (if 0x30 ≤ c ∧ c ≤ 0x39 then some (c - 0x30) else none) else un.digit c

/-- `str.isspace` -/
def space (c : Nat) : Bool :=
  if c < 0x80 then (0x09 ≤ c && c ≤ 0x0D) || (0x1C ≤ c && c ≤ 0x20) else un.isSpace c

/-- `str.strip()` -/
def strip (s : Str) : Str := (s.dropWhile un.space).rdropWhile un.space

/-- `\d*`: the values of the digits, and what follows them. -/
def takeDigits : Str → List Nat × Str
  | [] => ([], [])
  | c :: rest =>
      match un.digitVal c with
      | some d =>
          let (ds, tail) := takeDigits rest
          (d :: ds, tail)
      | none => ([], c :: rest)

/-- `(\.\d*)?` -/
def takeFraction : Str → List Nat × Str
  | 0x2E :: rest => un.takeDigits rest
  | s => ([], s)

end Unicode

-- ============================================================================
-- Numbers
-- ============================================================================

/-- `[-+]?`: whether the sign is negative, and what follows it. -/
def takeSign : Str → Bool × Str
  | 0x2D :: rest => (true, rest)
  | 0x2B :: rest => (false, rest)
  | s => (false, s)

/-- `int(digits)` -/
def ofDigits (ds : List Nat) : Nat := ds.foldl (fun n d => 10 * n + d) 0

/-- A number under its sign. -/
def signed (negative : Bool) (n : Nat) : Int := if negative then -(n : Int) else n

/-- `(E[-+]?\d+)?` up to the end of the text; `E` in either case. -/
def Unicode.readExponent (un : Unicode) : Str → Option Int
  | [] => some 0
  | c :: rest =>
      if c = 0x45 ∨ c = 0x65 then
        let (negative, digits) := takeSign rest
        match un.takeDigits digits with
        | (d :: ds, []) => some (signed negative (ofDigits (d :: ds)))
        | _ => none
      else none

/-- The exponents a `Decimal` can have, on 64-bit platforms: at least `Etiny`, and
    with the coefficient in front at most `MAX_EMAX`. -/
def Decimal.InRange (d : Decimal) : Prop :=
  -1999999999999999997 ≤ d.exponent ∧
    d.exponent + Nat.log 10 d.coefficient.natAbs ≤ 999999999999999999

instance (d : Decimal) : Decidable d.InRange := inferInstanceAs (Decidable (_ ∧ _))

/-- `Decimal(text)`; `none` where it is `InvalidOperation` or not finite. -/
def Decimal.parse (un : Unicode) (text : Str) : Option Decimal :=
  let (negative, rest) := takeSign ((un.strip text).filter (· ≠ 0x5F))
  let (whole, rest) := un.takeDigits rest
  let (fraction, rest) := un.takeFraction rest
  if whole = [] ∧ fraction = [] then none
  else
    match un.readExponent rest with
    | none => none
    | some e =>
        let d : Decimal := ⟨signed negative (ofDigits (whole ++ fraction)), e - fraction.length⟩
        if d.InRange then some d else none

example : Decimal.parse ⟨fun _ => none, fun _ => false⟩ (Str.ofString " -12_5.5E+2 ") =
    some ⟨-1255, 1⟩ := by decide +kernel

-- ============================================================================
-- Reading digits
-- ============================================================================

section Digits

variable {un : Unicode}

theorem strip_eq_self {s : Str} (h : ∀ c ∈ s, un.space c = false) : un.strip s = s := by
  have hdrop : s.dropWhile un.space = s := by
    cases s with
    | nil => rfl
    | cons c s => rw [List.dropWhile_cons_of_neg (by simp [h c List.mem_cons_self])]
  rw [Unicode.strip, hdrop, List.rdropWhile_eq_self_iff]
  intro hne
  rw [h _ (List.getLast_mem hne)]
  simp

/-- A digit of a number's text. -/
theorem toNat_of_isDigit {c : Char} (h : c.isDigit) : 0x30 ≤ c.toNat ∧ c.toNat ≤ 0x39 := by
  simp only [Char.isDigit, Bool.and_eq_true, decide_eq_true_eq] at h
  exact ⟨h.1, h.2⟩

theorem digitVal_of_isDigit {c : Char} (h : c.isDigit) :
    un.digitVal c.toNat = some (c.toNat - 0x30) := by
  have hc := toNat_of_isDigit h
  rw [Unicode.digitVal, if_pos (by omega), if_pos hc]

/-- Digits are read up to what is no digit. -/
theorem takeDigits_append {cs : List Char} (h : ∀ c ∈ cs, c.isDigit) {tail : Str}
    (htail : un.takeDigits tail = ([], tail)) :
    un.takeDigits (cs.map Char.toNat ++ tail) = (cs.map fun c => c.toNat - 0x30, tail) := by
  induction cs with
  | nil => exact htail
  | cons c cs ih =>
    obtain ⟨hc, hcs⟩ := List.forall_mem_cons.mp h
    rw [List.map_cons, List.cons_append, Unicode.takeDigits, digitVal_of_isDigit hc, ih hcs]
    rfl

/-- The digits of a number, read as one. -/
theorem ofDigits_toDigits (n : ℕ) :
    ofDigits ((Nat.toDigits 10 n).map fun c => c.toNat - 0x30) = n := by
  rw [ofDigits, List.foldl_map]
  exact Nat.ofDigitChars_ten_toDigits

theorem ofDigits_append_pair (ds : List ℕ) (a b : ℕ) :
    ofDigits (ds ++ [a, b]) = 100 * ofDigits ds + 10 * a + b := by
  rw [ofDigits, List.foldl_append]
  show 10 * (10 * ofDigits ds + a) + b = _
  omega

/-- A text that starts with a digit has no sign. -/
theorem takeSign_of_isDigit {c : Char} (h : c.isDigit) (rest : Str) :
    takeSign (c.toNat :: rest) = (false, c.toNat :: rest) := by
  have hc := toNat_of_isDigit h
  rw [takeSign]
  · intro rest' heq
    injection heq
    omega
  · intro rest' heq
    injection heq
    omega

end Digits

end Py
