/-
  Vouch.Py.Text

  Python `str` and the decoders `json.loads` may apply to raw bytes.

  A `str` is its list of code points; unlike Lean's `String` it may hold lone
  surrogates, which JSON escapes and the `surrogatepass` error handler both
  produce.  Decoders return `none` for `UnicodeDecodeError`.
-/

import Mathlib.Data.List.Basic

namespace Py

-- ============================================================================
-- Strings and surrogates
-- ============================================================================

/-- A Python `str`: its code points. -/
abbrev Str := List Nat

/-- The `str` holding the scalar values of a Lean string. -/
def Str.ofString (s : String) : Str := s.toList.map Char.toNat

theorem Str.ofString_injective : Function.Injective Str.ofString := by
  intro s t h
  have hchars : Function.Injective Char.toNat := fun _ _ => Char.toNat_inj.mp
  exact String.toList_inj.mp (List.map_injective_iff.mpr hchars h)

def isHighSurrogate (u : Nat) : Bool := 0xD800 ≤ u && u ≤ 0xDBFF

def isLowSurrogate (u : Nat) : Bool := 0xDC00 ≤ u && u ≤ 0xDFFF

/-- The code point a surrogate pair stands for. -/
def joinPair (hi lo : Nat) : Nat := 0x10000 + (hi - 0xD800) * 0x400 + (lo - 0xDC00)

/-- Below 128 code points and characters are the same. -/
theorem toNat_charOfNat {n : Nat} (h : n < 128) : (Char.ofNat n).toNat = n := by
  have hvalid : n.isValidChar := Or.inl (by omega)
  rw [Char.ofNat, dif_pos hvalid]
  rfl

/-- `s.encode()`: UTF-8, which cannot fail on scalar values. -/
def utf8Encode (s : String) : List UInt8 := s.toList.flatMap String.utf8EncodeChar

/-- An ASCII code point is encoded as itself. -/
theorem utf8EncodeChar_ascii {c : Char} (h : c.toNat < 128) :
    String.utf8EncodeChar c = [UInt8.ofNat c.toNat] := by
  have hc : c.val.toNat ≤ 127 := Nat.le_of_lt_succ h
  simp only [String.utf8EncodeChar, hc, if_true]
  rfl

-- ============================================================================
-- Decoders
-- ============================================================================

/-- A UTF-8 continuation byte. -/
def isCont (b : UInt8) : Bool := 0x80 ≤ b && b ≤ 0xBF

/-- `bytes.decode("utf-8", "surrogatepass")`: besides well-formed sequences, the
    three-byte encodings of surrogates (`ED A0..BF xx`) are accepted. -/
def utf8Decode : List UInt8 → Option Str
  | [] => some []
  | a :: rest =>
      if a < 0x80 then (utf8Decode rest).map (a.toNat :: ·)
      else if a < 0xC2 then none
      else if a < 0xE0 then
        match rest with
        | b :: rest =>
            if isCont b then
              (utf8Decode rest).map (((a.toNat - 0xC0) * 0x40 + (b.toNat - 0x80)) :: ·)
            else none
        | [] => none
      else if a < 0xF0 then
        match rest with
        | b :: c :: rest =>
            -- `E0` must not be overlong
            if isCont b && isCont c && !(a = 0xE0 && b < 0xA0) then
              (utf8Decode rest).map
                (((a.toNat - 0xE0) * 0x1000 + (b.toNat - 0x80) * 0x40 + (c.toNat - 0x80)) :: ·)
            else none
        | _ => none
      else if a < 0xF5 then
        match rest with
        | b :: c :: d :: rest =>
            -- `F0` must not be overlong, `F4` not beyond U+10FFFF
            if isCont b && isCont c && isCont d && !(a = 0xF0 && b < 0x90) &&
                !(a = 0xF4 && 0x90 ≤ b) then
              (utf8Decode rest).map
                (((a.toNat - 0xF0) * 0x40000 + (b.toNat - 0x80) * 0x1000 +
                  (c.toNat - 0x80) * 0x40 + (d.toNat - 0x80)) :: ·)
            else none
        | _ => none
      else none

/-- The 16-bit units of a byte string; a single byte left over is an error. -/
def utf16Units (little : Bool) : List UInt8 → Option (List Nat)
  | [] => some []
  | [_] => none
  | a :: b :: rest =>
      (utf16Units little rest).map
        ((if little then a.toNat + 256 * b.toNat else 256 * a.toNat + b.toNat) :: ·)

/-- Replace every surrogate pair by its code point; lone surrogates stay. -/
def joinUnits : List Nat → Str
  | [] => []
  | [u] => [u]
  | u :: v :: tail =>
      if isHighSurrogate u && isLowSurrogate v then joinPair u v :: joinUnits tail
      else u :: joinUnits (v :: tail)

/-- `bytes.decode("utf-16-le" | "utf-16-be", "surrogatepass")`. -/
def utf16Decode (little : Bool) (bs : List UInt8) : Option Str :=
  (utf16Units little bs).map joinUnits

/-- `bytes.decode("utf-32-le" | "utf-32-be", "surrogatepass")`. -/
def utf32Decode (little : Bool) : List UInt8 → Option Str
  | [] => some []
  | a :: b :: c :: d :: rest =>
      let u := if little then a.toNat + 256 * (b.toNat + 256 * (c.toNat + 256 * d.toNat))
        else d.toNat + 256 * (c.toNat + 256 * (b.toNat + 256 * a.toNat))
      if u ≤ 0x10FFFF then (utf32Decode little rest).map (u :: ·) else none
  | _ => none

/-- `json.detect_encoding` followed by `decode(..., "surrogatepass")`.  The
    order of the tests is that of the source: the UTF-32 marks come first
    because the little-endian one starts with the UTF-16 mark. -/
def decodeDetected (bs : List UInt8) : Option Str :=
  if [0x00, 0x00, 0xFE, 0xFF].isPrefixOf bs then utf32Decode false (bs.drop 4)
  else if [0xFF, 0xFE, 0x00, 0x00].isPrefixOf bs then utf32Decode true (bs.drop 4)
  else if [0xFE, 0xFF].isPrefixOf bs then utf16Decode false (bs.drop 2)
  else if [0xFF, 0xFE].isPrefixOf bs then utf16Decode true (bs.drop 2)
  else if [0xEF, 0xBB, 0xBF].isPrefixOf bs then utf8Decode (bs.drop 3)
  else match bs with
  | a :: b :: c :: d :: _ =>
      if a = 0 then (if b = 0 then utf32Decode false bs else utf16Decode false bs)
      else if b = 0 then (if c = 0 && d = 0 then utf32Decode true bs else utf16Decode true bs)
      else utf8Decode bs
  | [a, b] =>
      if a = 0 then utf16Decode false bs else if b = 0 then utf16Decode true bs
      else utf8Decode bs
  | _ => utf8Decode bs

-- ============================================================================
-- ASCII text
-- ============================================================================

/-- The bytes of an ASCII code-point list. -/
def asciiBytes (s : Str) : List UInt8 := s.map UInt8.ofNat

/-- Printable ASCII, the range JSON leaves unescaped. -/
def IsPrintable (u : Nat) : Prop := 0x20 ≤ u ∧ u ≤ 0x7E

instance (u : Nat) : Decidable (IsPrintable u) :=
  inferInstanceAs (Decidable (_ ∧ _))

theorem toNat_asciiByte {u : Nat} (h : IsPrintable u) : (UInt8.ofNat u).toNat = u := by
  rw [IsPrintable] at h
  rw [UInt8.toNat_ofNat']
  omega

/-- UTF-8 decodes ASCII bytes to themselves. -/
theorem utf8Decode_asciiBytes {s : Str} (h : ∀ u ∈ s, IsPrintable u) :
    utf8Decode (asciiBytes s) = some s := by
  induction s with
  | nil => rfl
  | cons u s ih =>
      obtain ⟨hu, hs⟩ := List.forall_mem_cons.mp h
      have hn := toNat_asciiByte hu
      have hlt : UInt8.ofNat u < 0x80 := by
        rw [UInt8.lt_iff_toNat_lt, hn]
        exact Nat.lt_of_le_of_lt hu.2 (by decide)
      have ih := ih hs
      rw [asciiBytes] at ih ⊢
      rw [List.map_cons, utf8Decode.eq_def]
      simp only [if_pos hlt, ih, Option.map_some, hn]

/-- Printable bytes carry no byte-order mark and no zero byte, so they are read
    as UTF-8. -/
theorem decodeDetected_printable {bs : List UInt8} (h : ∀ b ∈ bs, 0x20 ≤ b ∧ b ≤ 0x7E) :
    decodeDetected bs = utf8Decode bs := by
  have hzero : ∀ b ∈ bs, b ≠ 0 := by
    rintro b hb rfl
    exact absurd (UInt8.le_iff_toNat_le.mp (h 0 hb).1) (by decide)
  have hmark : ∀ b m, 0x7E < b.toNat → b ∈ m → ¬ List.isPrefixOf m bs = true := by
    intro b m hb hm hpre
    have hle := (h b ((List.isPrefixOf_iff_prefix.mp hpre).subset hm)).2
    exact absurd (UInt8.le_iff_toNat_le.mp hle) (Nat.not_le.mpr hb)
  unfold decodeDetected
  rw [if_neg (hmark 0xFE _ (by decide) (by simp)),
    if_neg (hmark 0xFF _ (by decide) (by simp)), if_neg (hmark 0xFE _ (by decide) (by simp)),
    if_neg (hmark 0xFF _ (by decide) (by simp)), if_neg (hmark 0xEF _ (by decide) (by simp))]
  split
  · rw [if_neg (hzero _ (by simp)), if_neg (hzero _ (by simp))]
  · rw [if_neg (hzero _ (by simp)), if_neg (hzero _ (by simp))]
  · rfl

/-- Printable ASCII text survives `json.detect_encoding`. -/
theorem decodeDetected_asciiBytes {s : Str} (h : ∀ u ∈ s, IsPrintable u) :
    decodeDetected (asciiBytes s) = some s := by
  rw [decodeDetected_printable, utf8Decode_asciiBytes h]
  intro b hb
  obtain ⟨u, hu, rfl⟩ := List.mem_map.mp hb
  have hp := h u hu
  rw [UInt8.le_iff_toNat_le, UInt8.le_iff_toNat_le, toNat_asciiByte hp]
  exact hp

end Py
