/-
  Vouch.Py.Base64

  The URL-safe half of Python's `base64` module, over bytes.

    * `urlsafeB64encode` — RFC 4648 §5 with padding, as `binascii.b2a_base64`
      produces it.
    * `urlsafeB64decode` — the lenient decoder: `binascii.a2b_base64` without
      `strict_mode`, after translating `-_` to `+/`.  Bytes outside the alphabet
      are skipped, decoding stops at complete padding, surplus `=` is ignored,
      and only a dangling quantum is an error.

  `urlsafeB64decode_encode` inverts the encoder for every byte string, whatever
  number of trailing `=` is cut off and then at least two are added back.
-/

import Mathlib.Data.List.Basic

namespace Py

-- ============================================================================
-- The alphabet
-- ============================================================================

/-- `=`, the padding byte. -/
def pad : UInt8 := 61

/-- The character for a 6-bit value: `A-Z`, `a-z`, `0-9`, `-`, `_`. -/
def b64Char (v : Nat) : UInt8 :=
  if v < 26 then UInt8.ofNat (65 + v)
  else if v < 52 then UInt8.ofNat (97 + (v - 26))
  else if v < 62 then UInt8.ofNat (48 + (v - 52))
  else if v = 62 then 45
  else 95

/-- The 6-bit value of a byte.  Both `+/` and `-_` are accepted, since the
    decoder translates the URL-safe pair to the standard one first. -/
def b64Value (c : UInt8) : Option Nat :=
  if 65 ≤ c ∧ c ≤ 90 then some (c.toNat - 65)
  else if 97 ≤ c ∧ c ≤ 122 then some (c.toNat - 97 + 26)
  else if 48 ≤ c ∧ c ≤ 57 then some (c.toNat - 48 + 52)
  else if c = 43 ∨ c = 45 then some 62
  else if c = 47 ∨ c = 95 then some 63
  else none

theorem b64Value_b64Char : ∀ v < 64, b64Value (b64Char v) = some v := by decide

theorem b64Char_ne_pad : ∀ v < 64, b64Char v ≠ pad := by decide

-- ============================================================================
-- Encoding and decoding
-- ============================================================================

/-- `base64.urlsafe_b64encode`: three bytes to four characters, padded. -/
def urlsafeB64encode : List UInt8 → List UInt8
  | a :: b :: c :: rest =>
      b64Char (a.toNat / 4) :: b64Char (a.toNat % 4 * 16 + b.toNat / 16) ::
      b64Char (b.toNat % 16 * 4 + c.toNat / 64) :: b64Char (c.toNat % 64) ::
      urlsafeB64encode rest
  | [a, b] =>
      [b64Char (a.toNat / 4), b64Char (a.toNat % 4 * 16 + b.toNat / 16),
       b64Char (b.toNat % 16 * 4), pad]
  | [a] => [b64Char (a.toNat / 4), b64Char (a.toNat % 4 * 16), pad, pad]
  | [] => []

/-- The loop of `binascii.a2b_base64`: `quad` characters of the current quantum
    are read and `left` holds their bits not yet emitted; `pads` counts `=` seen
    since the last character of an unfinished quantum. -/
def a2bBase64 (quad left pads : Nat) : List UInt8 → Option (List UInt8)
  | [] => if quad = 0 then some [] else none
  | c :: cs =>
      if c = pad then
        if 2 ≤ quad then
          -- complete padding: nothing after it is read
          if 4 ≤ quad + (pads + 1) then some []
          else a2bBase64 quad left (pads + 1) cs
        else a2bBase64 quad left pads cs
      else
        match b64Value c with
        | none => a2bBase64 quad left pads cs
        | some v =>
            match quad with
            | 0 => a2bBase64 1 v 0 cs
            | 1 => (a2bBase64 2 (v % 16) 0 cs).map (UInt8.ofNat (left * 4 + v / 16) :: ·)
            | 2 => (a2bBase64 3 (v % 4) 0 cs).map (UInt8.ofNat (left * 16 + v / 4) :: ·)
            | _ => (a2bBase64 0 0 0 cs).map (UInt8.ofNat (left * 64 + v) :: ·)

/-- `base64.urlsafe_b64decode`; `none` is `binascii.Error`. -/
def urlsafeB64decode (s : List UInt8) : Option (List UInt8) := a2bBase64 0 0 0 s

-- ============================================================================
-- One quantum at a time
-- ============================================================================

section Quantum

variable {v left pads : Nat} {cs : List UInt8}

theorem a2b_char0 (hv : v < 64) : a2bBase64 0 left pads (b64Char v :: cs) = a2bBase64 1 v 0 cs := by
  simp [a2bBase64, b64Char_ne_pad v hv, b64Value_b64Char v hv]

theorem a2b_char1 (hv : v < 64) : a2bBase64 1 left pads (b64Char v :: cs) =
    (a2bBase64 2 (v % 16) 0 cs).map (UInt8.ofNat (left * 4 + v / 16) :: ·) := by
  simp [a2bBase64, b64Char_ne_pad v hv, b64Value_b64Char v hv]

theorem a2b_char2 (hv : v < 64) : a2bBase64 2 left pads (b64Char v :: cs) =
    (a2bBase64 3 (v % 4) 0 cs).map (UInt8.ofNat (left * 16 + v / 4) :: ·) := by
  simp [a2bBase64, b64Char_ne_pad v hv, b64Value_b64Char v hv]

theorem a2b_char3 (hv : v < 64) : a2bBase64 3 left pads (b64Char v :: cs) =
    (a2bBase64 0 0 0 cs).map (UInt8.ofNat (left * 64 + v) :: ·) := by
  simp [a2bBase64, b64Char_ne_pad v hv, b64Value_b64Char v hv]

/-- Between quanta, padding is skipped. -/
theorem a2b_pads (n : Nat) : a2bBase64 0 left pads (List.replicate n pad) = some [] := by
  induction n with
  | zero => rfl
  | succ n ih => simpa [List.replicate_succ, a2bBase64] using ih

/-- A quantum of two characters is closed by two pads. -/
theorem a2b_close2 (n : Nat) :
    a2bBase64 2 left 0 (List.replicate (n + 2) pad) = some [] := by
  simp [List.replicate_succ, a2bBase64]

/-- A quantum of three characters is closed by one pad. -/
theorem a2b_close3 (n : Nat) :
    a2bBase64 3 left 0 (List.replicate (n + 1) pad) = some [] := by
  simp [List.replicate_succ, a2bBase64]

end Quantum

-- ============================================================================
-- Decoding undoes encoding
-- ============================================================================

/-- The encoding without its padding. -/
def b64Body : List UInt8 → List UInt8
  | a :: b :: c :: rest =>
      b64Char (a.toNat / 4) :: b64Char (a.toNat % 4 * 16 + b.toNat / 16) ::
      b64Char (b.toNat % 16 * 4 + c.toNat / 64) :: b64Char (c.toNat % 64) :: b64Body rest
  | [a, b] =>
      [b64Char (a.toNat / 4), b64Char (a.toNat % 4 * 16 + b.toNat / 16),
       b64Char (b.toNat % 16 * 4)]
  | [a] => [b64Char (a.toNat / 4), b64Char (a.toNat % 4 * 16)]
  | [] => []

/-- The encoder appends to the body at most two pads. -/
theorem urlsafeB64encode_eq (bs : List UInt8) :
    ∃ n ≤ 2, urlsafeB64encode bs = b64Body bs ++ List.replicate n pad := by
  induction bs using urlsafeB64encode.induct with
  | case1 a b c rest ih =>
      obtain ⟨n, hn, h⟩ := ih
      exact ⟨n, hn, by simp [urlsafeB64encode, b64Body, h]⟩
  | case2 a b => exact ⟨1, by omega, rfl⟩
  | case3 a => exact ⟨2, by omega, rfl⟩
  | case4 => exact ⟨0, by omega, rfl⟩

/-- Reassembling the bits of a byte gives the byte. -/
theorem ofNat_toNat_eq {n : Nat} {b : UInt8} (h : n = b.toNat) : UInt8.ofNat n = b := by
  rw [h, UInt8.ofNat_toNat]

/-- The body decodes to the bytes, under any padding of two or more `=`. -/
theorem a2b_b64Body (bs : List UInt8) (n : Nat) :
    a2bBase64 0 0 0 (b64Body bs ++ List.replicate (n + 2) pad) = some bs := by
  induction bs using b64Body.induct with
  | case1 a b c rest ih =>
      have ha := a.toNat_lt
      have hb := b.toNat_lt
      have hc := c.toNat_lt
      simp only [b64Body, List.cons_append]
      rw [a2b_char0 (by omega), a2b_char1 (by omega), a2b_char2 (by omega), a2b_char3 (by omega),
        ih]
      simp only [Option.map_some]
      congr 1
      rw [ofNat_toNat_eq (b := a) (by omega), ofNat_toNat_eq (b := b) (by omega),
        ofNat_toNat_eq (b := c) (by omega)]
  | case2 a b =>
      have ha := a.toNat_lt
      have hb := b.toNat_lt
      simp only [b64Body, List.cons_append, List.nil_append]
      rw [a2b_char0 (by omega), a2b_char1 (by omega), a2b_char2 (by omega), a2b_close3]
      simp only [Option.map_some]
      congr 1
      rw [ofNat_toNat_eq (b := a) (by omega), ofNat_toNat_eq (b := b) (by omega)]
  | case3 a =>
      have ha := a.toNat_lt
      simp only [b64Body, List.cons_append, List.nil_append]
      rw [a2b_char0 (by omega), a2b_char1 (by omega), a2b_close2]
      simp only [Option.map_some]
      congr 1
      rw [ofNat_toNat_eq (b := a) (by omega)]
  | case4 => exact a2b_pads _

/-- The body itself carries no padding. -/
theorem ne_pad_of_mem_b64Body (bs : List UInt8) : ∀ c ∈ b64Body bs, c ≠ pad := by
  induction bs using b64Body.induct with
  | case1 a b c rest ih =>
      have ha := a.toNat_lt
      have hb := b.toNat_lt
      have hc := c.toNat_lt
      simp only [b64Body, List.forall_mem_cons]
      exact ⟨b64Char_ne_pad _ (by omega), b64Char_ne_pad _ (by omega),
        b64Char_ne_pad _ (by omega), b64Char_ne_pad _ (by omega), ih⟩
  | case2 a b =>
      have ha := a.toNat_lt
      have hb := b.toNat_lt
      simp only [b64Body, List.forall_mem_cons]
      exact ⟨b64Char_ne_pad _ (by omega), b64Char_ne_pad _ (by omega),
        b64Char_ne_pad _ (by omega), by simp⟩
  | case3 a =>
      have ha := a.toNat_lt
      simp only [b64Body, List.forall_mem_cons]
      exact ⟨b64Char_ne_pad _ (by omega), b64Char_ne_pad _ (by omega), by simp⟩
  | case4 => simp [b64Body]

/-- Cutting trailing `=` off an encoding leaves the body and some padding. -/
theorem cut_eq_b64Body {bs cut : List UInt8} {n : Nat}
    (h : urlsafeB64encode bs = cut ++ List.replicate n pad) :
    ∃ k, cut = b64Body bs ++ List.replicate k pad := by
  obtain ⟨m, -, hm⟩ := urlsafeB64encode_eq bs
  rw [hm] at h
  rcases List.append_eq_append_iff.mp h with ⟨a, hcut, hrep⟩ | ⟨c, hbody, hrep⟩
  · obtain ⟨-, ha, -⟩ := List.append_eq_replicate_iff.mp hrep.symm
    exact ⟨a.length, by rw [hcut]; congr 1⟩
  · -- `c` would be padding inside the body, so it is empty
    obtain ⟨-, hc, -⟩ := List.append_eq_replicate_iff.mp hrep.symm
    have hnil : c = [] := by
      rcases c with _ | ⟨x, c⟩
      · rfl
      · have hx : x = pad := (List.eq_replicate_iff.mp hc).2 x List.mem_cons_self
        exact absurd hx (ne_pad_of_mem_b64Body bs x (by simp [hbody]))
    exact ⟨0, by simp [hbody, hnil]⟩

/-- **Round trip.**  The encoding decodes to the bytes once `==` is appended, as
    it stands or with any number of its trailing `=` cut off. -/
theorem urlsafeB64decode_encode {bs cut : List UInt8} {n : Nat}
    (h : urlsafeB64encode bs = cut ++ List.replicate n pad) :
    urlsafeB64decode (cut ++ [pad, pad]) = some bs := by
  obtain ⟨k, rfl⟩ := cut_eq_b64Body h
  have hpads : b64Body bs ++ List.replicate k pad ++ [pad, pad] =
      b64Body bs ++ List.replicate (k + 2) pad := by
    rw [List.append_assoc, List.replicate_add]
    rfl
  rw [urlsafeB64decode, hpads]
  exact a2b_b64Body bs k

/-- The bytes an encoding may contain: `A-Z`, `a-z`, `0-9`, `-`, `_` and `=`. -/
def IsUrlsafe (c : UInt8) : Prop :=
  (65 ≤ c ∧ c ≤ 90) ∨ (97 ≤ c ∧ c ≤ 122) ∨ (48 ≤ c ∧ c ≤ 57) ∨ c = 45 ∨ c = 95 ∨ c = pad

instance (c : UInt8) : Decidable (IsUrlsafe c) :=
  inferInstanceAs (Decidable (_ ∨ _))

theorem IsUrlsafe.lt_128 {c : UInt8} (h : IsUrlsafe c) : c < 128 := by
  simp only [IsUrlsafe, pad, UInt8.le_iff_toNat_le, ← UInt8.toNat_inj] at h
  rw [UInt8.lt_iff_toNat_lt]
  simp only [UInt8.reduceToNat] at h ⊢
  omega

theorem isUrlsafe_b64Char : ∀ v < 64, IsUrlsafe (b64Char v) := by decide

/-- An encoding stays inside the URL-safe alphabet. -/
theorem isUrlsafe_of_mem_encode (bs : List UInt8) : ∀ c ∈ urlsafeB64encode bs, IsUrlsafe c := by
  have hpad : IsUrlsafe pad := by decide
  induction bs using urlsafeB64encode.induct with
  | case1 a b c rest ih =>
      have ha := a.toNat_lt
      have hb := b.toNat_lt
      have hc := c.toNat_lt
      simp only [urlsafeB64encode, List.forall_mem_cons]
      exact ⟨isUrlsafe_b64Char _ (by omega), isUrlsafe_b64Char _ (by omega),
        isUrlsafe_b64Char _ (by omega), isUrlsafe_b64Char _ (by omega), ih⟩
  | case2 a b =>
      have ha := a.toNat_lt
      have hb := b.toNat_lt
      simp only [urlsafeB64encode, List.forall_mem_cons]
      exact ⟨isUrlsafe_b64Char _ (by omega), isUrlsafe_b64Char _ (by omega),
        isUrlsafe_b64Char _ (by omega), hpad, by simp⟩
  | case3 a =>
      have ha := a.toNat_lt
      simp only [urlsafeB64encode, List.forall_mem_cons]
      exact ⟨isUrlsafe_b64Char _ (by omega), isUrlsafe_b64Char _ (by omega), hpad, hpad,
        by simp⟩
  | case4 => simp [urlsafeB64encode]

end Py
