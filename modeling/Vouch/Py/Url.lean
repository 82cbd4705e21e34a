/-
  Vouch.Py.Url

  The half of Python's `urllib.parse` that reads a query string, over code
  points.

    * `unquote` decodes percent escapes inside runs of ASCII and reads their
      bytes as UTF-8, an ill-formed sequence becoming U+FFFD.
    * `parseQsl` is `parse_qsl` with `keep_blank_values=True`: fields between
      `&`, each cut at its first `=`, `+` read as a space.

  `parseQsl_field` shows which fields arrive as they were sent.
-/

import Vouch.Py.Json

namespace Py

-- ============================================================================
-- Ill-formed UTF-8
-- ============================================================================

/-- U+FFFD, which stands for what cannot be decoded. -/
def replacement : Nat := 0xFFFD

/-- A sequence being read: the bytes it still needs, the range of the next one,
    and the bits so far. -/
structure Utf8State where
  need : Nat
  lo : UInt8
  hi : UInt8
  code : Nat

/-- Between sequences. -/
def Utf8State.start : Utf8State := ⟨0, 0, 0, 0⟩

/-- Read the first byte of a sequence. -/
def Utf8State.lead (b : UInt8) : Str × Utf8State :=
  if b < 0x80 then ([b.toNat], .start)
  else if b < 0xC2 then ([replacement], .start)
  else if b < 0xE0 then ([], ⟨1, 0x80, 0xBF, b.toNat - 0xC0⟩)
  else if b < 0xF0 then
    ([], ⟨2, if b = 0xE0 then 0xA0 else 0x80, if b = 0xED then 0x9F else 0xBF, b.toNat - 0xE0⟩)
  else if b < 0xF5 then
    ([], ⟨3, if b = 0xF0 then 0x90 else 0x80, if b = 0xF4 then 0x8F else 0xBF, b.toNat - 0xF0⟩)
  else ([replacement], .start)

/-- Read a byte; one that cannot continue the sequence ends it and leads the next. -/
def Utf8State.step (s : Utf8State) (b : UInt8) : Str × Utf8State :=
  if s.need = 0 then lead b
  else if s.lo ≤ b ∧ b ≤ s.hi then
    let code := s.code * 0x40 + (b.toNat - 0x80)
    if s.need = 1 then ([code], .start) else ([], ⟨s.need - 1, 0x80, 0xBF, code⟩)
  else
    let (out, next) := lead b
    (replacement :: out, next)

/-- `bytes.decode("utf-8", "replace")` from a state. -/
def utf8DecodeReplace (s : Utf8State) : List UInt8 → Str
  | [] => if s.need = 0 then [] else [replacement]
  | b :: bs =>
      let (out, next) := s.step b
      out ++ utf8DecodeReplace next bs

-- ============================================================================
-- Query strings
-- ============================================================================

/-- `unquote_to_bytes` of ASCII text; a `%` without two hexadecimal digits stands
    for itself. -/
def unquoteToBytes : Str → List UInt8
  | c :: a :: b :: tail =>
      if c = 0x25 then
        match Json.hexVal a, Json.hexVal b with
        | some hi, some lo => UInt8.ofNat (hi * 0x10 + lo) :: unquoteToBytes tail
        | _, _ => UInt8.ofNat c :: unquoteToBytes (a :: b :: tail)
      else UInt8.ofNat c :: unquoteToBytes (a :: b :: tail)
  | c :: rest => UInt8.ofNat c :: unquoteToBytes rest
  | [] => []

/-- `urllib.parse.unquote` -/
def unquote (s : Str) : Str :=
  if 0x25 ∉ s then s
  else (s.splitBy fun a b => decide (a < 0x80) == decide (b < 0x80)).flatMap fun run =>
    if run.all (· < 0x80) then utf8DecodeReplace .start (unquoteToBytes run) else run

/-- `unquote(s.replace("+", " "))` -/
def unquotePlus (s : Str) : Str := unquote (s.map fun c => if c = 0x2B then 0x20 else c)

/-- `name, _, value = field.partition("=")`, both unquoted; an empty field is
    skipped. -/
def parseField (field : Str) : Option (Str × Str) :=
  if field = [] then none
  else
    some (unquotePlus (field.takeWhile (· ≠ 0x3D)),
      unquotePlus ((field.dropWhile (· ≠ 0x3D)).drop 1))

/-- `urllib.parse.parse_qsl(qs, keep_blank_values=True)` -/
def parseQsl (qs : Str) : List (Str × Str) := (qs.splitOn 0x26).filterMap parseField

-- ============================================================================
-- Text that arrives as sent
-- ============================================================================

/-- The code point is not `%`, `&` or `+`. -/
def IsPlain (c : Nat) : Prop := c ≠ 0x25 ∧ c ≠ 0x26 ∧ c ≠ 0x2B

instance isPlain_decidable (c : Nat) : Decidable (IsPlain c) :=
  inferInstanceAs (Decidable (_ ∧ _ ∧ _))

theorem unquotePlus_plain {s : Str} (h : ∀ c ∈ s, IsPlain c) : unquotePlus s = s := by
  have hplus : s.map (fun c => if c = 0x2B then 0x20 else c) = s := by
    conv_rhs => rw [← List.map_id s]
    apply List.map_congr_left
    intro c hc
    rw [if_neg (h c hc).2.2, id]
  have hpercent : 0x25 ∉ s := fun hmem => (h _ hmem).1 rfl
  rw [unquotePlus, hplus, unquote, if_pos hpercent]

/-- Fields are read one by one. -/
theorem parseQsl_append (xs ys : Str) :
    parseQsl (xs ++ 0x26 :: ys) = parseQsl xs ++ parseQsl ys := by
  rw [parseQsl, parseQsl, parseQsl, List.splitOn_eq_splitOnP, List.splitOn_eq_splitOnP,
    List.splitOn_eq_splitOnP, List.splitOnP_append_cons _ _ (by simp), List.filterMap_append]

/-- A plain value under a plain name arrives as sent. -/
theorem parseQsl_field {name value : Str} (hname : ∀ c ∈ name, IsPlain c ∧ c ≠ 0x3D)
    (hvalue : ∀ c ∈ value, IsPlain c) : parseQsl (name ++ 0x3D :: value) = [(name, value)] := by
  have hone : (name ++ 0x3D :: value).splitOn 0x26 = [name ++ 0x3D :: value] := by
    rw [List.splitOn_eq_splitOnP]
    apply List.splitOnP_eq_singleton
    intro c hc
    rw [beq_eq_false_iff_ne]
    rcases List.mem_append.mp hc with hc | hc
    · exact (hname c hc).1.2.1
    · rcases List.mem_cons.mp hc with rfl | hc
      · decide
      · exact (hvalue c hc).2.1
  have hbefore : ∀ c ∈ name, decide (c ≠ 0x3D) = true := fun c hc => decide_eq_true (hname c hc).2
  have hfield : parseField (name ++ 0x3D :: value) = some (name, value) := by
    rw [parseField, if_neg (by simp), List.takeWhile_append_of_pos hbefore,
      List.dropWhile_append_of_pos hbefore, List.takeWhile_cons_of_neg (by simp),
      List.dropWhile_cons_of_neg (by simp), List.append_nil, List.drop_one, List.tail_cons,
      unquotePlus_plain fun c hc => (hname c hc).1, unquotePlus_plain hvalue]
  rw [parseQsl, hone, List.filterMap_cons_some hfield, List.filterMap_nil]

end Py
