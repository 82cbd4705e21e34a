/-
  Vouch.Py.Json

  The parts of Python's `json` module a text format over string-valued objects
  needs: `json.loads` on bytes, complete for every JSON text, and `json.dumps`
  with ASCII escaping for objects whose values are strings.

  The scanner follows `json.scanner` and `json.decoder` (`strict=True`):
  whitespace is exactly space, tab, LF and CR; `NaN`, `Infinity` and
  `-Infinity` are numbers; an integer of more than 4300 digits is refused; a
  pair of `\u` escapes forming a surrogate pair is joined and a lone one is
  kept.  Each nested container costs one level of the interpreter's recursion
  limit, which is a parameter.  Every failure is `none`: all of the exceptions
  raised here (`JSONDecodeError`, `UnicodeDecodeError`, `RecursionError`,
  `ValueError`) derive from `Exception`.

  `loads_dumps` is the round trip.
-/

import Vouch.Py.Text
import Mathlib.Tactic.IntervalCases
import Mathlib.Tactic.Ring

namespace Py

/-- A value built by `json.loads`.  A float is kept as the exact decimal
    `±mantissa·10^exp` its literal denotes. -/
inductive Json where
  | null
  | bool (b : Bool)
  | int (n : Int)
  | float (neg : Bool) (mantissa : Nat) (exp : Int)
  | nan
  | infinity (neg : Bool)
  | str (s : Str)
  | arr (xs : List Json)
  | obj (kvs : List (Str × Json))

namespace Json

/-- `data[key]` on a `dict`: a repeated key keeps its last value. -/
def lookup (key : Str) (kvs : List (Str × Json)) : Option Json :=
  (kvs.reverse.find? (fun kv => kv.1 == key)).map Prod.snd

-- ============================================================================
-- Strings
-- ============================================================================

/-- The value of a hexadecimal digit. -/
def hexVal (c : Nat) : Option Nat :=
  if 0x30 ≤ c ∧ c ≤ 0x39 then some (c - 0x30)
  else if 0x61 ≤ c ∧ c ≤ 0x66 then some (c - 0x61 + 10)
  else if 0x41 ≤ c ∧ c ≤ 0x46 then some (c - 0x41 + 10)
  else none

/-- Four hexadecimal digits after `\u`. -/
def hex4 (a b c d : Nat) : Option Nat := do
  return (← hexVal a) * 0x1000 + (← hexVal b) * 0x100 + (← hexVal c) * 0x10 + (← hexVal d)

/-- The escapes other than `\u`. -/
def simpleEscape (c : Nat) : Option Nat :=
  if c = 0x22 ∨ c = 0x5C ∨ c = 0x2F then some c
  else if c = 0x62 then some 0x08
  else if c = 0x66 then some 0x0C
  else if c = 0x6E then some 0x0A
  else if c = 0x72 then some 0x0D
  else if c = 0x74 then some 0x09
  else none

/-- The characters of a string up to its closing quote, each marked when it came
    from a `\u` escape; returns the text after the quote. -/
def scanUnits : Str → Option (List (Nat × Bool) × Str)
  | [] => none
  | c :: cs =>
      if c = 0x22 then some ([], cs)
      else if c = 0x5C then
        match cs with
        | 0x75 :: a :: b :: c :: d :: rest =>
            match hex4 a b c d with
            | none => none
            | some u => (scanUnits rest).map (fun r => ((u, true) :: r.1, r.2))
        | e :: rest =>
            match simpleEscape e with
            | none => none
            | some u => (scanUnits rest).map (fun r => ((u, false) :: r.1, r.2))
        | [] => none
      -- `strict=True`: no raw control characters
      else if c < 0x20 then none
      else (scanUnits cs).map (fun r => ((c, false) :: r.1, r.2))

/-- Join `\u` escapes that form a surrogate pair. -/
def joinEscapes : List (Nat × Bool) → Str
  | [] => []
  | [u] => [u.1]
  | u :: v :: rest =>
      if u.2 && v.2 && isHighSurrogate u.1 && isLowSurrogate v.1 then
        joinPair u.1 v.1 :: joinEscapes rest
      else u.1 :: joinEscapes (v :: rest)

/-- `scanstring`, entered after the opening quote. -/
def scanString (s : Str) : Option (Str × Str) :=
  (scanUnits s).map (fun r => (joinEscapes r.1, r.2))

-- ============================================================================
-- Numbers
-- ============================================================================

def isDigit (c : Nat) : Bool := 0x30 ≤ c && c ≤ 0x39

/-- The value of a run of digits. -/
def digitsVal (ds : Str) : Nat := ds.foldl (fun n c => 10 * n + (c - 0x30)) 0

/-- `sys.get_int_max_str_digits()`. -/
def intMaxStrDigits : Nat := 4300

/-- The integer part: `0`, or a run of digits not starting with `0`. -/
def scanInt : Str → Option (Str × Str)
  | c :: cs =>
      if c = 0x30 then some ([c], cs)
      else if isDigit c then some (c :: cs.takeWhile isDigit, cs.dropWhile isDigit)
      else none
  | [] => none

/-- The fraction; a point that no digit follows is left in the text. -/
def scanFrac : Str → Option (Str × Str)
  | 0x2E :: cs =>
      if (cs.takeWhile isDigit).isEmpty then none
      else some (cs.takeWhile isDigit, cs.dropWhile isDigit)
  | _ => none

/-- The exponent; a marker that no digit follows is left in the text. -/
def scanExp : Str → Option (Int × Str)
  | c :: cs =>
      if c = 0x65 ∨ c = 0x45 then
        let (neg, ds) := match cs with
          | 0x2B :: r => (false, r)
          | 0x2D :: r => (true, r)
          | r => (false, r)
        if (ds.takeWhile isDigit).isEmpty then none
        else
          let e : Int := digitsVal (ds.takeWhile isDigit)
          some (if neg then -e else e, ds.dropWhile isDigit)
      else none
  | [] => none

/-- `_match_number`: an integer unless a fraction or an exponent follows. -/
def scanNumber (s : Str) : Option (Json × Str) :=
  let (neg, s) := match s with
    | 0x2D :: r => (true, r)
    | r => (false, r)
  match scanInt s with
  | none => none
  | some (ds, rest) =>
      match scanFrac rest, scanExp rest with
      | none, none =>
          if intMaxStrDigits < ds.length then none
          else
            let n : Int := digitsVal ds
            some (.int (if neg then -n else n), rest)
      | none, some (e, rest) => some (.float neg (digitsVal ds) e, rest)
      | some (fs, rest), _ =>
          match scanExp rest with
          | none => some (.float neg (digitsVal (ds ++ fs)) (-fs.length), rest)
          | some (e, rest) => some (.float neg (digitsVal (ds ++ fs)) (e - fs.length), rest)

-- ============================================================================
-- Values
-- ============================================================================

def isWs (c : Nat) : Bool := c = 0x20 || c = 0x09 || c = 0x0A || c = 0x0D

def skipWs (s : Str) : Str := s.dropWhile isWs

/-- Drop `word` from the front of `s`. -/
def stripPrefix (word : String) (s : Str) : Option Str :=
  let w := Str.ofString word
  if w.isPrefixOf s then some (s.drop w.length) else none

section Containers

variable (value : Str → Option (Json × Str))

/-- One `key : value` member, and the text after it and its whitespace. -/
def member (s : Str) : Option ((Str × Json) × Str) := do
  let s ← stripPrefix "\"" s
  let (k, s) ← scanString s
  let s ← stripPrefix ":" (skipWs s)
  let (v, s) ← value (skipWs s)
  return ((k, v), skipWs s)

/-- The members of an object, entered at a key.  The fuel is the text's length:
    a member consumes at least one character. -/
def members : Nat → Str → Option (List (Str × Json) × Str)
  | 0, _ => none
  | n + 1, s =>
      match member value s with
      | some (kv, 0x7D :: rest) => some ([kv], rest)
      | some (kv, 0x2C :: rest) => (members n (skipWs rest)).map (fun r => (kv :: r.1, r.2))
      | _ => none

/-- The elements of an array, entered at a value. -/
def elements : Nat → Str → Option (List Json × Str)
  | 0, _ => none
  | n + 1, s =>
      match (value s).map (fun r => (r.1, skipWs r.2)) with
      | some (v, 0x5D :: rest) => some ([v], rest)
      | some (v, 0x2C :: rest) => (elements n (skipWs rest)).map (fun r => (v :: r.1, r.2))
      | _ => none

end Containers

/-- `scan_once`, with `depth` levels of the recursion limit left. -/
def scanOnce : Nat → Str → Option (Json × Str)
  | 0, _ => none
  | depth + 1, s =>
      match s with
      | [] => none
      | c :: cs =>
          if c = 0x22 then (scanString cs).map (fun r => (.str r.1, r.2))
          else if c = 0x7B then
            match skipWs cs with
            | 0x7D :: rest => some (.obj [], rest)
            | body => (members (scanOnce depth) body.length body).map (fun r => (.obj r.1, r.2))
          else if c = 0x5B then
            match skipWs cs with
            | 0x5D :: rest => some (.arr [], rest)
            | body => (elements (scanOnce depth) body.length body).map (fun r => (.arr r.1, r.2))
          else if c = 0x6E then (stripPrefix "null" s).map (fun r => (.null, r))
          else if c = 0x74 then (stripPrefix "true" s).map (fun r => (.bool true, r))
          else if c = 0x66 then (stripPrefix "false" s).map (fun r => (.bool false, r))
          else if c = 0x4E then (stripPrefix "NaN" s).map (fun r => (.nan, r))
          else if c = 0x49 then (stripPrefix "Infinity" s).map (fun r => (.infinity false, r))
          else
            match stripPrefix "-Infinity" s with
            | some rest => some (.infinity true, rest)
            | none => scanNumber s

/-- `json.loads(raw)` on bytes: one value, and nothing but whitespace after it. -/
def loads (recursionLimit : Nat) (raw : List UInt8) : Option Json := do
  let s ← decodeDetected raw
  let (v, rest) ← scanOnce recursionLimit (skipWs s)
  if (skipWs rest).isEmpty then return v else none

-- ============================================================================
-- Dumping
-- ============================================================================

/-- A lower-case hexadecimal digit. -/
def hexDigit (n : Nat) : Nat := if n < 10 then 0x30 + n else 0x61 + (n - 10)

/-- `\u` and the four digits of a 16-bit unit. -/
def escapeUnit (u : Nat) : Str :=
  [0x5C, 0x75, hexDigit (u / 0x1000), hexDigit (u / 0x100 % 0x10), hexDigit (u / 0x10 % 0x10),
    hexDigit (u % 0x10)]

/-- `ESCAPE_ASCII` applied to one code point. -/
def escapeChar (c : Nat) : Str :=
  if c = 0x22 ∨ c = 0x5C then [0x5C, c]
  else if c = 0x0A then [0x5C, 0x6E]
  else if c = 0x0D then [0x5C, 0x72]
  else if c = 0x09 then [0x5C, 0x74]
  else if c = 0x0C then [0x5C, 0x66]
  else if c = 0x08 then [0x5C, 0x62]
  else if 0x20 ≤ c ∧ c ≤ 0x7E then [c]
  else if c < 0x10000 then escapeUnit c
  else
    escapeUnit (0xD800 + (c - 0x10000) / 0x400 % 0x400) ++
      escapeUnit (0xDC00 + (c - 0x10000) % 0x400)

/-- `py_encode_basestring_ascii`. -/
def encodeString (s : Str) : Str := 0x22 :: s.flatMap escapeChar ++ [0x22]

/-- `json.dumps(d, separators=(",", ":"))` for a `dict` of strings, given in
    insertion order. -/
def dumps (kvs : List (Str × Str)) : Str :=
  0x7B :: (List.intercalate [0x2C]
    (kvs.map (fun kv => encodeString kv.1 ++ 0x3A :: encodeString kv.2))) ++ [0x7D]

-- ============================================================================
-- Strings survive the round trip
-- ============================================================================

/-- A Unicode scalar value: a code point that is no surrogate. -/
def IsScalar (c : Nat) : Prop := c < 0xD800 ∨ (0xDFFF < c ∧ c < 0x110000)

theorem isScalar_of_mem_ofString {s : String} : ∀ c ∈ Str.ofString s, IsScalar c := by
  intro c hc
  obtain ⟨ch, -, rfl⟩ := List.mem_map.mp hc
  rcases ch.valid with h | h
  · exact Or.inl h
  · exact Or.inr h

theorem hexVal_hexDigit : ∀ n < 16, hexVal (hexDigit n) = some n := by decide

theorem isPrintable_hexDigit : ∀ n < 16, IsPrintable (hexDigit n) := by decide

/-- What the scanner sees of one escaped code point. -/
def unitsOf (c : Nat) : List (Nat × Bool) :=
  if c = 0x22 ∨ c = 0x5C ∨ c = 0x0A ∨ c = 0x0D ∨ c = 0x09 ∨ c = 0x0C ∨ c = 0x08 ∨
      (0x20 ≤ c ∧ c ≤ 0x7E) then [(c, false)]
  else if c < 0x10000 then [(c, true)]
  else [(0xD800 + (c - 0x10000) / 0x400 % 0x400, true), (0xDC00 + (c - 0x10000) % 0x400, true)]

/-- Scanning an escaped 16-bit unit gives the unit back. -/
theorem scanUnits_escapeUnit {u : Nat} (hu : u < 0x10000) (rest : Str) :
    scanUnits (escapeUnit u ++ rest) =
      (scanUnits rest).map (fun r => ((u, true) :: r.1, r.2)) := by
  have hhex : hex4 (hexDigit (u / 0x1000)) (hexDigit (u / 0x100 % 0x10))
      (hexDigit (u / 0x10 % 0x10)) (hexDigit (u % 0x10)) = some u := by
    simp only [hex4, hexVal_hexDigit _ (show u / 0x1000 < 16 by omega),
      hexVal_hexDigit _ (show u / 0x100 % 0x10 < 16 by omega),
      hexVal_hexDigit _ (show u / 0x10 % 0x10 < 16 by omega),
      hexVal_hexDigit _ (show u % 0x10 < 16 by omega)]
    simp only [Option.bind_eq_bind, Option.bind_some, Option.pure_def, Option.some.injEq]
    omega
  simp only [escapeUnit, List.cons_append, List.nil_append]
  rw [scanUnits.eq_def]
  simp [hhex]

/-- Scanning a two-character escape gives the character it stands for. -/
theorem scanUnits_simple {e u : Nat} (he : e ≠ 0x75) (h : simpleEscape e = some u) (rest : Str) :
    scanUnits (0x5C :: e :: rest) = (scanUnits rest).map (fun r => ((u, false) :: r.1, r.2)) := by
  rw [scanUnits.eq_def]
  simp only [show (0x5C : Nat) ≠ 0x22 from by omega, if_false, if_true]
  split
  · simp_all
  · simp_all
  · simp_all

theorem unitsOf_plain {c : Nat} (h : c = 0x22 ∨ c = 0x5C ∨ c = 0x0A ∨ c = 0x0D ∨ c = 0x09 ∨
    c = 0x0C ∨ c = 0x08 ∨ (0x20 ≤ c ∧ c ≤ 0x7E)) : unitsOf c = [(c, false)] := if_pos h

/-- Scanning an escaped code point gives its units. -/
theorem scanUnits_escapeChar {c : Nat} (hc : c < 0x110000) (rest : Str) :
    scanUnits (escapeChar c ++ rest) =
      (scanUnits rest).map (fun r => (unitsOf c ++ r.1, r.2)) := by
  by_cases hbs : c = 0x22 ∨ c = 0x5C
  · rw [unitsOf_plain (by omega), escapeChar, if_pos hbs]
    exact scanUnits_simple (by omega) (by unfold simpleEscape; rw [if_pos (by omega)]) rest
  by_cases hctl : c = 0x0A ∨ c = 0x0D ∨ c = 0x09 ∨ c = 0x0C ∨ c = 0x08
  · rcases hctl with rfl | rfl | rfl | rfl | rfl
    all_goals exact scanUnits_simple (by omega) (by decide) rest
  rw [escapeChar, if_neg hbs, if_neg (by omega), if_neg (by omega), if_neg (by omega),
    if_neg (by omega), if_neg (by omega)]
  by_cases hpr : 0x20 ≤ c ∧ c ≤ 0x7E
  · rw [if_pos hpr, unitsOf_plain (by omega), List.cons_append, List.nil_append, scanUnits.eq_def]
    simp only [if_neg (show ¬ c = 0x22 from by omega), if_neg (show ¬ c = 0x5C from by omega),
      if_neg (show ¬ c < 0x20 from by omega), List.cons_append, List.nil_append]
  · rw [if_neg hpr]
    rw [unitsOf]
    rw [if_neg (show ¬ (c = 0x22 ∨ c = 0x5C ∨ c = 0x0A ∨ c = 0x0D ∨ c = 0x09 ∨ c = 0x0C ∨
      c = 0x08 ∨ (0x20 ≤ c ∧ c ≤ 0x7E)) from by omega)]
    by_cases hbmp : c < 0x10000
    · simp only [if_pos hbmp]
      exact scanUnits_escapeUnit hbmp rest
    · simp only [if_neg hbmp]
      rw [List.append_assoc, scanUnits_escapeUnit (by omega), scanUnits_escapeUnit (by omega),
        Option.map_map]
      rfl

/-- Scanning a whole escaped string stops at its closing quote. -/
theorem scanUnits_flatMap {s : Str} (hs : ∀ c ∈ s, c < 0x110000) (rest : Str) :
    scanUnits (s.flatMap escapeChar ++ 0x22 :: rest) = some (s.flatMap unitsOf, rest) := by
  induction s with
  | nil => rw [List.flatMap_nil, List.nil_append, scanUnits.eq_def]; rfl
  | cons c s ih =>
      obtain ⟨hc, hs⟩ := List.forall_mem_cons.mp hs
      rw [List.flatMap_cons, List.append_assoc, scanUnits_escapeChar hc, ih hs]
      rfl

theorem joinEscapes_cons {u : Nat} {b : Bool} (hu : isHighSurrogate u = false)
    (us : List (Nat × Bool)) : joinEscapes ((u, b) :: us) = u :: joinEscapes us := by
  rcases us with _ | ⟨v, us⟩
  · rfl
  · simp [joinEscapes, hu]

/-- A scalar value is seen as itself, or as the pair that joins to it. -/
theorem unitsOf_cases {c : Nat} (hc : IsScalar c) :
    (∃ b, unitsOf c = [(c, b)] ∧ isHighSurrogate c = false) ∨
    (∃ hi lo, unitsOf c = [(hi, true), (lo, true)] ∧ isHighSurrogate hi = true ∧
      isLowSurrogate lo = true ∧ joinPair hi lo = c) := by
  rw [IsScalar] at hc
  by_cases hbmp : c < 0x10000
  · have hhigh : isHighSurrogate c = false := by
      simp only [isHighSurrogate, Bool.and_eq_false_iff, decide_eq_false_iff_not]
      omega
    left
    rw [unitsOf, if_pos hbmp]
    split
    · exact ⟨false, rfl, hhigh⟩
    · exact ⟨true, rfl, hhigh⟩
  · right
    refine ⟨0xD800 + (c - 0x10000) / 0x400 % 0x400, 0xDC00 + (c - 0x10000) % 0x400, ?_, ?_, ?_, ?_⟩
    · rw [unitsOf, if_neg (by omega), if_neg hbmp]
    · simp only [isHighSurrogate, Bool.and_eq_true, decide_eq_true_eq]
      omega
    · simp only [isLowSurrogate, Bool.and_eq_true, decide_eq_true_eq]
      omega
    · unfold joinPair
      omega

/-- Joining the units of scalar values gives the scalar values. -/
theorem joinEscapes_flatMap {s : Str} (hs : ∀ c ∈ s, IsScalar c) :
    joinEscapes (s.flatMap unitsOf) = s := by
  induction s with
  | nil => rfl
  | cons c s ih =>
      obtain ⟨hc, hs⟩ := List.forall_mem_cons.mp hs
      rw [List.flatMap_cons]
      rcases unitsOf_cases hc with ⟨b, hu, hhigh⟩ | ⟨hi, lo, hu, hhi, hlo, hjoin⟩
      · rw [hu, List.cons_append, List.nil_append, joinEscapes_cons hhigh, ih hs]
      · rw [hu, List.cons_append, List.cons_append, List.nil_append, joinEscapes]
        simp only [hhi, hlo, Bool.and_self, if_true, hjoin, ih hs]

/-- A dumped string scans back to its scalar values. -/
theorem scanString_encodeString {s : Str} (hs : ∀ c ∈ s, IsScalar c) (rest : Str) :
    scanString (s.flatMap escapeChar ++ 0x22 :: rest) = some (s, rest) := by
  have hlt : ∀ c ∈ s, c < 0x110000 := by
    intro c hc
    have := hs c hc
    rw [IsScalar] at this
    omega
  rw [scanString, scanUnits_flatMap hlt, Option.map_some, joinEscapes_flatMap hs]

-- ============================================================================
-- Objects survive the round trip
-- ============================================================================

theorem stripPrefix_quote (s : Str) : stripPrefix "\"" (0x22 :: s) = some s := rfl

theorem stripPrefix_colon (s : Str) : stripPrefix ":" (0x3A :: s) = some s := rfl

theorem skipWs_cons {c : Nat} (h : isWs c = false) (s : Str) : skipWs (c :: s) = c :: s := by
  simp [skipWs, h]

/-- A dumped string value scans back, whatever follows it. -/
theorem scanOnce_encodeString {s : Str} (hs : ∀ c ∈ s, IsScalar c) (depth : Nat) (rest : Str) :
    scanOnce (depth + 1) (encodeString s ++ rest) = some (.str s, rest) := by
  simp only [encodeString, List.cons_append, List.append_assoc, List.nil_append]
  rw [scanOnce]
  simp only [if_true, scanString_encodeString hs, Option.map_some]

/-- One dumped member scans back, up to a character that is no whitespace. -/
theorem member_encodeString (depth : Nat) {kv : Str × Str} (hk : ∀ c ∈ kv.1, IsScalar c)
    (hv : ∀ c ∈ kv.2, IsScalar c) {e : Nat} (he : isWs e = false) (tail : Str) :
    member (scanOnce (depth + 1))
        (encodeString kv.1 ++ 0x3A :: encodeString kv.2 ++ e :: tail) =
      some ((kv.1, .str kv.2), e :: tail) := by
  have hcolon : isWs 0x3A = false := rfl
  have hquote : isWs 0x22 = false := rfl
  have hval := scanOnce_encodeString hv depth (e :: tail)
  simp only [encodeString, List.cons_append, List.append_assoc, List.nil_append] at hval ⊢
  simp only [member, stripPrefix_quote, scanString_encodeString hk, skipWs_cons hcolon,
    stripPrefix_colon, skipWs_cons hquote, hval, skipWs_cons he, Option.bind_eq_bind,
    Option.bind_some]
  rfl

/-- The text of a member list starts with a quote. -/
theorem intercalate_members_head (kv : Str × Str) (kvs : List (Str × Str)) :
    ∃ t, List.intercalate [0x2C]
      ((kv :: kvs).map (fun p => encodeString p.1 ++ 0x3A :: encodeString p.2)) = 0x22 :: t := by
  rcases kvs with _ | ⟨kv', kvs⟩
  · exact ⟨_, by simp [encodeString]; rfl⟩
  · exact ⟨_, by simp [encodeString]; rfl⟩

/-- The members of a dumped object scan back up to the closing brace. -/
theorem members_dumps (depth : Nat) {kv : Str × Str} {kvs : List (Str × Str)}
    (h : ∀ p ∈ kv :: kvs, (∀ c ∈ p.1, IsScalar c) ∧ (∀ c ∈ p.2, IsScalar c)) (rest : Str)
    (n : Nat) (hn : kvs.length < n) :
    members (scanOnce (depth + 1)) n
      (List.intercalate [0x2C]
        ((kv :: kvs).map (fun p => encodeString p.1 ++ 0x3A :: encodeString p.2)) ++
          0x7D :: rest) =
      some ((kv :: kvs).map (fun p => (p.1, .str p.2)), rest) := by
  obtain ⟨n, rfl⟩ : ∃ m, n = m + 1 := ⟨n - 1, by omega⟩
  obtain ⟨hkv, hkvs⟩ := List.forall_mem_cons.mp h
  induction kvs generalizing kv n with
  | nil =>
      simp only [List.map_cons, List.map_nil, List.intercalate_singleton]
      rw [members, member_encodeString depth hkv.1 hkv.2 (by decide)]
      rfl
  | cons kv' kvs ih =>
      obtain ⟨m, rfl⟩ : ∃ m, n = m + 1 := ⟨n - 1, by simp at hn; omega⟩
      have hrest := ih hkvs m (by simpa using hn) (hkvs kv' List.mem_cons_self)
        (fun p hp => hkvs p (List.mem_cons_of_mem _ hp))
      obtain ⟨t, ht⟩ := intercalate_members_head kv' kvs
      simp only [List.map_cons] at hrest ht ⊢
      rw [List.intercalate_cons_cons, List.append_assoc, List.append_assoc, List.singleton_append,
        members, member_encodeString depth hkv.1 hkv.2 (by decide)]
      rw [ht, List.cons_append] at hrest ⊢
      simp only [skipWs_cons (show isWs 0x22 = false from rfl), hrest, Option.map_some]

/-- Every character of a dumped string is printable ASCII. -/
theorem isPrintable_of_mem_encodeString {s : Str} (hs : ∀ c ∈ s, c < 0x110000) :
    ∀ u ∈ encodeString s, IsPrintable u := by
  have hunit : ∀ u < 0x10000, ∀ d ∈ escapeUnit u, IsPrintable d := by
    intro u hu
    simp only [escapeUnit, List.forall_mem_cons]
    exact ⟨by decide, by decide, isPrintable_hexDigit _ (by omega),
      isPrintable_hexDigit _ (by omega), isPrintable_hexDigit _ (by omega),
      isPrintable_hexDigit _ (by omega), by simp⟩
  have hchar : ∀ c < 0x110000, ∀ d ∈ escapeChar c, IsPrintable d := by
    intro c hc d hd
    rw [escapeChar] at hd
    split_ifs at hd with h1 h2 h3 h4 h5 h6 h7 h8
    iterate 6
      · simp only [List.mem_cons, List.not_mem_nil, or_false] at hd
        rw [IsPrintable]
        omega
    · rw [List.mem_singleton.mp hd]
      exact h7
    · exact hunit c h8 d hd
    · rcases List.mem_append.mp hd with hd | hd
      · exact hunit _ (by omega) d hd
      · exact hunit _ (by omega) d hd
  intro u hu
  simp only [encodeString, List.cons_append, List.mem_cons, List.mem_append, List.mem_flatMap,
    List.not_mem_nil, or_false] at hu
  rcases hu with rfl | ⟨c, hc, hu⟩ | rfl
  · decide
  · exact hchar c (hs c hc) u hu
  · decide

theorem forall_mem_intercalate {P : Nat → Prop} {sep : Str} (hsep : ∀ u ∈ sep, P u)
    {ls : List Str} (h : ∀ l ∈ ls, ∀ u ∈ l, P u) : ∀ u ∈ List.intercalate sep ls, P u := by
  induction ls with
  | nil => simp
  | cons l ls ih =>
      obtain ⟨hl, hls⟩ := List.forall_mem_cons.mp h
      rcases ls with _ | ⟨l', ls⟩
      · simpa using hl
      · intro u hu
        rw [List.intercalate_cons_cons, List.append_assoc] at hu
        rcases List.mem_append.mp hu with hu | hu
        · exact hl u hu
        · rcases List.mem_append.mp hu with hu | hu
          · exact hsep u hu
          · exact ih hls u hu

/-- A dumped object is printable ASCII throughout. -/
theorem isPrintable_of_mem_dumps {kvs : List (Str × Str)}
    (h : ∀ p ∈ kvs, (∀ c ∈ p.1, IsScalar c) ∧ (∀ c ∈ p.2, IsScalar c)) :
    ∀ u ∈ dumps kvs, IsPrintable u := by
  have hlt : ∀ {s : Str}, (∀ c ∈ s, IsScalar c) → ∀ c ∈ s, c < 0x110000 := by
    intro s hs c hc
    have := hs c hc
    rw [IsScalar] at this
    omega
  have hmember : ∀ l ∈ kvs.map (fun p => encodeString p.1 ++ 0x3A :: encodeString p.2),
      ∀ u ∈ l, IsPrintable u := by
    intro l hl u hu
    obtain ⟨p, hp, rfl⟩ := List.mem_map.mp hl
    rcases List.mem_append.mp hu with hu | hu
    · exact isPrintable_of_mem_encodeString (hlt (h p hp).1) u hu
    · rcases List.mem_cons.mp hu with rfl | hu
      · decide
      · exact isPrintable_of_mem_encodeString (hlt (h p hp).2) u hu
  intro u hu
  simp only [dumps, List.cons_append, List.mem_cons, List.mem_append, List.not_mem_nil,
    or_false] at hu
  rcases hu with rfl | hu | rfl
  · decide
  · exact forall_mem_intercalate (by decide) hmember u hu
  · decide

/-- A member list has more characters than commas. -/
theorem length_lt_intercalate_members (kv : Str × Str) (kvs : List (Str × Str)) :
    kvs.length < (List.intercalate [0x2C]
      ((kv :: kvs).map (fun p => encodeString p.1 ++ 0x3A :: encodeString p.2))).length := by
  induction kvs generalizing kv with
  | nil =>
      simp only [List.map_cons, List.map_nil, List.intercalate_singleton, List.length_append,
        List.length_cons, List.length_nil]
      omega
  | cons kv' kvs ih =>
      have ih := ih kv'
      simp only [List.map_cons] at ih ⊢
      rw [List.intercalate_cons_cons, List.length_append, List.length_append]
      simp only [List.length_cons, List.length_nil, List.length_append] at ih ⊢
      omega

/-- A dumped object scans back to itself. -/
theorem scanOnce_dumps (depth : Nat) {kv : Str × Str} {kvs : List (Str × Str)}
    (h : ∀ p ∈ kv :: kvs, (∀ c ∈ p.1, IsScalar c) ∧ (∀ c ∈ p.2, IsScalar c)) :
    scanOnce (depth + 2) (dumps (kv :: kvs)) =
      some (.obj ((kv :: kvs).map (fun p => (p.1, .str p.2))), []) := by
  obtain ⟨t, ht⟩ := intercalate_members_head kv kvs
  have hmem := members_dumps depth h []
  rw [ht, List.cons_append] at hmem
  rw [dumps, ht, List.cons_append, List.cons_append, scanOnce]
  simp only [show (0x7B : Nat) ≠ 0x22 from by omega, if_false, if_true,
    skipWs_cons (show isWs 0x22 = false from rfl)]
  rw [hmem]
  · rfl
  · have hlen := length_lt_intercalate_members kv kvs
    rw [ht] at hlen
    simp only [List.length_cons, List.length_append] at hlen ⊢
    omega

/-- **Round trip.**  The UTF-8 bytes of a dumped object load back to it, under
    any recursion limit that admits one nested value. -/
theorem loads_dumps {recursionLimit : Nat} (hlim : 2 ≤ recursionLimit) {kv : Str × Str}
    {kvs : List (Str × Str)}
    (h : ∀ p ∈ kv :: kvs, (∀ c ∈ p.1, IsScalar c) ∧ (∀ c ∈ p.2, IsScalar c)) :
    loads recursionLimit (asciiBytes (dumps (kv :: kvs))) =
      some (.obj ((kv :: kvs).map (fun p => (p.1, .str p.2)))) := by
  obtain ⟨depth, rfl⟩ : ∃ d, recursionLimit = d + 2 := ⟨recursionLimit - 2, by omega⟩
  have hbrace : skipWs (dumps (kv :: kvs)) = dumps (kv :: kvs) := by
    rw [dumps, List.cons_append, skipWs_cons (by decide)]
  simp only [loads, decodeDetected_asciiBytes (isPrintable_of_mem_dumps h), hbrace,
    scanOnce_dumps depth h, Option.bind_eq_bind, Option.bind_some]
  rfl

end Json

end Py
