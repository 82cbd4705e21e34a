/-
  Vouch.App.Cursor

  The cursor format of `app/schemas/pagination.py` as a code: `decode_cursor`
  undoes `encode_cursor`, also for cursors whose padding was cut off, the text
  of a cursor passes through a query string as it is, and no two positions
  share a cursor.
-/

import Vouch.App.Pagination
import Vouch.Py.Url

namespace Vouch

open Py

/-- `A-Z`, `a-z`, `0-9`, `-`, `_` and `=` -/
def IsCursorChar (c : Char) : Prop := c.isAlphanum ∨ c = '-' ∨ c = '_' ∨ c = '='

instance isCursorChar_decidable (c : Char) : Decidable (IsCursorChar c) :=
  inferInstanceAs (Decidable (_ ∨ _ ∨ _ ∨ _))

-- ============================================================================
-- The characters of a cursor
-- ============================================================================

/-- The characters of a cursor are ASCII, from the alphabet of its base64 text. -/
theorem exists_ascii_of_mem_encodeCursor {a b : String} {c : Char}
    (hc : c ∈ (encodeCursor a b).toList) :
    ∃ n < 128, IsUrlsafe (UInt8.ofNat n) ∧ c = Char.ofNat n := by
  rw [encodeCursor, String.toList_ofList] at hc
  obtain ⟨byte, hbyte, rfl⟩ := List.mem_map.mp hc
  have hurlsafe := isUrlsafe_of_mem_encode _ byte hbyte
  refine ⟨byte.toNat, UInt8.lt_iff_toNat_lt.mp hurlsafe.lt_128, ?_, rfl⟩
  rwa [UInt8.ofNat_toNat]

theorem isCursorChar_of_isUrlsafe :
    ∀ n < 128, IsUrlsafe (UInt8.ofNat n) → IsCursorChar (Char.ofNat n) := by
  decide

theorem isCursorChar_of_mem_encodeCursor (a b : String) :
    ∀ c ∈ (encodeCursor a b).toList, IsCursorChar c := by
  intro c hc
  obtain ⟨n, hn, hurlsafe, rfl⟩ := exists_ascii_of_mem_encodeCursor hc
  exact isCursorChar_of_isUrlsafe n hn hurlsafe

-- ============================================================================
-- Cutting padding off
-- ============================================================================

theorem utf8Encode_append (s t : String) : utf8Encode (s ++ t) = utf8Encode s ++ utf8Encode t := by
  rw [utf8Encode, String.toList_append, List.flatMap_append]
  rfl

theorem utf8Encode_equals (n : ℕ) :
    utf8Encode (String.ofList (List.replicate n '=')) = List.replicate n pad := by
  have hpads : List.replicate n '=' = (List.replicate n pad).map fun b => Char.ofNat b.toNat := by
    rw [List.map_replicate]
    rfl
  rw [hpads, utf8Encode_ofList]
  intro b hb
  rw [List.eq_of_mem_replicate hb]
  decide

theorem decodeCursor_stripped (py : Python) {a b cut : String} {n : ℕ}
    (h : encodeCursor a b = cut ++ String.ofList (List.replicate n '=')) :
    decodeCursor py cut = .ok (Str.ofString a, Str.ofString b) := by
  apply decodeCursor_of_cut (n := n)
  rw [← utf8Encode_encodeCursor, h, utf8Encode_append, utf8Encode_equals]

-- ============================================================================
-- Cursors in query strings
-- ============================================================================

theorem isPlain_of_isUrlsafe :
    ∀ n < 128, IsUrlsafe (UInt8.ofNat n) → IsPlain (Char.ofNat n).toNat := by
  decide

theorem isPlain_cursor (a b : String) : ∀ c ∈ Str.ofString (encodeCursor a b), IsPlain c := by
  intro c hc
  obtain ⟨ch, hch, rfl⟩ := List.mem_map.mp hc
  obtain ⟨n, hn, hurlsafe, rfl⟩ := exists_ascii_of_mem_encodeCursor hch
  exact isPlain_of_isUrlsafe n hn hurlsafe

/-- The field that carries a cursor. -/
def cursorField (cursor : String) : Str := Str.ofString "cursor" ++ 0x3D :: Str.ofString cursor

theorem parseQsl_cursorField (a b : String) :
    parseQsl (cursorField (encodeCursor a b)) =
      [(Str.ofString "cursor", Str.ofString (encodeCursor a b))] :=
  parseQsl_field (by decide) (isPlain_cursor a b)

-- ============================================================================
-- The code
-- ============================================================================

/-- Decoding undoes encoding over the whole cursor format.  For all strings `a`
    and `b` of scalar values, the cursor decodes to the pair, as it is and with
    any number of its trailing `=` removed; it keeps to the URL-safe characters
    and arrives in a query string as it was sent, wherever its field stands; and
    distinct pairs have distinct cursors. -/
theorem cursor_format (py : Python) (a b : String) :
    decodeCursor py (encodeCursor a b) = .ok (Str.ofString a, Str.ofString b) ∧
    (∀ cut n, encodeCursor a b = cut ++ String.ofList (List.replicate n '=') →
      decodeCursor py cut = .ok (Str.ofString a, Str.ofString b)) ∧
    (∀ c ∈ (encodeCursor a b).toList, IsCursorChar c) ∧
    parseQsl (cursorField (encodeCursor a b)) =
      [(Str.ofString "cursor", Str.ofString (encodeCursor a b))] ∧
    (∀ before after : Str,
      parseQsl (before ++ 0x26 :: cursorField (encodeCursor a b) ++ 0x26 :: after) =
        parseQsl before ++ (Str.ofString "cursor", Str.ofString (encodeCursor a b)) ::
          parseQsl after) ∧
    (∀ a' b', encodeCursor a b = encodeCursor a' b' → a = a' ∧ b = b') := by
  refine ⟨decodeCursor_encodeCursor py a b, fun _ _ => decodeCursor_stripped py,
    isCursorChar_of_mem_encodeCursor a b, parseQsl_cursorField a b, ?_, ?_⟩
  · intro before after
    rw [List.append_assoc, List.cons_append, parseQsl_append, parseQsl_append,
      parseQsl_cursorField, List.singleton_append]
  · intro a' b' h
    have hdecoded := decodeCursor_encodeCursor py a b
    rw [h, decodeCursor_encodeCursor, Except.ok.injEq, Prod.mk.injEq] at hdecoded
    exact ⟨(Str.ofString_injective hdecoded.1).symm, (Str.ofString_injective hdecoded.2).symm⟩

end Vouch
