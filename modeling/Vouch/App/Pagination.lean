/-
  Vouch.App.Pagination

  The cursor codec of `app/schemas/pagination.py`.

  `decodeCursor_encodeCursor`: decoding a produced cursor gives back its two
  components; `decodeCursor_of_cut`: also with trailing `=` cut off.
-/

import Vouch.App.Errors
import Vouch.Py.Base64
import Vouch.Py.Library

namespace Vouch

open Py

/-- Maximum items a caller may request per page. -/
def maxPageLimit : Nat := 100

/-- The JSON object inside a cursor. -/
def cursorPayload (createdAtIso idStr : String) : Str :=
  Json.dumps [(Str.ofString "created_at", Str.ofString createdAtIso),
    (Str.ofString "id", Str.ofString idStr)]

/-- `encode_cursor` -/
def encodeCursor (createdAtIso idStr : String) : String :=
  String.ofList ((urlsafeB64encode (asciiBytes (cursorPayload createdAtIso idStr))).map
    fun b => Char.ofNat b.toNat)

/-- The `try` block of `decode_cursor`; `none` is any exception. -/
def decodeCursor? (py : Python) (cursor : String) : Option (Str × Str) := do
  let raw ← urlsafeB64decode (utf8Encode cursor ++ [pad, pad])
  match ← Json.loads py.recursionLimit raw with
  | .obj data =>
      let createdAt ← Json.lookup (Str.ofString "created_at") data
      let createdAtStr ← py.str createdAt
      let id ← Json.lookup (Str.ofString "id") data
      let idStr ← py.str id
      some (createdAtStr, idStr)
  | _ => none

/-- `decode_cursor` -/
def decodeCursor (py : Python) (cursor : String) : Except Exc (Str × Str) :=
  match decodeCursor? py cursor with
  | some p => .ok p
  | none => .error (.api (cursorDecodeError.init none []))

-- ============================================================================
-- The codec
-- ============================================================================

/-- Bytes below 128 make a string that encodes to them. -/
theorem utf8Encode_ofList {bs : List UInt8} (h : ∀ b ∈ bs, b < 128) :
    utf8Encode (String.ofList (bs.map fun b => Char.ofNat b.toNat)) = bs := by
  rw [utf8Encode, String.toList_ofList, List.flatMap_map]
  induction bs with
  | nil => rfl
  | cons b bs ih =>
      obtain ⟨hb, hbs⟩ := List.forall_mem_cons.mp h
      have hlt : b.toNat < 128 := UInt8.lt_iff_toNat_lt.mp hb
      have hchar := toNat_charOfNat hlt
      rw [List.flatMap_cons, ih hbs, utf8EncodeChar_ascii (by omega), hchar, UInt8.ofNat_toNat]
      rfl

theorem utf8Encode_encodeCursor (a b : String) :
    utf8Encode (encodeCursor a b) = urlsafeB64encode (asciiBytes (cursorPayload a b)) :=
  utf8Encode_ofList fun c hc => (isUrlsafe_of_mem_encode _ c hc).lt_128

theorem loads_cursorPayload (py : Python) (a b : String) :
    Json.loads py.recursionLimit (asciiBytes (cursorPayload a b)) =
      some (.obj [(Str.ofString "created_at", .str (Str.ofString a)),
        (Str.ofString "id", .str (Str.ofString b))]) := by
  apply Json.loads_dumps py.two_le_recursionLimit
  simp only [List.forall_mem_cons]
  exact ⟨⟨Json.isScalar_of_mem_ofString, Json.isScalar_of_mem_ofString⟩,
    ⟨Json.isScalar_of_mem_ofString, Json.isScalar_of_mem_ofString⟩, by simp⟩

/-- A cursor that encodes to the payload's base64 with some trailing `=` cut off
    decodes to the payload's components. -/
theorem decodeCursor_of_cut (py : Python) {a b cursor : String} {n : Nat}
    (h : urlsafeB64encode (asciiBytes (cursorPayload a b)) =
      utf8Encode cursor ++ List.replicate n pad) :
    decodeCursor py cursor = .ok (Str.ofString a, Str.ofString b) := by
  have hraw := urlsafeB64decode_encode h
  have hdata : decodeCursor? py cursor = some (Str.ofString a, Str.ofString b) := by
    simp only [decodeCursor?, hraw, loads_cursorPayload, Option.bind_eq_bind, Option.bind_some]
    rfl
  simp only [decodeCursor, hdata]

/-- `decode_cursor` undoes `encode_cursor`. -/
theorem decodeCursor_encodeCursor (py : Python) (a b : String) :
    decodeCursor py (encodeCursor a b) = .ok (Str.ofString a, Str.ofString b) :=
  decodeCursor_of_cut (n := 0) py (by simp [utf8Encode_encodeCursor])

end Vouch
