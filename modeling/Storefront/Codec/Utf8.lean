/-
Texts as bytes.

Reading is strict wherever a text has to be one: bytes that are no UTF-8 are refused.
In the path of a request they are not; there every longest run of bytes that starts a
character and does not finish it is read as U+FFFD.
-/

namespace Storefront.Codec

/-- The bytes of a text. -/
def utf8 (s : String) : List UInt8 :=
  s.toUTF8.data.toList

/-- The text with some bytes. -/
def ofUtf8? (bytes : List UInt8) : Option String :=
  String.fromUTF8? ⟨bytes.toArray⟩

/-- A text is read back from its bytes. -/
theorem ofUtf8?_utf8 (s : String) : ofUtf8? (utf8 s) = some s := by
  have bytes : (⟨(utf8 s).toArray⟩ : ByteArray) = s.toByteArray := by
    simp only [utf8, String.toUTF8, Array.toArray_toList]
  rw [ofUtf8?, bytes, String.fromUTF8?, dif_pos s.isValidUTF8]
  rfl

/-- What follows the first byte of a character: how many bytes, and between which bounds
the first of them lies. -/
def continuation? (first : UInt8) : Option (Nat × UInt8 × UInt8) :=
  if first < 0x80 then some (0, 0x80, 0xBF)
  else if first < 0xC2 then none
  else if first < 0xE0 then some (1, 0x80, 0xBF)
  else if first = 0xE0 then some (2, 0xA0, 0xBF)
  else if first = 0xED then some (2, 0x80, 0x9F)
  else if first < 0xF0 then some (2, 0x80, 0xBF)
  else if first = 0xF0 then some (3, 0x90, 0xBF)
  else if first < 0xF4 then some (3, 0x80, 0xBF)
  else if first = 0xF4 then some (3, 0x80, 0x8F)
  else none

/-- How many of the expected bytes follow. -/
def following : Nat → UInt8 → UInt8 → List UInt8 → Nat
  | n + 1, lo, hi, b :: bs => if lo ≤ b ∧ b ≤ hi then following n 0x80 0xBF bs + 1 else 0
  | _, _, _, _ => 0

/-- The text with some bytes, U+FFFD standing in for what is not UTF-8. -/
def repaired : List UInt8 → List Char
  | [] => []
  | b :: bs =>
    match continuation? b with
    | none => '\uFFFD' :: repaired bs
    | some (n, lo, hi) =>
      let k := following n lo hi bs
      let c :=
        if k < n then '\uFFFD'
        else ((ofUtf8? (b :: bs.take n)).bind (·.toList.head?)).getD '\uFFFD'
      c :: repaired (bs.drop k)
termination_by bytes => bytes.length
decreasing_by all_goals simp; try omega

end Storefront.Codec
