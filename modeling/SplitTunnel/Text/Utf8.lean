namespace SplitTunnel.Text

/-!
# Texts as bytes

Files hold bytes; texts are written to them in UTF-8.
-/

/-- The UTF-8 bytes of a list of characters. -/
def encodeChars (text : List Char) : List UInt8 :=
  text.flatMap String.utf8EncodeChar

/-- The UTF-8 bytes of a text. -/
def encode (text : String) : List UInt8 :=
  encodeChars text.toList

/-- The text that bytes write in UTF-8, if they are well formed. -/
def decode? (bytes : List UInt8) : Option String :=
  String.fromUTF8? bytes.toByteArray

/-- The bytes of characters, as core's byte array. -/
theorem toByteArray_encodeChars (text : List Char) :
    (encodeChars text).toByteArray = text.utf8Encode :=
  rfl

/-- Writing a text and reading it gives the text back. -/
theorem decode?_encode (text : String) : decode? (encode text) = some text := by
  have sameBytes : (encode text).toByteArray = text.toByteArray := by
    rw [encode, toByteArray_encodeChars, String.utf8Encode_toList]
  rw [decode?, sameBytes]
  simp only [String.fromUTF8?, text.isValidUTF8, ↓reduceDIte]
  rfl

end SplitTunnel.Text
