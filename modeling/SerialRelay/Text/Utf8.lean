import SerialRelay.Bytes

/-!
# Text as octets

Lines, environment variables and files arrive as octets. `Text.ofUtf8?` accepts exactly the octet
strings that `Text.utf8` writes.
-/

namespace SerialRelay.Text

/-- The UTF-8 octets of a text. -/
def utf8 (s : String) : Bytes := s.toList.flatMap String.utf8EncodeChar

/-- The text that octets spell in UTF-8, if they spell one: no overlong form, no surrogate. -/
def ofUtf8? (bs : Bytes) : Option String := String.fromUTF8? ⟨bs.toArray⟩

theorem toByteArray_utf8 (s : String) : (⟨(utf8 s).toArray⟩ : ByteArray) = s.toByteArray := by
  rw [← String.utf8Encode_toList, List.utf8Encode]
  apply ByteArray.ext
  simp [utf8]

/-- **A text is read back from its octets.** -/
theorem ofUtf8_utf8 (s : String) : ofUtf8? (utf8 s) = some s := by
  rw [ofUtf8?, toByteArray_utf8, String.fromUTF8?, dif_pos s.isValidUTF8]
  rfl

end SerialRelay.Text
