/-
Text as bytes.
-/
import Luminaire.Bytes

namespace Luminaire

/-- The UTF-8 form of a string. -/
def utf8 (text : String) : Bytes := text.toUTF8.data.toList

/-- The string that bytes spell in UTF-8, if they spell one. -/
def utf8? (content : Bytes) : Option String := String.fromUTF8? content.toByteArray

/-- The bytes of a string spell that string. -/
@[simp] theorem utf8?_utf8 (text : String) : utf8? (utf8 text) = some text := by
  have same : (utf8 text).toByteArray = text.toUTF8 := by
    apply ByteArray.ext
    simp [utf8, List.data_toByteArray]
  unfold utf8? String.fromUTF8?
  have valid : text.toUTF8.IsValidUTF8 := text.isValidUTF8
  rw [same, dif_pos valid]
  rfl

/-- No two strings are spelt with the same bytes. -/
theorem utf8_injective {left right : String} (hsame : utf8 left = utf8 right) : left = right := by
  have := congrArg utf8? hsame
  rw [utf8?_utf8, utf8?_utf8] at this
  exact Option.some.inj this

end Luminaire
