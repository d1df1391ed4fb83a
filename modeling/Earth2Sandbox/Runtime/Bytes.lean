import Mathlib.Tactic.Common

/-!
# Bytes and UTF-8

The contents of a file or of a response, and the encoding of text in it.
-/

namespace Earth2Sandbox

abbrev Bytes := List UInt8

/-- `s.encode("utf-8")`. -/
def encodeUtf8 (s : String) : Bytes := s.toUTF8.data.toList

/-- `content.decode("utf-8")`, or `none` when it raises a `UnicodeDecodeError`. -/
def decodeUtf8 (content : Bytes) : Option String := String.fromUTF8? ⟨content.toArray⟩

@[simp] lemma decodeUtf8_encodeUtf8 (s : String) : decodeUtf8 (encodeUtf8 s) = some s := by
  have hbytes : (⟨(encodeUtf8 s).toArray⟩ : ByteArray) = s.toByteArray := rfl
  rw [decodeUtf8, hbytes, String.fromUTF8?, dif_pos s.isValidUTF8]
  rfl

lemma encodeUtf8_injective : Function.Injective encodeUtf8 := by
  intro s t h
  have hdecoded := congrArg decodeUtf8 h
  simpa using hdecoded

end Earth2Sandbox
