/-!
# Text as bytes

Text travels as UTF-8. Every text has one encoding, and what is no encoding of a text is refused.
The main statement is `decode?_encode`: decoding undoes encoding.
-/

namespace EntityQuery
namespace Text

/-- The bytes of a text. -/
def encode (s : String) : List UInt8 := s.toList.flatMap String.utf8EncodeChar

/-- The text of which these are the bytes. -/
def decode? (bs : List UInt8) : Option String := String.fromUTF8? bs.toByteArray

/-- **Decoding undoes encoding.** -/
@[simp] theorem decode?_encode (s : String) : decode? (encode s) = some s := by
  have h : (encode s).toByteArray = s.toByteArray := by
    rw [← String.utf8Encode_toList]; rfl
  have hv : s.toByteArray.IsValidUTF8 := s.isValidUTF8
  unfold decode? String.fromUTF8?
  simp only [h]
  rw [dif_pos hv]
  simp [String.fromUTF8]

end Text
end EntityQuery
