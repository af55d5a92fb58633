/-!
# Text as bytes

The bytes of a text are those of its UTF-8 form.

* `Utf8.bytes`: the bytes of a text.
* `Utf8.text?`: the text of a byte string that is the UTF-8 form of one.

Different texts have different bytes (`bytes_injective`).
-/

namespace RequestSigning.Utf8

def bytes (s : List Char) : List UInt8 :=
  s.flatMap String.utf8EncodeChar

/-- The text with the given bytes, or `none` if no text has them. -/
def text? (bs : List UInt8) : Option (List Char) :=
  bs.toByteArray.utf8Decode?.map Array.toList

@[simp] theorem bytes_nil : bytes [] = [] := rfl

@[simp] theorem bytes_cons (c : Char) (s : List Char) :
    bytes (c :: s) = String.utf8EncodeChar c ++ bytes s := rfl

@[simp] theorem bytes_append (s t : List Char) : bytes (s ++ t) = bytes s ++ bytes t :=
  List.flatMap_append

/-- The bytes of a text are read back as that text. -/
@[simp] theorem text?_bytes (s : List Char) : text? (bytes s) = some s := by
  have h : (bytes s).toByteArray = s.utf8Encode := rfl
  rw [text?, h, List.utf8Decode?_utf8Encode]
  simp

theorem bytes_injective {s t : List Char} (h : bytes s = bytes t) : s = t := by
  have := congrArg text? h
  simpa using this

end RequestSigning.Utf8
