import RequestSigning.Encoding.Hex
import RequestSigning.Encoding.Utf8
/-!
# Percent encoding

Text is encoded byte by byte: a byte of the kept set stands for itself, and any other byte becomes
a percent sign with its two upper case hexadecimal digits. The kept set of signatures is the
unreserved characters: letters, digits, `-`, `.`, `_` and `~`.

* `Percent.isUnreserved`: the kept set of signatures.
* `Percent.escape`: the three characters of an encoded byte.
* `Percent.encode`: the encoded form of a text.
* `Percent.decode`: the bytes of an encoded text; a percent sign without two digits stands for
  itself.

Decoding gives back the bytes that were encoded (`decode_encodeBytes`), so encoding is injective
(`encode_injective`).
-/

namespace RequestSigning.Percent

def isAlphanumeric (b : UInt8) : Bool :=
  (0x30 ≤ b && b ≤ 0x39) || (0x41 ≤ b && b ≤ 0x5A) || (0x61 ≤ b && b ≤ 0x7A)

/-- Letters, digits, `-`, `.`, `_` and `~`. -/
def isUnreserved (b : UInt8) : Bool :=
  isAlphanumeric b || b == 0x2D || b == 0x2E || b == 0x5F || b == 0x7E

/-- The percent sign and the two digits that stand for a byte. -/
def escape (b : UInt8) : List Char :=
  ['%', Hex.upper (b.toNat / 16), Hex.upper b.toNat]

def encodeByte (b : UInt8) : List Char :=
  if isUnreserved b then [Char.ofUInt8 b] else escape b

def encodeBytes (bytes : List UInt8) : List Char :=
  bytes.flatMap encodeByte

def encode (s : String) : String :=
  String.ofList (encodeBytes (Utf8.bytes s.toList))

def decode : List Char → List UInt8
  | [] => []
  | '%' :: a :: b :: rest =>
    match Hex.value? a, Hex.value? b with
    | some hi, some lo => UInt8.ofNat (16 * hi + lo) :: decode rest
    | _, _ => String.utf8EncodeChar '%' ++ decode (a :: b :: rest)
  | c :: rest => String.utf8EncodeChar c ++ decode rest

/-! ### Reading back -/

@[simp] theorem toList_encode (s : String) :
    (encode s).toList = encodeBytes (Utf8.bytes s.toList) := by
  simp [encode]

theorem decode_cons_of_ne {c : Char} (h : c ≠ '%') (rest : List Char) :
    decode (c :: rest) = String.utf8EncodeChar c ++ decode rest := by
  rw [decode]
  intro a b rest' hc
  exact absurd hc h

/-- An unreserved byte, as a character, is not the percent sign and has that byte alone. -/
theorem unreserved_char : ∀ n : Fin 256, isUnreserved (UInt8.ofNat n) = true →
    Char.ofUInt8 (UInt8.ofNat n) ≠ '%' ∧
      String.utf8EncodeChar (Char.ofUInt8 (UInt8.ofNat n)) = [UInt8.ofNat n] := by
  decide +kernel

theorem decode_escape_append (b : UInt8) (rest : List Char) :
    decode (escape b ++ rest) = b :: decode rest := by
  have h : escape b ++ rest = '%' :: Hex.upper (b.toNat / 16) :: Hex.upper b.toNat :: rest := rfl
  rw [h, decode, Hex.value?_upper, Hex.value?_upper]
  simp only [Hex.ofNat_digits]

theorem decode_encodeByte_append (b : UInt8) (rest : List Char) :
    decode (encodeByte b ++ rest) = b :: decode rest := by
  unfold encodeByte
  split
  · rename_i h
    have hb := unreserved_char ⟨b.toNat, b.toNat_lt⟩
    simp only [UInt8.ofNat_toNat] at hb
    obtain ⟨hne, henc⟩ := hb h
    rw [List.cons_append, List.nil_append, decode_cons_of_ne hne, henc]
    rfl
  · exact decode_escape_append b rest

/-- Decoding gives back the bytes that were encoded. -/
@[simp] theorem decode_encodeBytes (bytes : List UInt8) : decode (encodeBytes bytes) = bytes := by
  induction bytes with
  | nil => rfl
  | cons b rest ih =>
    have h : encodeBytes (b :: rest) = encodeByte b ++ encodeBytes rest := rfl
    rw [h, decode_encodeByte_append, ih]

/-- Different texts have different encoded forms. -/
theorem encode_injective {s t : String} (h : encode s = encode t) : s = t := by
  have h' := congrArg (fun u : String => decode u.toList) h
  simp only [toList_encode, decode_encodeBytes] at h'
  exact String.toList_inj.mp (Utf8.bytes_injective h')

end RequestSigning.Percent
