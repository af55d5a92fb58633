import RequestSigning.Http.Request
import RequestSigning.Proofs.Encoded
import RequestSigning.Proofs.Letters

/-!
# Values of header fields

Whether a text may be the value of a field is decided character by character. It can as well be
decided byte by byte, since all bytes of a character beyond 0x7F are allowed.

* `Http.isFieldValueByte`, `Http.isFieldValue_iff_bytes`: the bytes of an allowed value.
* `Http.isFieldValue_of_isEncoded`: encoded text is allowed, whatever it stands for.
-/

namespace RequestSigning

/-! ### Bytes of a character -/

theorem Utf8.utf8EncodeChar_of_lt {c : Char} (h : c.toNat < 0x80) :
    String.utf8EncodeChar c = [UInt8.ofNat c.toNat] := by
  have hle : c.val.toNat ≤ 0x7f := Nat.le_of_lt_succ h
  simp only [String.utf8EncodeChar, if_pos hle]
  rfl

/-- A character beyond 0x7F has no byte below 0x80. -/
theorem Utf8.le_of_mem_utf8EncodeChar {c : Char} (h : 0x80 ≤ c.toNat) {b : UInt8}
    (hb : b ∈ String.utf8EncodeChar c) : 0x80 ≤ b.toNat := by
  have hlt : ¬ c.val.toNat ≤ 0x7f := Nat.not_le_of_lt h
  -- each of the up to four bytes is a mark of at least 0x80 with some bits of the character
  simp only [String.utf8EncodeChar, if_neg hlt] at hb
  split at hb
  · simp only [List.mem_cons, List.not_mem_nil, or_false] at hb
    rcases hb with rfl | rfl <;> rw [UInt8.toNat_ofNat'] <;> omega
  · split at hb <;> simp only [List.mem_cons, List.not_mem_nil, or_false] at hb
    · rcases hb with rfl | rfl | rfl <;> rw [UInt8.toNat_ofNat'] <;> omega
    · rcases hb with rfl | rfl | rfl | rfl <;> rw [UInt8.toNat_ofNat'] <;> omega

namespace Http

/-! ### Bytes of a value -/

/-- Of the bytes only the tab, those from the space on and all beyond 0x7F are allowed. -/
def isFieldValueByte (b : UInt8) : Bool :=
  b == 0x09 || (0x20 ≤ b && b != 0x7F)

theorem isFieldValueByte_of_le {b : UInt8} (h : 0x80 ≤ b.toNat) : isFieldValueByte b = true := by
  simp only [isFieldValueByte, Bool.or_eq_true, Bool.and_eq_true, decide_eq_true_eq, bne_iff_ne,
    UInt8.le_iff_toNat_le]
  refine .inr ⟨?_, ?_⟩
  · show 32 ≤ b.toNat
    omega
  · rintro rfl
    exact absurd h (by decide)

theorem isFieldValueChar_of_le {c : Char} (h : 0x80 ≤ c.toNat) : isFieldValueChar c = true := by
  simp only [isFieldValueChar, Bool.or_eq_true, Bool.and_eq_true, decide_eq_true_eq]
  omega

/-- A character is allowed exactly if all its bytes are. -/
theorem isFieldValueChar_eq_all (c : Char) :
    isFieldValueChar c = (String.utf8EncodeChar c).all isFieldValueByte := by
  by_cases h : c.toNat < 0x80
  · rw [Utf8.utf8EncodeChar_of_lt h]
    exact Text.forall_ascii
      (P := fun c => isFieldValueChar c = [UInt8.ofNat c.toNat].all isFieldValueByte)
      (by decide) c h
  · have hall : (String.utf8EncodeChar c).all isFieldValueByte = true :=
      List.all_eq_true.mpr fun b hb =>
        isFieldValueByte_of_le (Utf8.le_of_mem_utf8EncodeChar (Nat.le_of_not_lt h) hb)
    rw [hall, isFieldValueChar_of_le (Nat.le_of_not_lt h)]

/-- A text may be the value of a field exactly if all its bytes are allowed. -/
theorem isFieldValue_iff_bytes (s : String) :
    isFieldValue s = true ↔ ∀ b ∈ Utf8.bytes s.toList, isFieldValueByte b = true := by
  rw [isFieldValue, Utf8.bytes, funext isFieldValueChar_eq_all, ← List.all_flatMap,
    List.all_eq_true]

/-! ### Texts that are always allowed -/

/-- No character of encoded text is a control character. -/
theorem isFieldValueChar_of_isEncodedChar {c : Char} (hc : Percent.isEncodedChar c = true) :
    isFieldValueChar c = true := by
  by_cases h : c.toNat < 0x80
  · exact Text.forall_ascii
      (P := fun c => Percent.isEncodedChar c = true → isFieldValueChar c = true)
      (by decide) c h hc
  · exact isFieldValueChar_of_le (Nat.le_of_not_lt h)

theorem isFieldValue_of_isEncoded {s : String} (h : Percent.isEncoded s = true) :
    isFieldValue s = true := by
  rw [isFieldValue, List.all_eq_true]
  intro c hc
  exact isFieldValueChar_of_isEncodedChar (List.all_eq_true.mp h c hc)

end Http

end RequestSigning
