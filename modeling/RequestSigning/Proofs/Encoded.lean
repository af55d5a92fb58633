import RequestSigning.Encoding.Percent

/-!
# The characters of encoded text

Whatever is encoded, only a few characters occur in its encoded form, and no separator of queries
or of header values is one of them.

* `Percent.isEncodedChar`: the percent sign and the unreserved characters.
* `Percent.isEncoded`, `Percent.isEncoded_encode`: encoded text has no other characters.
* `Percent.not_mem_of_isEncoded`: such a text is free of any other character.
-/

namespace RequestSigning.Percent

/-- The characters of encoded text. -/
def isEncodedChar (c : Char) : Bool :=
  c == '%' || c.isAlphanum || c == '-' || c == '.' || c == '_' || c == '~'

theorem isEncodedChar_unreserved_fin : ∀ n : Fin 256, isUnreserved (UInt8.ofNat n) = true →
    isEncodedChar (Char.ofUInt8 (UInt8.ofNat n)) = true := by
  decide +kernel

theorem isEncodedChar_unreserved {b : UInt8} (h : isUnreserved b = true) :
    isEncodedChar (Char.ofUInt8 b) = true := by
  have hb := isEncodedChar_unreserved_fin ⟨b.toNat, b.toNat_lt⟩
  simp only [UInt8.ofNat_toNat] at hb
  exact hb h

theorem isEncodedChar_upper_fin : ∀ n : Fin 16, isEncodedChar (Hex.upper n) = true := by
  decide

theorem isEncodedChar_upper (n : Nat) : isEncodedChar (Hex.upper n) = true := by
  have hn := isEncodedChar_upper_fin ⟨n % 16, Nat.mod_lt _ (by decide)⟩
  have hmod : Hex.upper (n % 16) = Hex.upper n := by simp [Hex.upper]
  rw [← hmod]
  exact hn

theorem isEncodedChar_of_mem_encodeByte {b : UInt8} {c : Char} (h : c ∈ encodeByte b) :
    isEncodedChar c = true := by
  unfold encodeByte at h
  split at h
  · rename_i hb
    rw [List.mem_singleton.mp h]
    exact isEncodedChar_unreserved hb
  · simp only [escape, List.mem_cons, List.not_mem_nil, or_false] at h
    rcases h with rfl | rfl | rfl
    · decide
    · exact isEncodedChar_upper _
    · exact isEncodedChar_upper _

/-- Encoded text consists of the percent sign and unreserved characters. -/
theorem isEncodedChar_of_mem_encode {s : String} {c : Char} (h : c ∈ (encode s).toList) :
    isEncodedChar c = true := by
  rw [toList_encode, encodeBytes] at h
  obtain ⟨b, -, hc⟩ := List.mem_flatMap.mp h
  exact isEncodedChar_of_mem_encodeByte hc

/-- Whether a text has no other characters than encoded text has. -/
def isEncoded (s : String) : Bool :=
  s.toList.all isEncodedChar

theorem isEncoded_encode (s : String) : isEncoded (encode s) = true :=
  List.all_eq_true.mpr fun _ hc => isEncodedChar_of_mem_encode hc

/-- A character of another kind does not occur in such a text. -/
theorem not_mem_of_isEncoded {s : String} (hs : isEncoded s = true) {c : Char}
    (h : isEncodedChar c = false) : c ∉ s.toList := by
  intro hc
  rw [List.all_eq_true.mp hs c hc] at h
  exact absurd h.symm Bool.false_ne_true

theorem not_mem_encode {c : Char} (h : isEncodedChar c = false) (s : String) :
    c ∉ (encode s).toList :=
  not_mem_of_isEncoded (isEncoded_encode s) h

end RequestSigning.Percent
