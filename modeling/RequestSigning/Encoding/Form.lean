import RequestSigning.Encoding.Percent
import RequestSigning.Text.Split
/-!
# Form encoding

The encoding of a form body: letters, digits, `*`, `-`, `.` and `_` stand for themselves, a space
becomes `+`, and any other byte is escaped with a percent sign. A body is made of `name=value`
pairs joined by `&`.

* `Form.encodeText`: the encoded form of a name or a value.
* `Form.join`: the body of a list of pairs that are encoded already.
* `Form.decodeText?`, `Form.decode?`: reading; empty segments are skipped, and bytes that are not
  the UTF-8 form of a text have no reading.

A text is read back from its encoded form (`decodeText?_encodeText`).
-/

namespace RequestSigning.Form

/-- Letters, digits, `*`, `-`, `.` and `_`. -/
def isKept (b : UInt8) : Bool :=
  Percent.isAlphanumeric b || b == 0x2A || b == 0x2D || b == 0x2E || b == 0x5F

def encodeByte (b : UInt8) : List Char :=
  if isKept b then [Char.ofUInt8 b]
  else if b = 0x20 then ['+']
  else Percent.escape b

def encodeText (s : String) : String :=
  String.ofList ((Utf8.bytes s.toList).flatMap encodeByte)

/-- The body of pairs that are encoded already. -/
def join (pairs : List (String × String)) : List Char :=
  ['&'].intercalate (pairs.map fun p => p.1.toList ++ '=' :: p.2.toList)

def decodeText? (s : List Char) : Option String :=
  (Utf8.text? (Percent.decode (s.map fun c => if c = '+' then ' ' else c))).map String.ofList

/-- A segment without `=` is a name with an empty value. -/
def decodeSegment? (segment : List Char) : Option (String × String) :=
  match Text.cut '=' segment with
  | some (name, value) =>
    match decodeText? name, decodeText? value with
    | some n, some v => some (n, v)
    | _, _ => none
  | none => (decodeText? segment).map fun n => (n, "")

def decode? (body : List Char) : Option (List (String × String)) :=
  ((Text.pieces '&' body).filter (· ≠ [])).mapM decodeSegment?

/-! ### Reading back -/

@[simp] theorem toList_encodeText (s : String) :
    (encodeText s).toList = (Utf8.bytes s.toList).flatMap encodeByte := by
  simp [encodeText]

theorem kept_char : ∀ n : Fin 256, isKept (UInt8.ofNat n) = true →
    Char.ofUInt8 (UInt8.ofNat n) ≠ '%' ∧ Char.ofUInt8 (UInt8.ofNat n) ≠ '+' ∧
      String.utf8EncodeChar (Char.ofUInt8 (UInt8.ofNat n)) = [UInt8.ofNat n] := by
  decide +kernel

theorem upper_ne_plus_fin : ∀ n : Fin 16, Hex.upper n ≠ '+' := by decide

theorem upper_ne_plus (n : Nat) : Hex.upper n ≠ '+' := by
  have h := upper_ne_plus_fin ⟨n % 16, Nat.mod_lt _ (by decide)⟩
  simpa [Hex.upper] using h

theorem decode_plusless_encodeByte (b : UInt8) (rest : List Char) :
    Percent.decode ((encodeByte b).map (fun c => if c = '+' then ' ' else c) ++ rest) =
      b :: Percent.decode rest := by
  unfold encodeByte
  split
  · rename_i h
    have hb := kept_char ⟨b.toNat, b.toNat_lt⟩
    simp only [UInt8.ofNat_toNat] at hb
    obtain ⟨hne, hplus, henc⟩ := hb h
    simp only [List.map_cons, List.map_nil, if_neg hplus, List.cons_append, List.nil_append]
    rw [Percent.decode_cons_of_ne hne, henc]
    rfl
  · split
    · rename_i h
      subst h
      simp only [List.map_cons, List.map_nil, if_true, List.cons_append, List.nil_append]
      rw [Percent.decode_cons_of_ne (by decide)]
      rfl
    · have h : (Percent.escape b).map (fun c => if c = '+' then ' ' else c) =
          Percent.escape b := by
        simp [Percent.escape, upper_ne_plus]
      rw [h, Percent.decode_escape_append]

/-- A text is read back from its encoded form. -/
theorem decodeText?_encodeText (s : String) : decodeText? (encodeText s).toList = some s := by
  have h : ∀ bytes : List UInt8,
      Percent.decode ((bytes.flatMap encodeByte).map fun c => if c = '+' then ' ' else c) =
        bytes := by
    intro bytes
    induction bytes with
    | nil => rfl
    | cons b rest ih =>
      rw [List.flatMap_cons, List.map_append, decode_plusless_encodeByte, ih]
  rw [decodeText?, toList_encodeText, h, Utf8.text?_bytes]
  simp

end RequestSigning.Form
