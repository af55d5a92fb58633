/-!
# Base64 text

Three bytes become four digits of the standard alphabet, and a last group of one or two bytes is
filled up with `=`.

* `Base64.digit`, `Base64.value?`: the alphabet and its inverse.
* `Base64.encode`, `Base64.decode?`: the text of a byte string, and back.

What is encoded is read back (`decode?_encode`).
-/

namespace RequestSigning.Base64

/-- The digit of `n % 64`: upper case letters, lower case letters, figures, `+`, `/`. -/
def digit (n : Nat) : Char :=
  let n := n % 64
  if n < 26 then Char.ofNat (0x41 + n)
  else if n < 52 then Char.ofNat (0x61 + (n - 26))
  else if n < 62 then Char.ofNat (0x30 + (n - 52))
  else if n = 62 then '+'
  else '/'

def value? (c : Char) : Option Nat :=
  let n := c.toNat
  if 0x41 ≤ n && n ≤ 0x5A then some (n - 0x41)
  else if 0x61 ≤ n && n ≤ 0x7A then some (n - 0x61 + 26)
  else if 0x30 ≤ n && n ≤ 0x39 then some (n - 0x30 + 52)
  else if c = '+' then some 62
  else if c = '/' then some 63
  else none

def encode : List UInt8 → List Char
  | [] => []
  | [a] => [digit (a.toNat / 4), digit (a.toNat % 4 * 16), '=', '=']
  | [a, b] =>
    [digit (a.toNat / 4), digit (a.toNat % 4 * 16 + b.toNat / 16), digit (b.toNat % 16 * 4), '=']
  | a :: b :: c :: rest =>
    digit (a.toNat / 4) :: digit (a.toNat % 4 * 16 + b.toNat / 16) ::
      digit (b.toNat % 16 * 4 + c.toNat / 64) :: digit (c.toNat % 64) :: encode rest

/-- The bytes of a text, or `none` if it is not made of whole groups of digits with the filling at
its end. -/
def decode? : List Char → Option (List UInt8)
  | [] => some []
  | [a, b, '=', '='] =>
    match value? a, value? b with
    | some u, some v => some [UInt8.ofNat (u * 4 + v / 16)]
    | _, _ => none
  | [a, b, c, '='] =>
    match value? a, value? b, value? c with
    | some u, some v, some w =>
      some [UInt8.ofNat (u * 4 + v / 16), UInt8.ofNat (v % 16 * 16 + w / 4)]
    | _, _, _ => none
  | a :: b :: c :: d :: rest =>
    match value? a, value? b, value? c, value? d, decode? rest with
    | some u, some v, some w, some x, some bytes =>
      some (UInt8.ofNat (u * 4 + v / 16) :: UInt8.ofNat (v % 16 * 16 + w / 4) ::
        UInt8.ofNat (w % 4 * 64 + x) :: bytes)
    | _, _, _, _, _ => none
  | _ => none

/-! ### Reading back -/

theorem value?_digit_fin : ∀ n : Fin 64, value? (digit n) = some n.val := by decide

theorem digit_mod (n : Nat) : digit (n % 64) = digit n := by
  simp [digit]

theorem value?_digit (n : Nat) : value? (digit n) = some (n % 64) := by
  rw [← digit_mod, ← value?_digit_fin ⟨n % 64, Nat.mod_lt _ (by decide)⟩]

theorem value?_equals : value? '=' = none := by decide

theorem digit_ne_equals (n : Nat) : digit n ≠ '=' := by
  intro h
  have hv := value?_digit n
  rw [h, value?_equals] at hv
  exact absurd hv (by simp)

theorem ofNat_eq {b : UInt8} {n : Nat} (h : n = b.toNat) : UInt8.ofNat n = b := by
  rw [h, UInt8.ofNat_toNat]

/-- A byte string is read back from its text. -/
@[simp] theorem decode?_encode (bytes : List UInt8) : decode? (encode bytes) = some bytes := by
  fun_induction encode bytes with
  | case1 => rfl
  | case2 a =>
    have ha := a.toNat_lt
    simp only [decode?, value?_digit]
    rw [ofNat_eq (b := a) (by omega)]
  | case3 a b =>
    have ha := a.toNat_lt
    have hb := b.toNat_lt
    rw [decode?]
    · simp only [value?_digit]
      rw [ofNat_eq (b := a) (by omega), ofNat_eq (b := b) (by omega)]
    · intro h
      exact digit_ne_equals _ h
  | case4 a b c rest ih =>
    have ha := a.toNat_lt
    have hb := b.toNat_lt
    have hc := c.toNat_lt
    rw [decode?]
    · simp only [value?_digit, ih]
      rw [ofNat_eq (b := a) (by omega), ofNat_eq (b := b) (by omega),
        ofNat_eq (b := c) (by omega)]
    · intro _ h
      exact absurd h (digit_ne_equals _)
    · intro h
      exact absurd h (digit_ne_equals _)

end RequestSigning.Base64
