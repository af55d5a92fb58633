/-!
# Hexadecimal digits

* `Hex.upper`, `Hex.lower`: the digit of a number below sixteen.
* `Hex.value?`: the number of a digit of either case.
* `Hex.ofBytes`, `Hex.toBytes?`: byte strings with two lower case digits for a byte.

Upper case digits are read back (`value?_upper`, `ofNat_digits`).
-/

namespace RequestSigning.Hex

/-- The digit of `n % 16`, `A` to `F` above nine. -/
def upper (n : Nat) : Char :=
  Char.ofNat (if n % 16 < 10 then 0x30 + n % 16 else 0x37 + n % 16)

/-- The digit of `n % 16`, `a` to `f` above nine. -/
def lower (n : Nat) : Char :=
  Char.ofNat (if n % 16 < 10 then 0x30 + n % 16 else 0x57 + n % 16)

def value? (c : Char) : Option Nat :=
  let n := c.toNat
  if 0x30 ≤ n && n ≤ 0x39 then some (n - 0x30)
  else if 0x41 ≤ n && n ≤ 0x46 then some (n - 0x37)
  else if 0x61 ≤ n && n ≤ 0x66 then some (n - 0x57)
  else none

def ofBytes (bytes : List UInt8) : List Char :=
  bytes.flatMap fun b => [lower (b.toNat / 16), lower b.toNat]

/-- Text of another length or with another character than a digit has no value. -/
def toBytes? : List Char → Option (List UInt8)
  | [] => some []
  | [_] => none
  | a :: b :: rest =>
    match value? a, value? b, toBytes? rest with
    | some hi, some lo, some bytes => some (UInt8.ofNat (16 * hi + lo) :: bytes)
    | _, _, _ => none

/-! ### Reading back -/

theorem value?_upper_fin : ∀ n : Fin 16, value? (upper n) = some n.val := by decide

theorem value?_upper (n : Nat) : value? (upper n) = some (n % 16) := by
  rw [← value?_upper_fin ⟨n % 16, Nat.mod_lt _ (by decide)⟩]
  simp [upper]

theorem length_ofBytes (bytes : List UInt8) : (ofBytes bytes).length = 2 * bytes.length := by
  induction bytes with
  | nil => rfl
  | cons b rest ih =>
    have h : ofBytes (b :: rest) = lower (b.toNat / 16) :: lower b.toNat :: ofBytes rest := rfl
    rw [h, List.length_cons, List.length_cons, List.length_cons, ih]
    omega

/-- The two digits of a byte determine it. -/
theorem ofNat_digits (b : UInt8) : UInt8.ofNat (16 * (b.toNat / 16 % 16) + b.toNat % 16) = b := by
  have hb : b.toNat < 256 := b.toNat_lt
  rw [show 16 * (b.toNat / 16 % 16) + b.toNat % 16 = b.toNat by omega, UInt8.ofNat_toNat]

end RequestSigning.Hex
