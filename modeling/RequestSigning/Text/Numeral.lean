import RequestSigning.Text.Split
/-!
# Reading numerals

A numeral is a whole part, and perhaps a minus sign, a fraction and an exponent. A whole number of
64 bits is read exactly. Any other number is read in binary: the digits that 64 bits hold are
rounded once, and once more for each power of ten they are multiplied with or divided by.

* `Text.Numeral`: the parts of a numeral, and `Numeral.ofText`: the parts of a text.
* `Text.Numeral.integer?`: the number of a numeral that is a whole number of 64 bits.
* `Text.Numeral.toFloat`: the number of any numeral in binary.
-/

namespace RequestSigning.Text

/-- The number of a digit string. -/
def decimalValue (digits : List Char) : Nat :=
  digits.foldl (fun n c => 10 * n + (c.toNat - 0x30)) 0

/-- A sign, the digits on both sides of the point, and an exponent. A fraction or an exponent that
is not written is `none`. -/
structure Numeral where
  negative : Bool
  whole : List Char
  fraction : Option (List Char)
  exponent : Option Int

namespace Numeral

/-- The exponent behind its letter. -/
def exponentOf : List Char → Int
  | '-' :: digits => -Int.ofNat (decimalValue digits)
  | '+' :: digits => decimalValue digits
  | digits => decimalValue digits

/-- The parts of a text that is a numeral. -/
def ofText (text : List Char) : Numeral :=
  let unsigned := if text.head? = some '-' then text.tail else text
  let (mantissa, exponent) :=
    match unsigned.span fun c => c ≠ 'e' && c ≠ 'E' with
    | (mantissa, _ :: rest) => (mantissa, some (exponentOf rest))
    | (mantissa, []) => (mantissa, none)
  let (whole, fraction) :=
    match cut '.' mantissa with
    | some (whole, fraction) => (whole, some fraction)
    | none => (mantissa, none)
  ⟨text.head? = some '-', whole, fraction, exponent⟩

/-- The whole number that a numeral without fraction and exponent stands for, if it fits 64 bits
with or without a sign. Negative zero is no whole number. -/
def integer? (n : Numeral) : Option Int :=
  let value := decimalValue n.whole
  if n.fraction.isSome || n.exponent.isSome then none
  else if n.negative then
    if 0 < value && value ≤ Nat.pow 2 63 then some (-Int.ofNat value) else none
  else if value < Nat.pow 2 64 then some value
  else none

/-! ### Binary numbers -/

/-- Digits that were kept, and the power of ten of the last one. -/
structure Kept where
  digits : Nat
  power : Int

/-- Digits are kept from left to right while 64 bits hold them. The first one that they do not hold
and all behind it are counted. -/
def keep (kept : Nat) : List Char → Nat × Nat
  | [] => (kept, 0)
  | c :: rest =>
    let next := 10 * kept + (c.toNat - 0x30)
    if next < Nat.pow 2 64 then keep next rest else (kept, rest.length + 1)

/-- The kept digits of a numeral. A dropped digit of the whole part counts a power of ten, and a
dropped digit of the fraction counts nothing. -/
def kept (n : Numeral) : Kept :=
  let (whole, dropped) := keep 0 n.whole
  let fraction := n.fraction.getD []
  let (digits, lost) := keep whole fraction
  ⟨digits, Int.ofNat dropped - Int.ofNat (fraction.length - lost) + n.exponent.getD 0⟩

/-- A double times a power of ten. A small power that no double holds is taken in several factors,
and zero stays zero. -/
def timesPower (x : Float) (power : Int) : Float :=
  if x == 0 then x
  else if 0 ≤ power then x * Float.ofScientific 1 false power.toNat
  else if -308 ≤ power then x / Float.ofScientific 1 false power.natAbs
  else timesPower (x / Float.ofScientific 1 false 308) (power + 308)
termination_by power.natAbs
decreasing_by omega

/-- The number of a numeral in binary. -/
def toFloat (n : Numeral) : Float :=
  let size := timesPower n.kept.digits.toUInt64.toFloat n.kept.power
  if n.negative then -size else size

end Numeral

end RequestSigning.Text
