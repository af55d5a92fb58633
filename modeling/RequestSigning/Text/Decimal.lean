/-!
# Decimal text of binary numbers

The text of a finite binary number has the fewest digits that read back as that number, and of
these the digits nearest to it. Numbers of moderate size are written positionally, with at least one
digit on each side of the point, and all others with an exponent.

* `Text.Binary`: a number `mantissa · 2^exponent` with the width of the reals that round to it.
* `Text.Binary.ofFloat`: the number of a double.
* `Text.Binary.shortest`: its decimal digits and their power of ten.
* `Text.positional`, `Text.scientific`: the digits with their point, and with an exponent.
* `Text.decimal`: the text of a finite double.
-/

namespace RequestSigning.Text

/-- The number `mantissa · 2^exponent`. The reals that round to it reach from half a unit below to
half a unit above, or from a quarter below where the numbers below lie closer; the ends belong to
it if the mantissa is even. -/
structure Binary where
  mantissa : Nat
  exponent : Int
  closerBelow : Bool

namespace Binary

/-- A double without its sign: 52 bits of fraction, 11 bits of exponent. -/
def ofFloat (x : Float) : Binary :=
  let bits := x.toBits.toNat
  let unit := Nat.pow 2 52
  let fraction := bits % unit
  let place := bits / unit % 2048
  if place = 0 then ⟨fraction, -1074, false⟩
  else ⟨unit + fraction, Int.ofNat place - 1075, fraction = 0 && place > 1⟩

/-- `n · base^e` as a fraction. -/
def scaled (n base : Nat) (e : Int) : Nat × Nat :=
  if 0 ≤ e then (n * base.pow e.toNat, 1) else (n, base.pow e.natAbs)

/-- Whether `digits · 10^power` rounds to the number. All distances are compared in quarters of the
last place. -/
def covers (b : Binary) (digits : Nat) (power : Int) : Bool :=
  let (p, q) := scaled digits 10 power
  let (u, v) := scaled 1 2 (b.exponent - 2)
  let middle := 4 * b.mantissa
  let low := (middle - (if b.closerBelow then 1 else 2)) * u * q
  let high := (middle + 2) * u * q
  let point := p * v
  if b.mantissa % 2 = 0 then low ≤ point && point ≤ high else low < point && point < high

/-- The multiples of `10^power` that round to the number: its two neighbours on that grid are
tried, and if both round to it the nearer one is taken. Of two that are equally near the even one
counts as the nearer. -/
def onGrid (b : Binary) (power : Int) : Option Nat :=
  let (p, q) := scaled 1 10 power
  let (u, v) := scaled b.mantissa 2 b.exponent
  let unit := v * p
  let below := u * q / unit
  let rest := u * q - below * unit
  let nearer :=
    if 2 * rest < unit || (2 * rest = unit && below % 2 = 0) then below else below + 1
  let farther := if nearer = below then below + 1 else below
  if 0 < nearer && b.covers nearer power then some nearer
  else if 0 < farther && b.covers farther power then some farther
  else none

/-- The digits on the coarsest grid that has a multiple which rounds to the number; zero has the
digit zero. -/
def shortest (b : Binary) : Nat × Int :=
  if b.mantissa = 0 then (0, 0)
  else ((List.range 660).findSome? fun i =>
    (b.onGrid (310 - Int.ofNat i)).map fun digits => (digits, 310 - Int.ofNat i)).getD (0, 0)

end Binary

/-- `digits · 10^power` in positional form with at least one digit on each side of the point. -/
def positional (digits : Nat) (power : Int) : String :=
  let ds := Nat.toDigits 10 digits
  if 0 ≤ power then String.ofList (ds ++ List.replicate power.toNat '0') ++ ".0"
  else
    let places := power.natAbs
    let ds := List.replicate (places + 1 - ds.length) '0' ++ ds
    String.ofList (ds.take (ds.length - places)) ++ "." ++
      String.ofList (ds.drop (ds.length - places))

/-- The exponent of the first of some digits, the last of which counts `10^power`. -/
def leadingExponent (digits : Nat) (power : Int) : Int :=
  power + Int.ofNat ((Nat.toDigits 10 digits).length - 1)

/-- `digits · 10^power` with one digit before the point, no point behind a single digit, and an
exponent with its sign. -/
def scientific (digits : Nat) (power : Int) : String :=
  let exponent := leadingExponent digits power
  let mantissa :=
    match Nat.toDigits 10 digits with
    | first :: second :: rest => first :: '.' :: second :: rest
    | ds => ds
  String.ofList mantissa ++ "e" ++ (if exponent < 0 then "-" else "+") ++ toString exponent.natAbs

/-- The text of a finite double. It is positional if the exponent of its first digit lies between
-5 and 15. -/
def decimal (x : Float) : String :=
  let (digits, power) := (Binary.ofFloat x).shortest
  let exponent := leadingExponent digits power
  let sign := if x.toBits.toNat / Nat.pow 2 63 = 1 then "-" else ""
  sign ++ if -5 ≤ exponent && exponent ≤ 15 then positional digits power
    else scientific digits power

end RequestSigning.Text
