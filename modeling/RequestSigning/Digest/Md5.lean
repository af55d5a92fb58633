import RequestSigning.Digest.Basic
/-!
# MD5

* `Md5.sines`: the round constants, the first 32 bits after the point of |sin 1|, |sin 2|, …
* `Md5.compress`: the step that takes one block into the state.
* `Hash.md5`: the hash function.
-/

namespace RequestSigning.Md5

/-- The integer part of 2^32 · |sin i| for i from 1 to 64, the angle in radians. -/
def sines : List (UInt32) :=
  [0xD76AA478, 0xE8C7B756, 0x242070DB, 0xC1BDCEEE, 0xF57C0FAF, 0x4787C62A,
    0xA8304613, 0xFD469501, 0x698098D8, 0x8B44F7AF, 0xFFFF5BB1, 0x895CD7BE,
    0x6B901122, 0xFD987193, 0xA679438E, 0x49B40821, 0xF61E2562, 0xC040B340,
    0x265E5A51, 0xE9B6C7AA, 0xD62F105D, 0x02441453, 0xD8A1E681, 0xE7D3FBC8,
    0x21E1CDE6, 0xC33707D6, 0xF4D50D87, 0x455A14ED, 0xA9E3E905, 0xFCEFA3F8,
    0x676F02D9, 0x8D2A4C8A, 0xFFFA3942, 0x8771F681, 0x6D9D6122, 0xFDE5380C,
    0xA4BEEA44, 0x4BDECFA9, 0xF6BB4B60, 0xBEBFBC70, 0x289B7EC6, 0xEAA127FA,
    0xD4EF3085, 0x04881D05, 0xD9D4D039, 0xE6DB99E5, 0x1FA27CF8, 0xC4AC5665,
    0xF4292244, 0x432AFF97, 0xAB9423A7, 0xFC93A039, 0x655B59C3, 0x8F0CCC92,
    0xFFEFF47D, 0x85845DD1, 0x6FA87E4F, 0xFE2CE6E0, 0xA3014314, 0x4E0811A1,
    0xF7537E82, 0xBD3AF235, 0x2AD7D2BB, 0xEB86D391]

structure State where
  a : UInt32
  b : UInt32
  c : UInt32
  d : UInt32

def initial : State := ⟨0x67452301, 0xEFCDAB89, 0x98BADCFE, 0x10325476⟩

/-- How far round `i` rotates. -/
def rotation (i : Nat) : Nat :=
  match i / 16, i % 4 with
  | 0, 0 => 7 | 0, 1 => 12 | 0, 2 => 17 | 0, _ => 22
  | 1, 0 => 5 | 1, 1 => 9 | 1, 2 => 14 | 1, _ => 20
  | 2, 0 => 4 | 2, 1 => 11 | 2, 2 => 16 | 2, _ => 23
  | _, 0 => 6 | _, 1 => 10 | _, 2 => 15 | _, _ => 21

/-- Which word of the block round `i` takes, modulo sixteen. -/
def wordPlace (i : Nat) : Nat :=
  match i / 16 with
  | 0 => i
  | 1 => 5 * i + 1
  | 2 => 3 * i + 5
  | _ => 7 * i

/-- How round `i` mixes three words of the state. -/
def mix (i : Nat) (b c d : UInt32) : UInt32 :=
  match i / 16 with
  | 0 => (b &&& c) ||| (~~~b &&& d)
  | 1 => (d &&& b) ||| (~~~d &&& c)
  | 2 => b ^^^ c ^^^ d
  | _ => c ^^^ (b ||| ~~~d)

def round (words : Vector (UInt32) 16) (s : State) (i : Nat) (sine : UInt32) : State :=
  let sum := s.a + mix i s.b s.c s.d + sine + Digest.wordAt words (wordPlace i)
  ⟨s.d, s.b + Digest.rotateLeft sum (rotation i), s.b, s.c⟩

def compress (s : State) (block : List UInt8) : State :=
  let words := Digest.blockWords Digest.ofLittleEndian block
  let t := sines.zipIdx.foldl (fun t r => round words t r.2 r.1) s
  ⟨s.a + t.a, s.b + t.b, s.c + t.c, s.d + t.d⟩

def digest (message : List UInt8) : List UInt8 :=
  let blocks := Digest.chunks 64 (Digest.padded 64 8 Digest.littleEndian message)
  let s := blocks.foldl compress initial
  [s.a, s.b, s.c, s.d].flatMap fun word => Digest.littleEndian 4 word.toNat

@[simp] theorem length_digest (message : List UInt8) : (digest message).length = 16 := by
  simp [digest]

end RequestSigning.Md5

namespace RequestSigning

def Hash.md5 : Hash := ⟨64, Md5.digest⟩

end RequestSigning
