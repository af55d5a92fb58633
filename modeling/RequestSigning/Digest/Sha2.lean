import RequestSigning.Digest.Basic
/-!
# The SHA-2 family

SHA-256 works on words of 32 bits, SHA-384 and SHA-512 on words of 64 bits; apart from the word
size, the rotations and the count of rounds they are one function. The constants of the narrow
variant are the upper halves of those of the wide one.

* `Sha2.cubeRoots`, `Sha2.squareRoots`: the constants, bits after the point of roots of primes.
* `Sha2.Variant`: what tells the members of the family apart.
* `Sha2.compress`, `Sha2.digest`: the step for one block, and the hash function of a variant.
* `Hash.sha256`, `Hash.sha384`, `Hash.sha512`: the members in use.
-/

namespace RequestSigning.Sha2

/-- The first 64 bits after the point of the cube roots of the first eighty primes. -/
def cubeRoots : List UInt64 :=
  [0x428A2F98D728AE22, 0x7137449123EF65CD, 0xB5C0FBCFEC4D3B2F, 0xE9B5DBA58189DBBC,
    0x3956C25BF348B538, 0x59F111F1B605D019, 0x923F82A4AF194F9B, 0xAB1C5ED5DA6D8118,
    0xD807AA98A3030242, 0x12835B0145706FBE, 0x243185BE4EE4B28C, 0x550C7DC3D5FFB4E2,
    0x72BE5D74F27B896F, 0x80DEB1FE3B1696B1, 0x9BDC06A725C71235, 0xC19BF174CF692694,
    0xE49B69C19EF14AD2, 0xEFBE4786384F25E3, 0x0FC19DC68B8CD5B5, 0x240CA1CC77AC9C65,
    0x2DE92C6F592B0275, 0x4A7484AA6EA6E483, 0x5CB0A9DCBD41FBD4, 0x76F988DA831153B5,
    0x983E5152EE66DFAB, 0xA831C66D2DB43210, 0xB00327C898FB213F, 0xBF597FC7BEEF0EE4,
    0xC6E00BF33DA88FC2, 0xD5A79147930AA725, 0x06CA6351E003826F, 0x142929670A0E6E70,
    0x27B70A8546D22FFC, 0x2E1B21385C26C926, 0x4D2C6DFC5AC42AED, 0x53380D139D95B3DF,
    0x650A73548BAF63DE, 0x766A0ABB3C77B2A8, 0x81C2C92E47EDAEE6, 0x92722C851482353B,
    0xA2BFE8A14CF10364, 0xA81A664BBC423001, 0xC24B8B70D0F89791, 0xC76C51A30654BE30,
    0xD192E819D6EF5218, 0xD69906245565A910, 0xF40E35855771202A, 0x106AA07032BBD1B8,
    0x19A4C116B8D2D0C8, 0x1E376C085141AB53, 0x2748774CDF8EEB99, 0x34B0BCB5E19B48A8,
    0x391C0CB3C5C95A63, 0x4ED8AA4AE3418ACB, 0x5B9CCA4F7763E373, 0x682E6FF3D6B2B8A3,
    0x748F82EE5DEFB2FC, 0x78A5636F43172F60, 0x84C87814A1F0AB72, 0x8CC702081A6439EC,
    0x90BEFFFA23631E28, 0xA4506CEBDE82BDE9, 0xBEF9A3F7B2C67915, 0xC67178F2E372532B,
    0xCA273ECEEA26619C, 0xD186B8C721C0C207, 0xEADA7DD6CDE0EB1E, 0xF57D4F7FEE6ED178,
    0x06F067AA72176FBA, 0x0A637DC5A2C898A6, 0x113F9804BEF90DAE, 0x1B710B35131C471B,
    0x28DB77F523047D84, 0x32CAAB7B40C72493, 0x3C9EBE0A15C9BEBC, 0x431D67C49C100D4C,
    0x4CC5D4BECB3E42B6, 0x597F299CFC657E2A, 0x5FCB6FAB3AD6FAEC, 0x6C44198C4A475817]

/-- The first 64 bits after the point of the square roots of the first sixteen primes. -/
def squareRoots : List UInt64 :=
  [0x6A09E667F3BCC908, 0xBB67AE8584CAA73B, 0x3C6EF372FE94F82B, 0xA54FF53A5F1D36F1,
    0x510E527FADE682D1, 0x9B05688C2B3E6C1F, 0x1F83D9ABFB41BD6B, 0x5BE0CD19137E2179,
    0xCBBB9D5DC1059ED8, 0x629A292A367CD507, 0x9159015A3070DD17, 0x152FECD8F70E5939,
    0x67332667FFC00B31, 0x8EB44A8768581511, 0xDB0C2E0D64F98FA7, 0x47B5481DBEFA4FA4]

structure State (α : Type) where
  a : α
  b : α
  c : α
  d : α
  e : α
  f : α
  g : α
  h : α

/-- A member of the family: its round constants, its start value and the distances of its
rotations. A mixing function rotates by three distances, except that the schedule's two functions
shift by the last one. -/
structure Variant (α : Type) where
  constants : List α
  start : State α
  upperA : Nat × Nat × Nat
  upperE : Nat × Nat × Nat
  lowerEarly : Nat × Nat × Nat
  lowerLate : Nat × Nat × Nat

section

variable {α : Type} [Digest.Word α]

@[specialize] def rotations (distances : Nat × Nat × Nat) (x : α) : α :=
  Digest.Word.rotateRight x distances.1 ^^^ Digest.Word.rotateRight x distances.2.1 ^^^
    Digest.Word.rotateRight x distances.2.2

@[specialize] def rotationsAndShift (distances : Nat × Nat × Nat) (x : α) : α :=
  Digest.Word.rotateRight x distances.1 ^^^ Digest.Word.rotateRight x distances.2.1 ^^^
    Digest.Word.shiftRight x distances.2.2

/-- The schedule after round `i`: word `i` leaves the ring and word `i + 16` takes its place. -/
@[specialize] def nextWords (v : Variant α) (words : Vector α 16) (i : Nat) : Vector α 16 :=
  let word (distance : Nat) : α := Digest.wordAt words (i + distance)
  Digest.replaceAt words i (rotationsAndShift v.lowerLate (word 14) + word 9 +
    rotationsAndShift v.lowerEarly (word 1) + word 0)

@[specialize] def round (v : Variant α) (s : State α) (constant word : α) : State α :=
  let choice := (s.e &&& s.f) ^^^ (~~~s.e &&& s.g)
  let majority := (s.a &&& s.b) ^^^ (s.a &&& s.c) ^^^ (s.b &&& s.c)
  let first := s.h + rotations v.upperE s.e + choice + constant + word
  ⟨first + rotations v.upperA s.a + majority, s.a, s.b, s.c, s.d + first, s.e, s.f, s.g⟩

def State.words (s : State α) : List α :=
  [s.a, s.b, s.c, s.d, s.e, s.f, s.g, s.h]

@[specialize] def compress (v : Variant α) (s : State α) (block : List UInt8) : State α :=
  let start := (s, Digest.blockWords Digest.ofBigEndian block)
  let t := (v.constants.zipIdx.foldl
    (fun p k => (round v p.1 k.1 (Digest.wordAt p.2 k.2), nextWords v p.2 k.2)) start).1
  ⟨s.a + t.a, s.b + t.b, s.c + t.c, s.d + t.d, s.e + t.e, s.f + t.f, s.g + t.g, s.h + t.h⟩

/-- A block holds sixteen words, and the length field takes two. -/
@[specialize] def digest (v : Variant α) (message : List UInt8) : List UInt8 :=
  let size := Digest.Word.size α
  let blocks := Digest.chunks (16 * size) (Digest.padded (16 * size) (2 * size)
    Digest.bigEndian message)
  let s := blocks.foldl (compress v) v.start
  s.words.flatMap fun word => Digest.bigEndian size (Digest.Word.toNat word)

@[simp] theorem length_digest (v : Variant α) (message : List UInt8) :
    (digest v message).length = 8 * Digest.Word.size α := by
  simp [digest, State.words]
  omega

end

/-- The root at a place of the table of square roots. -/
def squareRoot (place : Nat) : UInt64 :=
  squareRoots[place]?.getD 0

/-- A state of eight words in a row. -/
def startState {α : Type} (word : Nat → α) : State α :=
  ⟨word 0, word 1, word 2, word 3, word 4, word 5, word 6, word 7⟩

/-- The upper half of a constant. -/
def upperHalf (x : UInt64) : UInt32 :=
  (x >>> 32).toUInt32

def narrow : Variant UInt32 where
  constants := (cubeRoots.take 64).map upperHalf
  start := startState fun i => upperHalf (squareRoot i)
  upperA := (2, 13, 22)
  upperE := (6, 11, 25)
  lowerEarly := (7, 18, 3)
  lowerLate := (17, 19, 10)

/-- The wide variant with the start values from a given place of the table on. -/
def wide (place : Nat) : Variant UInt64 where
  constants := cubeRoots
  start := startState fun i => squareRoot (place + i)
  upperA := (28, 34, 39)
  upperE := (14, 18, 41)
  lowerEarly := (1, 8, 7)
  lowerLate := (19, 61, 6)

/-- SHA-512 starts from the first eight roots. -/
def wide512 : Variant UInt64 := wide 0

/-- SHA-384 starts from the second eight roots. -/
def wide384 : Variant UInt64 := wide 8

end RequestSigning.Sha2

namespace RequestSigning

def Hash.sha256 : Hash := ⟨64, Sha2.digest Sha2.narrow⟩

def Hash.sha512 : Hash := ⟨128, Sha2.digest Sha2.wide512⟩

/-- The first six of the eight words of the wide variant. -/
def Hash.sha384 : Hash := ⟨128, fun message => (Sha2.digest Sha2.wide384 message).take 48⟩

end RequestSigning
