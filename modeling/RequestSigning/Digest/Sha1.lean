import RequestSigning.Digest.Basic
/-!
# SHA-1

* `Sha1.nextWords`: the message schedule as a ring of sixteen words in a row.
* `Sha1.compress`: the step that takes one block into the state.
* `Hash.sha1`: the hash function.
-/

namespace RequestSigning.Sha1

structure State where
  a : UInt32
  b : UInt32
  c : UInt32
  d : UInt32
  e : UInt32

def initial : State := ⟨0x67452301, 0xEFCDAB89, 0x98BADCFE, 0x10325476, 0xC3D2E1F0⟩

/-- The schedule after round `i`: word `i` leaves the ring and word `i + 16` takes its place. -/
def nextWords (words : Vector UInt32 16) (i : Nat) : Vector UInt32 16 :=
  let word (distance : Nat) : UInt32 := Digest.wordAt words (i + distance)
  Digest.replaceAt words i (Digest.rotateLeft (word 13 ^^^ word 8 ^^^ word 2 ^^^ word 0) 1)

/-- How round `i` mixes three words of the state. -/
def mix (i : Nat) (b c d : UInt32) : UInt32 :=
  match i / 20 with
  | 0 => (b &&& c) ||| (~~~b &&& d)
  | 2 => (b &&& c) ||| (b &&& d) ||| (c &&& d)
  | _ => b ^^^ c ^^^ d

/-- The constant of round `i`. -/
def constant (i : Nat) : UInt32 :=
  match i / 20 with
  | 0 => 0x5A827999
  | 1 => 0x6ED9EBA1
  | 2 => 0x8F1BBCDC
  | _ => 0xCA62C1D6

def round (s : State) (i : Nat) (word : UInt32) : State :=
  ⟨Digest.rotateLeft s.a 5 + mix i s.b s.c s.d + s.e + constant i + word, s.a,
    Digest.rotateLeft s.b 30, s.c, s.d⟩

def compress (s : State) (block : List UInt8) : State :=
  let start := (s, Digest.blockWords Digest.ofBigEndian block)
  let t := ((List.range 80).foldl (fun p i => (round p.1 i (Digest.wordAt p.2 i), nextWords p.2 i))
    start).1
  ⟨s.a + t.a, s.b + t.b, s.c + t.c, s.d + t.d, s.e + t.e⟩

def digest (message : List UInt8) : List UInt8 :=
  let blocks := Digest.chunks 64 (Digest.padded 64 8 Digest.bigEndian message)
  let s := blocks.foldl compress initial
  [s.a, s.b, s.c, s.d, s.e].flatMap fun word => Digest.bigEndian 4 word.toNat

@[simp] theorem length_digest (message : List UInt8) : (digest message).length = 20 := by
  simp [digest]

end RequestSigning.Sha1

namespace RequestSigning

def Hash.sha1 : Hash := ⟨64, Sha1.digest⟩

end RequestSigning
