/-!
# Iterated hash functions

What the hash functions of this library share: a message is padded to whole blocks, each block is
read as sixteen words, and a compression step folds the blocks into a state of words.

* `Digest.bigEndian`, `Digest.littleEndian`: a number as a fixed count of bytes.
* `Digest.ofBigEndian`, `Digest.ofLittleEndian`: the number of a byte string.
* `Digest.chunks`: a list in portions of one size.
* `Digest.padded`: a message with its padding.
* `Digest.Word`: the machine words that a compression step computes with.
* `Digest.blockWords`, `Digest.wordAt`, `Digest.replaceAt`: the sixteen words of a block, as a ring
  that holds sixteen words in a row of the message schedule.
* `Hash`: a hash function with its block size, and `Hash.hmac`, its keyed form.
-/

namespace RequestSigning.Digest

/-- The last `count` bytes of `n`, the most significant first. -/
def bigEndian (count n : Nat) : List UInt8 :=
  (List.range count).reverse.map fun i => UInt8.ofNat (n >>> (8 * i))

/-- The last `count` bytes of `n`, the least significant first. -/
def littleEndian (count n : Nat) : List UInt8 :=
  (List.range count).map fun i => UInt8.ofNat (n >>> (8 * i))

def ofBigEndian (bytes : List UInt8) : Nat :=
  bytes.foldl (fun n b => 256 * n + b.toNat) 0

def ofLittleEndian (bytes : List UInt8) : Nat :=
  bytes.foldr (fun b n => b.toNat + 256 * n) 0

/-- A list in portions of `size` elements; the last one may be shorter. -/
def chunks {α : Type} (size : Nat) : List α → List (List α)
  | [] => []
  | x :: rest => (x :: rest.take (size - 1)) :: chunks size (rest.drop (size - 1))
termination_by l => l.length
decreasing_by
  simp only [List.length_drop, List.length_cons]
  omega

/-- A message, the byte 0x80, as many zeros as needed and the message length in bits, which takes
`field` bytes. -/
def padded (block field : Nat) (encodeLength : Nat → Nat → List UInt8) (message : List UInt8) :
    List UInt8 :=
  let zeros := (block - (message.length + 1 + field) % block) % block
  message ++ 0x80 :: List.replicate zeros 0 ++ encodeLength field (8 * message.length)

/-- Machine words. Sums wrap around, and the distance of a rotation is below the word size. -/
class Word (α : Type) extends Add α, AndOp α, OrOp α, XorOp α, Complement α where
  /-- The count of bytes of a word. -/
  size : Nat
  ofNat : Nat → α
  toNat : α → Nat
  shiftRight : α → Nat → α
  rotateRight : α → Nat → α

instance : Word UInt32 where
  size := 4
  ofNat := UInt32.ofNat
  toNat := UInt32.toNat
  shiftRight x n := x >>> UInt32.ofNat n
  rotateRight x n := x >>> UInt32.ofNat n ||| x <<< UInt32.ofNat (32 - n)

instance : Word UInt64 where
  size := 8
  ofNat := UInt64.ofNat
  toNat := UInt64.toNat
  shiftRight x n := x >>> UInt64.ofNat n
  rotateRight x n := x >>> UInt64.ofNat n ||| x <<< UInt64.ofNat (64 - n)

/-- A rotation to the left, by a distance from 1 to 31. -/
def rotateLeft (x : UInt32) (n : Nat) : UInt32 :=
  Word.rotateRight x (32 - n)

/-- The sixteen words of a block; missing bytes read as zero. -/
@[specialize] def blockWords {α : Type} [Word α] (number : List UInt8 → Nat)
    (block : List UInt8) : Vector α 16 :=
  Vector.ofFn fun i : Fin 16 =>
    Word.ofNat (number ((block.drop (i * Word.size α)).take (Word.size α)))

/-- The word at a place of the ring, counted modulo sixteen. -/
@[inline] def wordAt {α : Type} (words : Vector α 16) (i : Nat) : α :=
  words.get (Fin.ofNat 16 i)

/-- The ring with the word at a place, counted modulo sixteen, replaced. -/
@[inline] def replaceAt {α : Type} (words : Vector α 16) (i : Nat) (next : α) : Vector α 16 :=
  words.set (i % 16) next (Nat.mod_lt i (by decide))

/-! ### Lengths -/

@[simp] theorem length_bigEndian (count n : Nat) : (bigEndian count n).length = count := by
  simp [bigEndian]

@[simp] theorem length_littleEndian (count n : Nat) : (littleEndian count n).length = count := by
  simp [littleEndian]

end RequestSigning.Digest

namespace RequestSigning

/-- A hash function over byte strings that works on blocks of `blockSize` bytes. -/
structure Hash where
  blockSize : Nat
  digest : List UInt8 → List UInt8

/-- The key of a keyed hash, brought to the length of a block: a longer key is hashed first, and
zeros fill up a shorter one. -/
def Hash.blockKey (h : Hash) (key : List UInt8) : List UInt8 :=
  let short := if key.length > h.blockSize then h.digest key else key
  short ++ List.replicate (h.blockSize - short.length) 0

/-- HMAC: the hash of the key and the hash of the key and the message, with two different masks on
the key. -/
def Hash.hmac (h : Hash) (key message : List UInt8) : List UInt8 :=
  let k := h.blockKey key
  h.digest (k.map (· ^^^ 0x5C) ++ h.digest (k.map (· ^^^ 0x36) ++ message))

end RequestSigning
