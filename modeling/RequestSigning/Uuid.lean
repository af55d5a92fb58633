import RequestSigning.Encoding.Hex
/-!
# Random identifiers

A version 4 identifier is a number of 128 bits, all random except six that mark its version and
its variant.

* `Uuid.version4`: the text of the identifier with the given random bytes.
* `Uuid.isVersion4`: whether a text is such an identifier, hyphenated and in lower case.
-/

namespace RequestSigning.Uuid

/-- The sixteen bytes with the version mark in the seventh and the variant mark in the ninth. -/
def marked (random : Vector UInt8 16) : List UInt8 :=
  random.toList.mapIdx fun i b =>
    if i = 6 then b &&& 0x0F ||| 0x40
    else if i = 8 then b &&& 0x3F ||| 0x80
    else b

/-- Thirty-two lower case digits in groups of 8, 4, 4, 4 and 12. -/
def version4 (random : Vector UInt8 16) : String :=
  let digits := Hex.ofBytes (marked random)
  String.ofList (digits.take 8 ++ '-' :: (digits.drop 8).take 4 ++ '-' ::
    (digits.drop 12).take 4 ++ '-' :: (digits.drop 16).take 4 ++ '-' :: digits.drop 20)

def isLowerHex (c : Char) : Bool :=
  c.isDigit || ('a' ≤ c && c ≤ 'f')

/-- Hyphens at four places, the digit 4 for the version, one of four digits for the variant, and
lower case hexadecimal digits at all other places. -/
def isVersion4 (s : String) : Bool :=
  let cs := s.toList
  cs.length == 36 && cs.zipIdx.all fun p =>
    if p.2 == 8 || p.2 == 13 || p.2 == 18 || p.2 == 23 then p.1 == '-'
    else if p.2 == 14 then p.1 == '4'
    else if p.2 == 19 then p.1 == '8' || p.1 == '9' || p.1 == 'a' || p.1 == 'b'
    else isLowerHex p.1

example : isVersion4 (version4 (Vector.replicate 16 0xFF)) = true := by decide +kernel

end RequestSigning.Uuid
