import RequestSigning.Text.CaseRuns
/-!
# Full case mapping, one character at a time

The mapping of a character depends on that character alone, and it may have several characters:
the upper case form of U+00DF is two letters, the lower case form of U+0130 is `i` with a
combining dot.

* `Text.lower`, `Text.upper`: the full mappings of one character.
* `Text.folded`: the lower case forms of all characters of a text, by which names are compared.
* `Text.uppercase`: the upper case form of a text.
* `Text.sameAscii`: equality up to the case of the letters A to Z.
-/

namespace RequestSigning.Text

/-- The form of a code point under a table of runs and expansions; a code point in neither is its
own form. -/
def mapped (runs : List Run) (expansions : List (Nat × List Nat)) (n : Nat) : List Nat :=
  match expansions.lookup n with
  | some form => form
  | none =>
    match runs.find? (·.contains n) with
    | some run => [(n + run.shift).toNat]
    | none => [n]

/-- The full lower case mapping of a character. -/
def lower (c : Char) : List Char :=
  if c.toNat < 0x80 then [c.toLower]
  else (mapped lowerRuns lowerExpansions c.toNat).map Char.ofNat

/-- The full upper case mapping of a character. -/
def upper (c : Char) : List Char :=
  if c.toNat < 0x80 then [c.toUpper]
  else (mapped upperRuns upperExpansions c.toNat).map Char.ofNat

/-- Two names are the same name if they have the same folded text. -/
def folded (s : String) : List Char :=
  s.toList.flatMap lower

def uppercase (s : String) : String :=
  String.ofList (s.toList.flatMap upper)

/-- Only the letters A to Z change; every other character stands for itself alone. -/
def lowerAscii (s : String) : String :=
  String.ofList (s.toList.map Char.toLower)

/-- Equality up to the case of the letters A to Z. -/
def sameAscii (a b : String) : Bool :=
  lowerAscii a == lowerAscii b

/-! ### Laws -/

@[simp] theorem folded_append (a b : String) : folded (a ++ b) = folded a ++ folded b := by
  simp [folded]

@[simp] theorem toList_uppercase (s : String) :
    (uppercase s).toList = s.toList.flatMap upper := by
  simp [uppercase]

@[simp] theorem toList_lowerAscii (s : String) :
    (lowerAscii s).toList = s.toList.map Char.toLower := by
  simp [lowerAscii]

theorem sameAscii_iff (a b : String) :
    sameAscii a b = true ↔ a.toList.map Char.toLower = b.toList.map Char.toLower := by
  rw [sameAscii, beq_iff_eq, ← String.toList_inj, toList_lowerAscii, toList_lowerAscii]

end RequestSigning.Text
