import RequestSigning.Text.Escaped
/-!
# Quoted text

Text between double quotes on one line. A double quote and a backslash follow a backslash, four
controls have a letter of their own, and every other character without a graphic form is written
by its code point in hexadecimal between braces.

* `Text.quotedChar`: the written form of one character.
* `Text.quoted`: the written form of a text.
-/

namespace RequestSigning.Text

/-- The written form of a character by its code point, as in `\u{200b}`. -/
def byCodePoint (c : Char) : List Char :=
  ['\\', 'u', '{'] ++ Nat.toDigits 16 c.toNat ++ ['}']

def quotedChar (c : Char) : List Char :=
  if c = '"' then ['\\', '"']
  else if c = '\\' then ['\\', '\\']
  else if c = '\n' then ['\\', 'n']
  else if c = '\r' then ['\\', 'r']
  else if c = '\t' then ['\\', 't']
  else if c = '\x00' then ['\\', '0']
  else if 0x20 ≤ c.toNat && c.toNat < 0x7F then [c]
  else if isEscaped c then byCodePoint c
  else [c]

def quoted (s : String) : String :=
  String.ofList ('"' :: s.toList.flatMap quotedChar ++ ['"'])

@[simp] theorem toList_quoted (s : String) :
    (quoted s).toList = '"' :: s.toList.flatMap quotedChar ++ ['"'] := by
  simp [quoted]

end RequestSigning.Text
