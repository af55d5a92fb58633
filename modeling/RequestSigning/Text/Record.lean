import RequestSigning.Text.Quoted
/-!
# Shown values

How values are shown on one line for people: a record is its name with its fields in braces, an
optional value is `Some(...)` or `None`, and a sequence stands in square brackets.

* `Text.record`: a record from the shown forms of its fields.
* `Text.shownOption`, `Text.shownList`, `Text.shownPairs`, `Text.shownMap`, `Text.shownBool`: the
  other shapes.
-/

namespace RequestSigning.Text

/-- A record: its name, and its fields as `name: value`. -/
def record (name : String) (fields : List (String × String)) : String :=
  name ++ " \x7b " ++ ", ".intercalate (fields.map fun f => f.1 ++ ": " ++ f.2) ++ " \x7d"

/-- An optional value from the shown form of the value. -/
def shownOption : Option String → String
  | some shown => "Some(" ++ shown ++ ")"
  | none => "None"

def shownBool (b : Bool) : String :=
  if b then "true" else "false"

/-- A sequence from the shown forms of its elements. -/
def shownList (elements : List String) : String :=
  "[" ++ ", ".intercalate elements ++ "]"

def shownPairs (pairs : List (String × String)) : String :=
  shownList (pairs.map fun p => "(" ++ quoted p.1 ++ ", " ++ quoted p.2 ++ ")")

/-- Named values, in order. -/
def shownMap (entries : List (String × String)) : String :=
  "\x7b" ++ ", ".intercalate (entries.map fun e => quoted e.1 ++ ": " ++ quoted e.2) ++ "\x7d"

end RequestSigning.Text
