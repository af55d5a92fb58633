import RequestSigning.Text.Numeral
import RequestSigning.Text.Split
/-!
# Request addresses

An address has up to four parts: scheme, authority, path and query. Its path is empty only if it
has nothing besides perhaps an authority, and a fragment is never kept.

* `Uri`: the type, and `Uri.Fault`: why a text or a choice of parts is no address.
* `Uri.text`: the written form.
* `Uri.host`, `Uri.port`: the parts of the authority.
* `Uri.Target`: a path with its query, and `Target.rooted`, the path with an empty one read as `/`.
* `Uri.ofParts`: an address from parts that are valid on their own.
-/

namespace RequestSigning

structure Uri where
  scheme : Option String
  authority : Option String
  path : String
  query : Option String
deriving DecidableEq

namespace Uri

inductive Fault where
  | tooLong
  | emptyText
  | badCharacter
  | badAuthority
  | badForm
  | schemeTooLong
  | noLeadingSlash
  | authorityMissing
  | schemeMissing
  | pathMissing
deriving DecidableEq

def Fault.text : Fault → String
  | .tooLong => "uri too long"
  | .emptyText => "empty string"
  | .badCharacter => "invalid uri character"
  | .badAuthority => "invalid authority"
  | .badForm => "invalid format"
  | .schemeTooLong => "scheme too long"
  | .noLeadingSlash => "path does not start with slash"
  | .authorityMissing => "authority missing"
  | .schemeMissing => "scheme missing"
  | .pathMissing => "path missing"

/-! ### Written form -/

def schemeText : Option String → String
  | some s => s ++ "://"
  | none => ""

def queryText : Option String → String
  | some q => "?" ++ q
  | none => ""

/-- The parts in order, each with its separator. -/
def text (u : Uri) : String :=
  schemeText u.scheme ++ u.authority.getD "" ++ u.path ++ queryText u.query

/-! ### Parts of the authority -/

/-- What follows the last occurrence of a character, or `none` if there is none. -/
def afterLast (sep : Char) (s : List Char) : Option (List Char) :=
  (Text.cut sep s.reverse).map fun p => p.1.reverse

/-- The text up to a character and that character, or the whole text if it is missing. -/
def through (stop : Char) (s : List Char) : List Char :=
  match Text.cut stop s with
  | some (before, _) => before ++ [stop]
  | none => s

/-- The host of an authority: what follows the user information, an address in brackets with its
brackets, or else everything before the port. -/
def hostOf (authority : List Char) : List Char :=
  let place := (afterLast '@' authority).getD authority
  if place.head? = some '[' then through ']' place
  else place.takeWhile (· ≠ ':')

/-- The host; it may be empty, and it is missing without an authority. -/
def host (u : Uri) : Option String :=
  u.authority.map fun a => String.ofList (hostOf a.toList)

/-- A port is a number below 65536, with any zeros in front and perhaps a plus sign. -/
def portOf (s : List Char) : Option Nat :=
  let digits := if s.head? = some '+' then s.tail else s
  if digits.isEmpty || !digits.all Char.isDigit then none
  else if Text.decimalValue digits < 65536 then some (Text.decimalValue digits)
  else none

/-- The port: the number after the last colon of the authority, if it is one. -/
def port (u : Uri) : Option Nat :=
  match u.authority with
  | some a => (afterLast ':' a.toList).bind portOf
  | none => none

/-! ### Assembly -/

/-- A path with its query, as one part of an address. The path is as written and may be empty. -/
structure Target where
  path : String
  query : Option String
deriving DecidableEq

/-- The path, with an empty one read as the root. -/
def Target.rooted (t : Target) : String :=
  if t.path = "" then "/" else t.path

/-- The path of an address that has no other part: nothing at all stays nothing. -/
def Target.alone (t : Target) : String :=
  if t.path = "" && t.query = none then "" else t.rooted

/-- An address from its parts. A scheme needs an authority and a path, and an authority with a
path needs a scheme. -/
def ofParts (scheme authority : Option String) (target : Option Target) : Except Fault Uri :=
  match scheme, authority, target with
  | some _, none, _ => .error .authorityMissing
  | some _, some _, none => .error .pathMissing
  | some s, some a, some t => .ok ⟨some s, some a, t.rooted, t.query⟩
  | none, some _, some _ => .error .schemeMissing
  | none, some a, none => .ok ⟨none, some a, "", none⟩
  | none, none, some t => .ok ⟨none, none, t.alone, t.query⟩
  | none, none, none => .ok ⟨none, none, "", none⟩

end Uri

end RequestSigning
