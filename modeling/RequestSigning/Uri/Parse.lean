import RequestSigning.Uri.Basic
/-!
# Reading an address

An address is read from left to right: a scheme up to `://`, an authority up to the first `/`, `?`
or `#`, a path up to `?` or `#`, and a query up to `#`. What is refused is refused for the first
reason that is met on the way. Lengths are counted in bytes of the UTF-8 form.

* `Uri.Authority`: what the reader remembers of an authority, `Authority.step` for one character
  and `Authority.check` for a whole one.
* `Uri.parseTarget`: a path with its query.
* `Uri.splitScheme`: the scheme in front of `://`.
* `Uri.parse`: a whole address.
-/

namespace RequestSigning.Uri

/-! ### Characters -/

def isAsciiAlphanumeric (c : Char) : Bool :=
  c.isDigit || ('A' ≤ c && c ≤ 'Z') || ('a' ≤ c && c ≤ 'z')

def isSchemeChar (c : Char) : Bool :=
  isAsciiAlphanumeric c || "+-.~".toList.contains c

/-- The characters of an authority, the percent sign apart. -/
def isAuthorityChar (c : Char) : Bool :=
  isAsciiAlphanumeric c || "!$&'()*+,-.:;=@[]_~".toList.contains c

/-- What ends an authority. -/
def endsAuthority (c : Char) : Bool :=
  c == '/' || c == '?' || c == '#'

/-- Controls are refused up to U+007F, and everything behind that is allowed. -/
def isPathChar (c : Char) : Bool :=
  let n := c.toNat
  n == 0x21 || n == 0x22 || (0x24 ≤ n && n ≤ 0x3B) || n == 0x3D || (0x40 ≤ n && n ≤ 0x5F) ||
    (0x61 ≤ n && n ≤ 0x7E) || 0x80 ≤ n

/-- Here too U+007F is refused, and everything behind it is allowed. -/
def isQueryChar (c : Char) : Bool :=
  let n := c.toNat
  n == 0x21 || (0x24 ≤ n && n ≤ 0x3B) || n == 0x3D || (0x3F ≤ n && n ≤ 0x7E) || 0x80 ≤ n

/-! ### Authority -/

/-- What is remembered of an authority while it is read: the colons since the last `@` or `]`, the
brackets so far, and whether a percent sign is open since then. -/
structure Authority where
  colons : Nat := 0
  opened : Bool := false
  closed : Bool := false
  percent : Bool := false
deriving DecidableEq

/-- A ninth colon in a row, a bracket out of order and a foreign character are refused at once. -/
def Authority.step (s : Authority) (c : Char) : Except Fault Authority :=
  match c with
  | '%' => .ok { s with percent := true }
  | ':' => if s.colons < 8 then .ok { s with colons := s.colons + 1 } else .error .badAuthority
  | '[' => if s.percent || s.opened then .error .badAuthority else .ok { s with opened := true }
  | ']' =>
    if s.opened && !s.closed then .ok { s with closed := true, colons := 0, percent := false }
    else .error .badAuthority
  | '@' => .ok { s with colons := 0, percent := false }
  | c => if isAuthorityChar c then .ok s else .error .badCharacter

/-- What may not be left at the end: an open bracket, two colons or a percent sign outside the
user information and the brackets, or an `@` with no host behind it. -/
def Authority.finish (s : Authority) (last : Option Char) : Except Fault Unit :=
  if s.opened != s.closed || s.colons > 1 || last = some '@' || s.percent then
    .error .badAuthority
  else .ok ()

def checkAuthority (authority : List Char) : Except Fault Unit := do
  let s ← authority.foldlM Authority.step {}
  s.finish authority.getLast?

/-- The authority at the start of a text and what follows it. -/
def splitAuthority (s : List Char) : Except Fault (List Char × List Char) :=
  if s = [] then .error .emptyText
  else
    let (authority, rest) := s.span fun c => !endsAuthority c
    (checkAuthority authority).map fun _ => (authority, rest)

/-! ### Path and query -/

/-- The query behind a path: none, or the text behind `?` up to a fragment. -/
def parseQuery : List Char → Except Fault (Option String)
  | '?' :: rest =>
    let query := rest.takeWhile (· ≠ '#')
    if query.all isQueryChar then .ok (some (String.ofList query)) else .error .badCharacter
  | _ => .ok none

/-- A path with its query. Either may be missing, and a lone asterisk is a path. -/
def parseTarget (s : List Char) : Except Fault Target :=
  if s = ['*'] then .ok ⟨"*", none⟩
  else
    match s with
    | [] => .ok ⟨"", none⟩
    | c :: _ =>
      if !endsAuthority c then .error .noLeadingSlash
      else
        let (path, rest) := s.span fun c => c ≠ '?' && c ≠ '#'
        if !path.all isPathChar then .error .badCharacter
        else
          (parseQuery rest).map fun query => ⟨String.ofList path, query⟩

/-! ### Scheme -/

/-- Whether a text starts with `start` up to the case of ASCII letters. -/
def startsWith (start : String) (s : List Char) : Bool :=
  (s.take start.length).map Char.toLower == start.toList

/-- The scheme of a text and what follows `://`, or `none` if it has no scheme. The two common
schemes are written in lower case, any other as it stands. -/
def splitScheme (s : List Char) : Except Fault (Option (String × List Char)) :=
  if startsWith "http://" s then .ok (some ("http", s.drop 7))
  else if startsWith "https://" s then .ok (some ("https", s.drop 8))
  else if (String.ofList s).utf8ByteSize ≤ 3 then .ok none
  else
    let (scheme, rest) := s.span isSchemeChar
    match rest with
    | ':' :: '/' :: '/' :: after =>
      if scheme.length > 64 then .error .schemeTooLong
      else .ok (some (String.ofList scheme, after))
    | _ => .ok none

/-! ### Whole addresses -/

/-- An address without a scheme that does not start with a slash: nothing but an authority. -/
def parseBare (s : List Char) : Except Fault Uri := do
  let (authority, rest) ← splitAuthority s
  if rest = [] then .ok ⟨none, some (String.ofList authority), "", none⟩ else .error .badForm

/-- What follows the scheme: an authority that is not empty, and a path. -/
def parseAfterScheme (scheme : String) (s : List Char) : Except Fault Uri := do
  let (authority, rest) ← splitAuthority s
  if authority = [] then .error .badForm
  else
    let target ← parseTarget rest
    .ok ⟨some scheme, some (String.ofList authority), target.rooted, target.query⟩

/-- A whole address of at most 65534 bytes. -/
def parse (text : String) : Except Fault Uri :=
  if text.utf8ByteSize > 65534 then .error .tooLong
  else
    match text.toList with
    | [] => .error .emptyText
    | ['*'] => .ok ⟨none, none, "*", none⟩
    | ['?'] => .error .badCharacter
    | ['#'] => .error .badCharacter
    | '/' :: rest =>
      (parseTarget ('/' :: rest)).map fun target => ⟨none, none, target.alone, target.query⟩
    | s =>
      match splitScheme s with
      | .error fault => .error fault
      | .ok (some (scheme, after)) => parseAfterScheme scheme after
      | .ok none => parseBare s

end RequestSigning.Uri
