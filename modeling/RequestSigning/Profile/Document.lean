import RequestSigning.Profile.Basic
import RequestSigning.Text.Decimal
import RequestSigning.Text.Numeral
/-!
# Profiles from documents

A profile can be read from a document of nested values, either from a mapping by the names of its
settings or from a sequence by their order.

* `Document`: a nested value, and `Document.describe`: how a value is named in a fault.
* `Document.ofNumeral`: the value that is written as a numeral.
* `Profile.Slot`, `Profile.slots`: the settings, with their names and in their order.
* `Profile.DocumentFault`: why a document is no profile.
* `Profile.ofDocument`: the profile of a document. The first fault counts; a mapping is read in
  the order of its names.
-/

namespace RequestSigning

inductive Document where
  | null
  | boolean (b : Bool)
  | integer (n : Int)
  | number (x : Float)
  | text (s : String)
  | sequence (elements : List Document)
  | mapping (entries : List (String × Document))
deriving Inhabited

/-- The value that is written as a numeral: an integer if it is a whole number of 64 bits, else a
binary number. -/
def Document.ofNumeral (text : String) : Document :=
  let n := Text.Numeral.ofText text.toList
  match n.integer? with
  | some i => .integer i
  | none => .number n.toFloat

/-- How a value is named in a fault: its shape, and its text if it has a short one. -/
def Document.describe : Document → String
  | .null => "null"
  | .boolean b => "boolean \x60" ++ Text.shownBool b ++ "\x60"
  | .integer n => "integer \x60" ++ toString n ++ "\x60"
  | .number x => "floating point \x60" ++ Text.decimal x ++ "\x60"
  | .text s => "string " ++ Text.quoted s
  | .sequence _ => "sequence"
  | .mapping _ => "map"

namespace Profile

inductive DocumentFault where
  /-- A value of another shape is wanted. -/
  | wrongShape (found : Document) (wanted : String)
  /-- A sequence has more elements than there are settings. -/
  | tooMany (length : Nat)

def DocumentFault.text : DocumentFault → String
  | .wrongShape found wanted => "invalid type: " ++ found.describe ++ ", expected " ++ wanted
  | .tooMany length =>
    "invalid length " ++ toString length ++ ", expected fewer elements in array"

/-- A setting: the text of a field, or whether blank parameters are kept. -/
inductive Slot where
  | text (f : Field)
  | keepBlank
deriving DecidableEq

/-- All settings with their names, in order. -/
def slots : List (String × Slot) :=
  [("consumer-key", .text .consumerKey),
    ("consumer-secret", .text .consumerSecret),
    ("access-token", .text .accessToken),
    ("token-secret", .text .tokenSecret),
    ("nonce", .text .nonce),
    ("realm", .text .realm),
    ("version", .text .version),
    ("verifier", .text .verifier),
    ("include-empty-params", .keepBlank),
    ("signature-method", .text .signingMethod)]

/-- The profile with one setting read from a value. A field takes a text, or null to stay unset,
and the choice about blank parameters takes a boolean only. -/
def readSlot (p : Profile) (slot : Slot) (value : Document) : Except DocumentFault Profile :=
  match slot, value with
  | .text f, .text s => .ok (p.set (.text f s))
  | .text _, .null => .ok p
  | .text _, value => .error (.wrongShape value "a string")
  | .keepBlank, .boolean b => .ok (p.set (.keepBlank b))
  | .keepBlank, value => .error (.wrongShape value "a boolean")

/-- Settings by order; missing ones at the end stay as they are. -/
def readSequence (p : Profile) (elements : List Document) : Except DocumentFault Profile := do
  let q ← (slots.zip elements).foldlM (fun p e => p.readSlot e.1.2 e.2) p
  if elements.length > slots.length then .error (.tooMany elements.length) else .ok q

/-- Settings by name; names of no setting are passed over. -/
def readMapping (p : Profile) (entries : List (String × Document)) :
    Except DocumentFault Profile :=
  (entries.mergeSort fun a b => !Text.before b.1.toList a.1.toList).foldlM (fun p e =>
    match slots.lookup e.1 with
    | some slot => p.readSlot slot e.2
    | none => .ok p) p

/-- The profile of a document. -/
def ofDocument : Document → Except DocumentFault Profile
  | .sequence elements => readSequence {} elements
  | .mapping entries => readMapping {} entries
  | value => .error (.wrongShape value "struct AuthorizationSpec")

end Profile

end RequestSigning
