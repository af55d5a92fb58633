import RequestSigning.Encoding.Base64
import RequestSigning.Encoding.Percent
import RequestSigning.Header.Authorization
import RequestSigning.Instant
import RequestSigning.Params
import RequestSigning.Protocol
import RequestSigning.SigningMethod
import RequestSigning.Text.Masked
import RequestSigning.Text.Record
import RequestSigning.Uri.Base
/-!
# Drafts of signatures

A draft collects everything that the signature of one request depends on. From it come the base
text, which is the exact text that is signed, and the authorization header with the signature.

* `Draft`: the type; its version is never blank.
* `Draft.Setting`, `Draft.set`: one value of a draft, and the draft with that value.
* `Draft.check`: what a draft needs before anything is signed.
* `Draft.sentParams`: the protocol parameters of a draft, which the header carries.
* `Draft.signedParams`: these, the additional data and the query of the address, where later
  values replace earlier ones.
* `Draft.baseText`: method, address and signed parameters as one text.
* `Draft.build`: the authorization header.
-/

namespace RequestSigning

/-! ### The type -/

structure Draft where
  url : Option Uri := none
  method : String := ""
  consumerKey : String := ""
  consumerSecret : String := ""
  accessToken : String := ""
  tokenSecret : String := ""
  nonce : String := ""
  realm : String := ""
  version : String := Protocol.standardVersion
  verifier : String := ""
  keepBlank : Bool := false
  signingMethod : SigningMethod := SigningMethod.standard
  additional : List (String × String) := []
  time : Option Instant := none
  version_stated : Text.isBlank version = false := by decide
deriving DecidableEq

namespace Draft

/-- One value of a draft. -/
inductive Setting where
  | url (u : Uri)
  | method (s : String)
  | consumerKey (s : String)
  | consumerSecret (s : String)
  | accessToken (s : String)
  | tokenSecret (s : String)
  | nonce (s : String)
  | realm (s : String)
  | version (s : String)
  | verifier (s : String)
  | keepBlank (b : Bool)
  | signingMethod (m : SigningMethod)
  | additional (pairs : List (String × String))
  | time (t : Instant)

/-- The draft with one value set. A blank realm or verifier becomes empty, and a blank version
becomes the standard one. -/
def set (d : Draft) : Setting → Draft
  | .url u => { d with url := some u }
  | .method s => { d with method := s }
  | .consumerKey s => { d with consumerKey := s }
  | .consumerSecret s => { d with consumerSecret := s }
  | .accessToken s => { d with accessToken := s }
  | .tokenSecret s => { d with tokenSecret := s }
  | .nonce s => { d with nonce := s }
  | .realm s => { d with realm := Text.orIfBlank s "" }
  | .version s =>
    { d with
      version := Text.orIfBlank s Protocol.standardVersion
      version_stated := Text.isBlank_orIfBlank (by decide) s }
  | .verifier s => { d with verifier := Text.orIfBlank s "" }
  | .keepBlank b => { d with keepBlank := b }
  | .signingMethod m => { d with signingMethod := m }
  | .additional pairs => { d with additional := pairs }
  | .time t => { d with time := some t }

/-- The draft with values set from first to last. -/
def setAll (d : Draft) (settings : List Setting) : Draft :=
  settings.foldl set d

/-! ### What is sent and what is signed -/

/-- The address of a draft that has all it needs: consumer key, consumer secret, nonce and method
are not blank, and there is an address. The first one that is missing counts. -/
def check (d : Draft) : Except Failure Uri := do
  Required.draftConsumerKey.check d.consumerKey
  Required.draftConsumerSecret.check d.consumerSecret
  Required.nonce.check d.nonce
  Required.method.check d.method
  match d.url with
  | some u => .ok u
  | none => .error (Failure.of .missingAddress)

/-- A draft is complete exactly if its four texts are not blank and it has an address. -/
theorem check_eq_ok_iff (d : Draft) (u : Uri) :
    d.check = .ok u ↔
      Text.isBlank d.consumerKey = false ∧ Text.isBlank d.consumerSecret = false ∧
        Text.isBlank d.nonce = false ∧ Text.isBlank d.method = false ∧ d.url = some u := by
  unfold check Required.check
  cases Text.isBlank d.consumerKey <;> cases Text.isBlank d.consumerSecret <;>
    cases Text.isBlank d.nonce <;> cases Text.isBlank d.method <;>
    cases d.url <;> simp [bind, Except.bind]

/-- All protocol parameters, blank or not. -/
def protocolParams (d : Draft) (timestamp : String) : Dictionary :=
  Table.ofList
    [(Protocol.consumerKey, d.consumerKey),
      (Protocol.signatureMethod, d.signingMethod.wireName),
      (Protocol.timestamp, timestamp),
      (Protocol.version, d.version),
      (Protocol.nonce, d.nonce),
      (Protocol.token, d.accessToken),
      (Protocol.verifier, d.verifier)]

/-- The protocol parameters that are sent and signed; blank ones only if the draft keeps them. -/
def sentParams (d : Draft) (timestamp : String) : Dictionary :=
  Header.dropBlank (d.protocolParams timestamp) d.keepBlank

/-- The sent parameters, the additional data and the query of an address, in this order. -/
def signedParams (d : Draft) (url : Uri) (timestamp : String) : Params :=
  let params : Params := (Table.ofList (d.sentParams timestamp).entries).insertAll d.additional
  match url.query with
  | some query => params.insertQuery query
  | none => params

/-- The base text at a given address: the method in upper case, the signed form of the address and
the signed parameters, the last two percent encoded, joined by `&`. -/
def baseTextAt (d : Draft) (url : Uri) (timestamp : String) : Except Failure String :=
  url.baseText.map fun address =>
    Text.uppercase (Text.trim d.method) ++ "&" ++ Percent.encode address ++ "&" ++
      Percent.encode (d.signedParams url timestamp).queryText

/-- The text that a draft signs at a given timestamp. -/
def baseText (d : Draft) (timestamp : String) : Except Failure String :=
  d.check.bind fun url => d.baseTextAt url timestamp

/-! ### The signature -/

/-- The two secrets joined by `&`, which is there even if there is no token secret. -/
def signingKey (d : Draft) : String :=
  d.consumerSecret ++ "&" ++ d.tokenSecret

/-- The signature of a base text: its digest in Base64, percent encoded. -/
def signature (d : Draft) (base : String) : String :=
  Percent.encode (String.ofList (Base64.encode
    (d.signingMethod.digest (Utf8.bytes d.signingKey.toList) (Utf8.bytes base.toList))))

/-- The parameters of the header: the sent ones, the signature and the realm. -/
def headerParams (d : Draft) (timestamp base : String) : Dictionary :=
  ((d.sentParams timestamp).insert Protocol.signature (d.signature base)).insert
    Protocol.realm d.realm

/-- The instant of the signature: the one the draft sets, or else the present. -/
def instant (d : Draft) (now : Instant) : Instant :=
  d.time.getD now

/-- The authorization header. The base text is noted before it is signed. -/
def build (d : Draft) (now : Instant) : Outcome String := do
  let timestamp := (d.instant now).unixText
  let base ← Outcome.ofExcept (d.baseText timestamp)
  Outcome.note (.signing base)
  return Header.write (d.headerParams timestamp base)

/-- The form in which a draft is shown. Secrets are masked. -/
def describe (d : Draft) : String :=
  Text.record "SignatureBuilder"
    [("url", Text.shownOption (d.url.map Uri.text)),
      ("method", Text.quoted d.method),
      ("consumer_key", Text.quoted d.consumerKey),
      ("consumer_secret", Text.masked d.consumerSecret),
      ("access_token", Text.quoted d.accessToken),
      ("token_secret", Text.masked d.tokenSecret),
      ("nonce", Text.quoted d.nonce),
      ("realm", Text.quoted d.realm),
      ("version", Text.quoted d.version),
      ("verifier", Text.quoted d.verifier),
      ("include_empty_params", Text.shownBool d.keepBlank),
      ("signature_method", d.signingMethod.describe),
      ("additional_data", Text.shownPairs d.additional)]

end Draft

end RequestSigning
