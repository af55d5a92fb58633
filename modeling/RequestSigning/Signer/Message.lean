import RequestSigning.Encoding.Form
import RequestSigning.InPlace
import RequestSigning.Profile.Draft
import RequestSigning.Uri.Parse
/-!
# Signing messages

A message signer makes the authorization header of a message before there is a request, and stores
it in the metadata of the message. The address and the method of the later request are templates.

* `MessageSigner`: a profile with these templates, the metadata key that the header is stored
  under, and the metadata that the request will carry as a form.
* `MessageSigner.check`: what must not be blank.
* `MessageSigner.formPairs`: the form fields that a message has, with encoded values.
* `MessageSigner.header`: the authorization header of a message.
* `MessageSigner.sign`: the header together with the message that stores it.
* `MessageSigner.signInPlace`: the same on a message that the caller holds.
* `MessageSigner.Call`: one use of a signer.
-/

namespace RequestSigning

structure MessageSigner where
  profile : Profile
  url : String
  httpMethod : String := Protocol.standardHttpMethod
  targetKey : String := Protocol.standardTargetKey
  formFields : List String := []
  time : Option Instant := none

namespace MessageSigner

/-- Address template, method template and target key are not blank. -/
def check (s : MessageSigner) : Except Failure Unit := do
  Required.addressTemplate.check s.url
  Required.methodTemplate.check s.httpMethod
  Required.targetKey.check s.targetKey

/-- The listed metadata that a message has, in the order of the list, with form encoded values. -/
def formPairs (s : MessageSigner) (m : Message) : List (String × String) :=
  s.formFields.filterMap fun key =>
    (m.metadata.get? key).map fun value => (key, Form.encodeText value)

/-- The address of a text. -/
def address (text : String) : Except Failure Uri :=
  (Uri.parse text).mapError Failure.ofAddressFault

/-- The settings that a signer adds to a draft. -/
def settings (s : MessageSigner) (m : Message) : List Draft.Setting :=
  .additional (s.formPairs m) :: (s.time.map .time).toList

/-- The authorization header of a message. -/
def header (s : MessageSigner) (h : Host) (now : Instant) (m : Message) : Outcome String := do
  Outcome.ofExcept s.check
  let url ← Outcome.ofExcept (address (← m.read s.url))
  let method ← m.read s.httpMethod
  let d ← s.profile.draftFor h method url m
  (d.setAll (s.settings m)).build now

/-- The header of a message, and the message with the header stored in its metadata. -/
def sign (s : MessageSigner) (h : Host) (now : Instant) (m : Message) :
    Outcome (String × Message) := do
  let header ← s.header h now m
  Outcome.note (.stored m.uniqueId s.targetKey)
  return (header, m.insert s.targetKey header)

/-- The header of the message that the caller holds; at last it is stored in that message. -/
def signInPlace (s : MessageSigner) (h : Host) (now : Instant) : InPlace Message String := do
  let m ← InPlace.state
  let header ← InPlace.ofOutcome (s.header h now m)
  InPlace.ofOutcome (Outcome.note (.stored m.uniqueId s.targetKey))
  InPlace.change (·.insert s.targetKey header)
  return header

/-- One use of a signer: the signer with its host and the present instant. -/
structure Call where
  signer : MessageSigner
  host : Host
  now : Instant

/-- What a call does to the message it is made on. -/
def Call.inPlace (c : Call) : InPlace Message String :=
  c.signer.signInPlace c.host c.now

/-- The form in which a signer is shown. -/
def describe (s : MessageSigner) : String :=
  Text.record "HeaderGenerator"
    [("spec", s.profile.describe),
      ("url", Text.quoted s.url),
      ("http_method", Text.quoted s.httpMethod),
      ("target_key", Text.quoted s.targetKey),
      ("form_fields", Text.shownList (s.formFields.map Text.quoted)),
      ("time", Text.shownOption (s.time.map Instant.describe))]

end MessageSigner

end RequestSigning
