import RequestSigning.Http.Request
import RequestSigning.InPlace
import RequestSigning.Profile.Draft
/-!
# Signing requests

A request signer adds the authorization header to a request. It signs for the message it is bound
to, or else for a fresh message, so that each request has a nonce of its own.

* `HttpSigner`: a profile with what all signed requests share.
* `HttpSigner.header`: the authorization header for a request.
* `HttpSigner.sign`: the request with that header as its only authorization field.
* `HttpSigner.signInPlace`: the same on a request that the caller holds.
* `HttpSigner.Call`: one use of a signer.
-/

namespace RequestSigning

/-- The message that a signer is bound to may be of any kind. -/
structure HttpSigner where
  profile : Profile
  message : Option MessageView := none
  additional : List (String × String) := []
  time : Option Instant := none

namespace HttpSigner

/-- The name of the authorization field. -/
def fieldName : String := "authorization"

/-- The settings that a signer adds to a draft. -/
def settings (s : HttpSigner) (r : Http.Request) : List Draft.Setting :=
  [.method r.method, .url r.uri, .additional s.additional] ++ (s.time.map .time).toList

/-- The authorization header for a request, with a given credential or else the profile's own.
`fresh` is the message of a signer that is bound to none. -/
def header (s : HttpSigner) (h : Host) (fresh : Message) (now : Instant) (r : Http.Request)
    (override : Option Credential) : Outcome String := do
  let m := s.message.getD fresh
  let c ←
    match override with
    | some c => pure c
    | none => s.profile.credential h m
  let d ← s.profile.draftWith m c
  (d.setAll (s.settings r)).build now

/-- A header as a sensitive field, if it is allowed as the value of one. -/
def field (header : String) : Except Failure Http.Field :=
  if Http.isFieldValue header then .ok ⟨fieldName, header, true⟩
  else .error Failure.badFieldValue

/-- The request with its authorization header in place of any that it has. -/
def sign (s : HttpSigner) (h : Host) (fresh : Message) (now : Instant) (r : Http.Request)
    (override : Option Credential) : Outcome Http.Request := do
  let header ← s.header h fresh now r override
  let f ← Outcome.ofExcept (field header)
  return r.replace f

/-- The authorization field of the request that the caller holds, in place of any that it has. -/
def signInPlace (s : HttpSigner) (h : Host) (fresh : Message) (now : Instant)
    (override : Option Credential) : InPlace Http.Request Unit := do
  let r ← InPlace.state
  let header ← InPlace.ofOutcome (s.header h fresh now r override)
  let f ← InPlace.ofOutcome (Outcome.ofExcept (field header))
  InPlace.change (·.replace f)

/-- One use of a signer: the signer with its host, a fresh message, the present instant and a
credential that is used instead of its own. -/
structure Call where
  signer : HttpSigner
  host : Host
  fresh : Message
  now : Instant
  override : Option Credential := none

/-- What a call does to the request it is made on. -/
def Call.inPlace (c : Call) : InPlace Http.Request Unit :=
  c.signer.signInPlace c.host c.fresh c.now c.override

/-- The header that a call makes for a request. -/
def Call.header (c : Call) (r : Http.Request) : Outcome String :=
  c.signer.header c.host c.fresh c.now r c.override

/-- The form in which a signer is shown. -/
def describe (s : HttpSigner) : String :=
  Text.record "RequestSigner"
    [("spec", s.profile.describe),
      ("message", Text.shownOption (s.message.map MessageView.shown)),
      ("additional_data", Text.shownPairs s.additional),
      ("time", Text.shownOption (s.time.map Instant.describe))]

end HttpSigner

end RequestSigning
