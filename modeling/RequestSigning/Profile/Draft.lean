import RequestSigning.Credential
import RequestSigning.Draft
import RequestSigning.Message
import RequestSigning.Profile.Basic
/-!
# From a profile to a draft

For each message a profile yields a credential and a draft. Settings are filled from the message;
secrets are filled from the variables of the host first, and are decoded by the host at last.

* `Profile.readSecret`: the secret that a setting stands for.
* `Profile.credential`: the credential that a profile has for a message.
* `Profile.draftWith`, `Profile.draft`, `Profile.draftFor`: the draft with a given credential, with
  the profile's own, and with the method and the address of a request.
-/

namespace RequestSigning

namespace Profile

/-- The text, unless it is blank. -/
def unlessBlank (s : String) : Option String :=
  if Text.isBlank s then none else some s

/-- The secret that a setting stands for. A setting that is not set is the empty secret, and the
decoder is not asked. -/
def readSecret (h : Host) (m : MessageView) : Option String → Outcome String
  | some text => do
    let stored ← m.read (h.fillVariables text)
    Outcome.ofExcept (h.decodeSecret stored)
  | none => pure ""

/-- The credential for a message. Consumer key and consumer secret are required; a blank token or
token secret counts as none. -/
def credential (p : Profile) (h : Host) (m : MessageView) : Outcome Credential := do
  let consumerKey ← m.readSetting (p.text .consumerKey)
  Outcome.ofExcept (Required.consumerKey.check consumerKey)
  let consumerSecret ← readSecret h m (p.text .consumerSecret)
  Outcome.ofExcept (Required.consumerSecret.check consumerSecret)
  let accessToken ← m.readSetting (p.text .accessToken)
  let tokenSecret ← readSecret h m (p.text .tokenSecret)
  return ⟨consumerKey, consumerSecret, unlessBlank accessToken, unlessBlank tokenSecret⟩

/-- The signing method for a message. -/
def signingMethod (p : Profile) (m : MessageView) : Outcome SigningMethod :=
  match p.text .signingMethod with
  | some text => do SigningMethod.find (← m.read text)
  | none => pure SigningMethod.standard

/-- The nonce for a message, derived from its identifier if the configured one is blank. -/
def nonce (p : Profile) (m : MessageView) : Outcome String := do
  let configured ← m.readSetting (p.text .nonce)
  return Text.orIfBlank configured m.derivedNonce

/-- The draft for a message and a credential. All but the credential is the profile's. The version
is sent as it is configured. -/
def draftWith (p : Profile) (m : MessageView) (c : Credential) : Outcome Draft := do
  Outcome.ofExcept (if c.isValid then .ok () else .error (Failure.blank .credential))
  let nonce ← p.nonce m
  let signingMethod ← p.signingMethod m
  Outcome.note (.drafting signingMethod.wireName c.consumerKey nonce)
  let realm ← m.readSetting (p.text .realm)
  let verifier ← m.readSetting (p.text .verifier)
  return ({} : Draft).setAll
    [.consumerKey c.consumerKey,
      .consumerSecret c.consumerSecret,
      .accessToken (c.accessToken.getD ""),
      .tokenSecret (c.tokenSecret.getD ""),
      .nonce nonce,
      .realm realm,
      .version ((p.text .version).getD ""),
      .verifier verifier,
      .keepBlank p.keepBlank,
      .signingMethod signingMethod]

/-- The draft for a message with the profile's own credential. It has neither method nor
address. -/
def draft (p : Profile) (h : Host) (m : MessageView) : Outcome Draft := do
  p.draftWith m (← p.credential h m)

/-- The draft for a message and the request it is sent with. -/
def draftFor (p : Profile) (h : Host) (method : String) (url : Uri) (m : MessageView) :
    Outcome Draft := do
  let d ← p.draft h m
  return d.setAll [.method method, .url url]

end Profile

end RequestSigning
