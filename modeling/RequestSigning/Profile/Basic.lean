import RequestSigning.Host
import RequestSigning.Protocol
import RequestSigning.Text.Masked
/-!
# Profiles

A profile is the configuration of a signer. Its settings are templates that are filled for each
message; secrets may also refer to variables of the host and may be stored encoded.

* `Profile.Field`: the settings that hold text, with `Field.isSecret` and `Field.variableName`.
* `Profile`: the text of each field, if it is set, and whether blank parameters are kept.
* `Profile.Change`, `Profile.set`: one setting, and the profile with that setting.
* `Profile.fillFrom`: the profile with unset fields taken from variables.
-/

namespace RequestSigning

namespace Profile

inductive Field where
  | consumerKey
  | consumerSecret
  | accessToken
  | tokenSecret
  | nonce
  | realm
  | version
  | verifier
  | signingMethod
deriving DecidableEq

/-- Secrets are decoded by the host, and are masked when a profile is shown. -/
def Field.isSecret : Field → Bool
  | .consumerSecret => true
  | .tokenSecret => true
  | _ => false

/-- The variable that provides a field which is not set. -/
def Field.variableName : Field → Option String
  | .consumerKey => some Protocol.consumerKeyVariable
  | .consumerSecret => some Protocol.consumerSecretVariable
  | .accessToken => some Protocol.accessTokenVariable
  | .tokenSecret => some Protocol.tokenSecretVariable
  | .signingMethod => some Protocol.signatureMethodVariable
  | .realm => some Protocol.realmVariable
  | .nonce => none
  | .version => none
  | .verifier => none

end Profile

/-- The text of each field that is set, and whether blank protocol parameters are kept. -/
structure Profile where
  text : Profile.Field → Option String := fun _ => none
  keepBlank : Bool := false

namespace Profile

@[ext] theorem ext {p q : Profile} (h : ∀ f, p.text f = q.text f)
    (h' : p.keepBlank = q.keepBlank) : p = q := by
  cases p
  cases q
  simp only [mk.injEq]
  exact ⟨funext h, h'⟩

/-- One setting of a profile. -/
inductive Change where
  | text (f : Field) (s : String)
  | keepBlank (b : Bool)

def set (p : Profile) : Change → Profile
  | .text f s => { p with text := fun g => if g = f then some s else p.text g }
  | .keepBlank b => { p with keepBlank := b }

/-- The profile in which each field that is not set takes the value of its variable. A field that
is set keeps its text, even a blank one. -/
def fillFrom (p : Profile) (e : Environment) : Profile :=
  { p with text := fun f => (p.text f).or (f.variableName.bind e.lookup) }

/-- The form in which a profile is shown. Secrets are masked. -/
def describe (p : Profile) : String :=
  let shown (f : Field) : String := Text.shownOption ((p.text f).map Text.quoted)
  let hidden (f : Field) : String := Text.masked ((p.text f).getD "")
  Text.record "AuthorizationSpec"
    [("consumer_key", shown .consumerKey),
      ("consumer_secret", hidden .consumerSecret),
      ("access_token", shown .accessToken),
      ("token_secret", hidden .tokenSecret),
      ("nonce", shown .nonce),
      ("realm", shown .realm),
      ("version", shown .version),
      ("verifier", shown .verifier),
      ("include_empty_params", Text.shownBool p.keepBlank),
      ("signature_method", shown .signingMethod)]

/-! ### Fields after a change -/

@[simp] theorem text_set_text (p : Profile) (f g : Field) (s : String) :
    (p.set (.text f s)).text g = if g = f then some s else p.text g := rfl

@[simp] theorem text_set_keepBlank (p : Profile) (b : Bool) (f : Field) :
    (p.set (.keepBlank b)).text f = p.text f := rfl

@[simp] theorem text_fillFrom (p : Profile) (e : Environment) (f : Field) :
    (p.fillFrom e).text f = (p.text f).or (f.variableName.bind e.lookup) := rfl

@[simp] theorem keepBlank_fillFrom (p : Profile) (e : Environment) :
    (p.fillFrom e).keepBlank = p.keepBlank := rfl

end Profile

end RequestSigning
