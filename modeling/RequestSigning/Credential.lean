import RequestSigning.Text.Blank
import RequestSigning.Text.Masked
import RequestSigning.Text.Record
/-!
# Credentials

A credential names a consumer and, optionally, a token, each with its secret. All its texts are
final: no template is left in them and the secrets are decoded.

* `Credential`: the type.
* `Credential.isValid`: both consumer fields hold text.
* `Credential.describe`: the shown form, with masked secrets.
-/

namespace RequestSigning

structure Credential where
  consumerKey : String := ""
  consumerSecret : String := ""
  accessToken : Option String := none
  tokenSecret : Option String := none
deriving DecidableEq

namespace Credential

def withToken (c : Credential) (token secret : String) : Credential :=
  { c with accessToken := some token, tokenSecret := some secret }

/-- Neither the consumer key nor the consumer secret is blank. -/
def isValid (c : Credential) : Bool :=
  !Text.isBlank c.consumerKey && !Text.isBlank c.consumerSecret

/-- The form in which a credential is shown. Secrets are masked. -/
def describe (c : Credential) : String :=
  Text.record "Credential"
    [("consumer_key", Text.quoted c.consumerKey),
      ("consumer_secret", Text.masked c.consumerSecret),
      ("access_token", Text.shownOption (c.accessToken.map Text.quoted)),
      ("token_secret", Text.masked (c.tokenSecret.getD ""))]

end Credential

end RequestSigning
