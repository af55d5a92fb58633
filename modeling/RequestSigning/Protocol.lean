/-!
# Names of the protocol

The names under which a request carries its signature parameters, the names of the variables that
configure a signer, and the values that are used when none is chosen.
-/

namespace RequestSigning.Protocol

/-! ### Parameters -/

def consumerKey : String := "oauth_consumer_key"

def signatureMethod : String := "oauth_signature_method"

def timestamp : String := "oauth_timestamp"

def version : String := "oauth_version"

def nonce : String := "oauth_nonce"

def token : String := "oauth_token"

def verifier : String := "oauth_verifier"

def signature : String := "oauth_signature"

def realm : String := "realm"

/-- The name of the authorization scheme. -/
def scheme : String := "OAuth"

/-! ### Standard values -/

def standardVersion : String := "1.0"

def standardHttpMethod : String := "POST"

/-- The metadata key that a generated header is stored under. -/
def standardTargetKey : String := "Authorization"

/-! ### Variables -/

def consumerKeyVariable : String := "OAUTH_CONSUMER_KEY"

def consumerSecretVariable : String := "OAUTH_CONSUMER_SECRET"

def accessTokenVariable : String := "OAUTH_ACCESS_TOKEN"

def tokenSecretVariable : String := "OAUTH_TOKEN_SECRET"

def signatureMethodVariable : String := "OAUTH_SIGNATURE_METHOD"

def realmVariable : String := "OAUTH_REALM"

/-- All names and values above, in order. -/
def all : List String :=
  [consumerKey, signatureMethod, timestamp, version, nonce, token, verifier, signature, realm,
    scheme, standardVersion, standardHttpMethod, standardTargetKey, consumerKeyVariable,
    consumerSecretVariable, accessTokenVariable, tokenSecretVariable, signatureMethodVariable,
    realmVariable]

end RequestSigning.Protocol
