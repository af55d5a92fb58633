import RequestSigning.Digest.Md5
import RequestSigning.Digest.Sha1
import RequestSigning.Digest.Sha2
import RequestSigning.Outcome
import RequestSigning.Text.Blank
import RequestSigning.Text.Case
/-!
# Signing methods

A signing method turns a key and a text into the bytes of a signature. Each method has two names,
the one that is sent and the one that is written in configuration.

* `SigningMethod`: the six methods, and `SigningMethod.all`.
* `SigningMethod.wireName`, `SigningMethod.configName`: the two names.
* `SigningMethod.digest`: the bytes of a signature.
* `SigningMethod.named?`: the method of a name, up to white space around it and ASCII case.
* `SigningMethod.ofName`, `SigningMethod.find`: the same with a failure, and with the standard
  method as a fallback.
-/

namespace RequestSigning

inductive SigningMethod where
  /-- The signature is the key itself. -/
  | plaintext
  | hmacMd5
  | hmacSha1
  | hmacSha256
  | hmacSha384
  | hmacSha512
deriving DecidableEq

namespace SigningMethod

/-- The method that is used when none is chosen. -/
def standard : SigningMethod := .hmacSha1

def all : List SigningMethod :=
  [.plaintext, .hmacMd5, .hmacSha1, .hmacSha256, .hmacSha384, .hmacSha512]

/-- The name that is sent with a request. -/
def wireName : SigningMethod → String
  | .plaintext => "PLAINTEXT"
  | .hmacMd5 => "HMAC-MD5"
  | .hmacSha1 => "HMAC-SHA1"
  | .hmacSha256 => "HMAC-SHA256"
  | .hmacSha384 => "HMAC-SHA384"
  | .hmacSha512 => "HMAC-SHA512"

/-- The name that is written in configuration. -/
def configName : SigningMethod → String
  | .plaintext => "PLAIN_TEXT"
  | .hmacMd5 => "HMAC_MD5"
  | .hmacSha1 => "HMAC_SHA1"
  | .hmacSha256 => "HMAC_SHA256"
  | .hmacSha384 => "HMAC_SHA384"
  | .hmacSha512 => "HMAC_SHA512"

/-- The form in which a method is shown. -/
def describe : SigningMethod → String
  | .plaintext => "PlainText"
  | .hmacMd5 => "HmacMd5"
  | .hmacSha1 => "HmacSha1"
  | .hmacSha256 => "HmacSha256"
  | .hmacSha384 => "HmacSha384"
  | .hmacSha512 => "HmacSha512"

/-- The bytes of a signature. -/
def digest : SigningMethod → (key text : List UInt8) → List UInt8
  | .plaintext, key, _ => key
  | .hmacMd5, key, text => Hash.md5.hmac key text
  | .hmacSha1, key, text => Hash.sha1.hmac key text
  | .hmacSha256, key, text => Hash.sha256.hmac key text
  | .hmacSha384, key, text => Hash.sha384.hmac key text
  | .hmacSha512, key, text => Hash.sha512.hmac key text

/-- Whether one of the names of a method is `name` up to ASCII case. -/
def answersTo (m : SigningMethod) (name : String) : Bool :=
  Text.sameAscii m.wireName name || Text.sameAscii m.configName name

/-- The method of a name, up to white space around it and ASCII case. -/
def named? (name : String) : Option SigningMethod :=
  all.find? (·.answersTo (Text.trim name))

def ofName (name : String) : Except Failure SigningMethod :=
  match named? name with
  | some m => .ok m
  | none => .error (Failure.of (.unknownMethod (Text.trim name)))

/-- The method of a name, or the standard method for a name that none has. Such a name is noted
unless it is blank. -/
def find (name : String) : Outcome SigningMethod :=
  match named? name with
  | some m => pure m
  | none => ⟨.ok standard, if Text.isBlank name then [] else [.unknownMethod name]⟩

@[simp] theorem mem_all (m : SigningMethod) : m ∈ all := by
  cases m <;> decide

@[simp] theorem result_find (name : String) :
    (find name).result = .ok ((named? name).getD standard) := by
  unfold find
  cases named? name <;> rfl

end SigningMethod

end RequestSigning
