import RequestSigning.Header.Fault
import RequestSigning.Text.Blank
import RequestSigning.Uri.Basic
/-!
# Failures

A failure has a reason, which settles its kind and its message, and the texts of the failures that
caused it, the nearest first.

* `Failure.Kind`: the five kinds of failure.
* `Required`: what must not be blank, and `Required.check`, which refuses blank text.
* `Failure.Reason`: what can go wrong, with `Reason.kind` and `Reason.message`.
* `Failure`: a reason with its causes, and `Failure.text`, the line that is shown.
-/

namespace RequestSigning

/-- What must not be blank when something is signed. -/
inductive Required where
  /-- The consumer key that a profile resolves to. -/
  | consumerKey
  /-- The consumer secret that a profile resolves to. -/
  | consumerSecret
  /-- The two consumer fields of a given credential. -/
  | credential
  /-- The consumer key of a draft. -/
  | draftConsumerKey
  /-- The consumer secret of a draft. -/
  | draftConsumerSecret
  /-- The nonce of a draft. -/
  | nonce
  /-- The request method of a draft. -/
  | method
  /-- The address template of a message signer. -/
  | addressTemplate
  /-- The method template of a message signer. -/
  | methodTemplate
  /-- The metadata key a message signer writes to. -/
  | targetKey
deriving DecidableEq

def Required.name : Required → String
  | .consumerKey => "consumer key"
  | .consumerSecret => "consumer secret"
  | .credential => "consumer key and consumer secret"
  | .draftConsumerKey => "consumer_key"
  | .draftConsumerSecret => "consumer_secret"
  | .nonce => "nonce"
  | .method => "method"
  | .addressTemplate => "url"
  | .methodTemplate => "http method"
  | .targetKey => "target key"

namespace Failure

inductive Kind where
  | configuration
  | encoding
  | credential
  | request
  | unexpected
deriving DecidableEq

def Kind.text : Kind → String
  | .configuration => "invalid configuration"
  | .encoding => "invalid encoding"
  | .credential => "invalid credentials"
  | .request => "invalid request"
  | .unexpected => "unexpected error"

inductive Reason where
  /-- Something required is blank. -/
  | blank (what : Required)
  /-- A draft has no address. -/
  | missingAddress
  /-- The decoder of secrets refused one. -/
  | undecodableSecret
  /-- No signing method has this name. -/
  | unknownMethod (name : String)
  /-- The address written so has no scheme. -/
  | noScheme (address : String)
  /-- The address written so has no host. -/
  | noHost (address : String)
  /-- A text is no address, or parts do not make one. -/
  | badAddress (fault : Uri.Fault)
  /-- A text is no authorization header. -/
  | badHeader (fault : Header.Fault)
  /-- A text is not allowed as the value of a header field. -/
  | badFieldValue
  /-- A cause that is known by its kind and its text only. -/
  | other (kind : Kind) (message : String)
deriving DecidableEq

def Reason.kind : Reason → Kind
  | .blank _ => .configuration
  | .missingAddress => .configuration
  | .undecodableSecret => .configuration
  | .unknownMethod _ => .configuration
  | .noScheme _ => .encoding
  | .noHost _ => .encoding
  | .badAddress _ => .encoding
  | .badHeader _ => .request
  | .badFieldValue => .request
  | .other kind _ => kind

def Reason.message : Reason → String
  | .blank what => what.name ++ " must not be blank"
  | .missingAddress => "url is required"
  | .undecodableSecret => "secret could not be decoded"
  | .unknownMethod name => "unsupported signature method: " ++ name
  | .noScheme address => "url " ++ address ++ " has no scheme"
  | .noHost address => "url " ++ address ++ " has no host"
  | .badAddress fault => fault.text
  | .badHeader fault => fault.text
  | .badFieldValue => "failed to parse header value"
  | .other _ message => message

end Failure

/-- A reason and the texts of its causes, the nearest first. -/
structure Failure where
  reason : Failure.Reason
  causes : List String
deriving DecidableEq

namespace Failure

def kind (f : Failure) : Kind := f.reason.kind

def message (f : Failure) : String := f.reason.message

/-- The line that is shown for a failure. -/
def text (f : Failure) : String :=
  f.kind.text ++ ": " ++ f.message

/-- Failures of configuration and credentials are raised before anything is digested. -/
def isConfiguration (f : Failure) : Bool :=
  f.kind = .configuration || f.kind = .credential

/-! ### Making failures -/

/-- A failure without a cause. -/
def of (reason : Reason) : Failure := ⟨reason, []⟩

def blank (what : Required) : Failure := of (.blank what)

/-- The failure with one cause that is known by its text, in place of any earlier cause. -/
def withCause (f : Failure) (cause : String) : Failure := ⟨f.reason, [cause]⟩

/-- The failure with another failure and its causes as its cause. -/
def causedBy (f cause : Failure) : Failure := ⟨f.reason, cause.text :: cause.causes⟩

/-- A failure that passes on the text of its cause as its own. -/
def passingOn (reason : Reason) : Failure := ⟨reason, [reason.message]⟩

def ofAddressFault (fault : Uri.Fault) : Failure := passingOn (.badAddress fault)

def badFieldValue : Failure := passingOn .badFieldValue

/-- A failure outside this library, known by its text. -/
def unexpected (message : String) : Failure := passingOn (.other .unexpected message)

/-- Text could not be composed. -/
def formatting : Failure := unexpected "an error occurred when formatting an argument"

end Failure

/-- Refuses blank text. -/
def Required.check (what : Required) (s : String) : Except Failure Unit :=
  if Text.isBlank s then .error (Failure.blank what) else .ok ()

theorem Required.check_eq_ok_iff (what : Required) (s : String) (u : Unit) :
    what.check s = .ok u ↔ Text.isBlank s = false := by
  unfold Required.check
  cases Text.isBlank s <;> simp

theorem Required.check_of_blank (what : Required) {s : String} (h : Text.isBlank s = true) :
    what.check s = .error (Failure.blank what) := by
  rw [Required.check, if_pos h]

theorem Required.check_of_not_blank (what : Required) {s : String} (h : Text.isBlank s = false) :
    what.check s = .ok () := by
  rw [Required.check, h]
  rfl

end RequestSigning
