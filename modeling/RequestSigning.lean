import RequestSigning.Profile.Document
import RequestSigning.Signer.Http
import RequestSigning.Signer.Message
import RequestSigning.Uuid
import RequestSigning.Proofs.Joined
import RequestSigning.Proofs.Draft.Parameters
import RequestSigning.Proofs.Draft.Header
import RequestSigning.Proofs.Draft.Signed
import RequestSigning.Proofs.Encoded
import RequestSigning.Proofs.Letters
import RequestSigning.Proofs.Draft.BaseText
import RequestSigning.Proofs.Profile.Draft
import RequestSigning.Proofs.Template
import RequestSigning.Proofs.Profile.Filled
import RequestSigning.Proofs.Outcome
import RequestSigning.Proofs.Http.FieldValue
import RequestSigning.Proofs.Blank
import RequestSigning.Proofs.Signer.Results
import RequestSigning.Proofs.Signer.Agreement
import RequestSigning.Proofs.Signer.Failures
import RequestSigning.Proofs.Signer.Runs
import RequestSigning.Proofs.Header.Reading
import RequestSigning.Proofs.Draft.Supplied
import RequestSigning.Proofs.Signer.Secrets
import RequestSigning.Proofs.Signer.Injection
import RequestSigning.Proofs.Params
import RequestSigning.Proofs.Profile.Header
import RequestSigning.Proofs.Profile.Nonce
import RequestSigning.Proofs.Signer.Override
import RequestSigning.Proofs.Header.RoundTrip
import RequestSigning.Proofs.Uri.Base
import RequestSigning.Proofs.Draft.Order
import RequestSigning.Proofs.Signer.Feedback
import RequestSigning.Proofs.Template.Scan
import RequestSigning.Proofs.Form
import RequestSigning.Proofs.Profile.Credential
import RequestSigning.Proofs.Signer.FormFields
import RequestSigning.Proofs.Uri.Port
import RequestSigning.Proofs.Header.Grammar
import RequestSigning.Proofs.Masked
import RequestSigning.Proofs.Profile.Variables
import RequestSigning.Proofs.SigningMethod
import RequestSigning.Proofs.Signer.SigningMethod
