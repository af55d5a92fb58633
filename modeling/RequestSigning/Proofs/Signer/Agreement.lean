import RequestSigning.Proofs.Blank
import RequestSigning.Proofs.Http.FieldValue
import RequestSigning.Proofs.Outcome
import RequestSigning.Proofs.Signer.Results

/-!
# Message signers and request signers

A message signer makes its header before there is a request. A request signer that is bound to the
same message makes the header for the request itself. The two take the profile on different ways,
and here they are shown to agree.

* `MessageSigner.counterpart`, `MessageSigner.request`: the request signer for the message, and the
  request that the message is sent with.
* `MessageSigner.check_of_address`: a signer that has an address and a method for a message has
  none of its templates blank.
* `MessageSigner.result_header_eq`: both headers are the same, and so are the failures.
* `MessageSigner.sign_agrees`: what this means for signing.
-/

namespace RequestSigning

namespace MessageSigner

/-- The request signer with the profile and the time of a message signer. It is bound to the
message, and its additional data is the form that the message has. -/
def counterpart (s : MessageSigner) (m : Message) : HttpSigner where
  profile := s.profile
  message := some m
  additional := s.formPairs m
  time := s.time

/-- The request that a message is sent with, to a given address and with any fields. -/
def request (s : MessageSigner) (m : Message) (url : Uri) (fields : List Http.Field) :
    Http.Request :=
  ⟨m.fill s.httpMethod, url, fields⟩

variable {s : MessageSigner} {h : Host} {m : Message} {url : Uri}

/-! ### Nothing is blank -/

theorem parse_of_address {text : String} (h : address text = .ok url) :
    Uri.parse text = .ok url :=
  Outcome.mapError_eq_ok_iff.mp h

/-- A template that is filled to an address is not blank. -/
theorem isBlank_url (haddress : address (m.fill s.url) = .ok url) :
    Text.isBlank s.url = false := by
  rw [Bool.eq_false_iff]
  intro hblank
  rw [m.fill_of_isBlank hblank] at haddress
  have hnot := Uri.isBlank_of_parse (parse_of_address haddress)
  rw [hblank] at hnot
  exact absurd hnot (by simp)

/-- A template that is filled to a method is not blank. -/
theorem isBlank_httpMethod (hmethod : Http.isToken (m.fill s.httpMethod) = true) :
    Text.isBlank s.httpMethod = false := by
  rw [Bool.eq_false_iff]
  intro hblank
  rw [m.fill_of_isBlank hblank] at hmethod
  have hnot := Http.isBlank_of_isToken hmethod
  rw [hblank] at hnot
  exact absurd hnot (by simp)

theorem check_of_address (haddress : address (m.fill s.url) = .ok url)
    (hmethod : Http.isToken (m.fill s.httpMethod) = true)
    (hkey : Text.isBlank s.targetKey = false) : s.check = .ok () := by
  rw [check, Required.check_of_not_blank _ (isBlank_url haddress),
    Required.check_of_not_blank _ (isBlank_httpMethod hmethod),
    Required.check_of_not_blank _ hkey]
  rfl

/-! ### The two headers -/

/-- What a draft is set to by a message signer is what it is set to by its counterpart. -/
theorem setAll_settings (d : Draft) (fields : List Http.Field) :
    (d.setAll [.method (m.fill s.httpMethod), .url url]).setAll (s.settings m) =
      d.setAll ((s.counterpart m).settings (s.request m url fields)) := by
  rw [← Draft.setAll_append]
  rfl

/-- A message signer whose time is fixed makes the header that its counterpart makes for the
request, and fails where that fails. -/
theorem result_header_eq {t : Instant} (htime : s.time = some t)
    (haddress : address (m.fill s.url) = .ok url)
    (hmethod : Http.isToken (m.fill s.httpMethod) = true)
    (hkey : Text.isBlank s.targetKey = false) (fresh : Message) (now now' : Instant)
    (fields : List Http.Field) :
    (s.header h now m).result =
      ((s.counterpart m).header h fresh now' (s.request m url fields) none).result := by
  have hcheck := check_of_address haddress hmethod hkey
  have hprofile : (s.counterpart m).profile.draft h ((s.counterpart m).message.getD fresh) =
      s.profile.draft h m := rfl
  rw [result_header hcheck haddress, HttpSigner.result_header_none, hprofile,
    Profile.result_draftFor]
  cases (s.profile.draft h m).result with
  | error f =>
    show (Except.error f : Except Failure String) = .error f
    rfl
  | ok d =>
    show (((d.setAll [.method (m.fill s.httpMethod), .url url]).setAll (s.settings m)).build
        now).result =
      ((d.setAll ((s.counterpart m).settings (s.request m url fields))).build now').result
    rw [build_settings htime m _ now now', setAll_settings d fields]

/-! ### Signing -/

/-- A message signer whose time is fixed fails exactly if the request signer with the same profile
fails, for the same reason, while it makes the header of the request. If it yields a header, then
that header becomes the only authorization field of the request, unless there is a byte in it that
no field value may have: such a request is refused. -/
theorem sign_agrees {t : Instant} (htime : s.time = some t)
    (haddress : address (m.fill s.url) = .ok url)
    (hmethod : Http.isToken (m.fill s.httpMethod) = true)
    (hkey : Text.isBlank s.targetKey = false) (fresh : Message) (now now' : Instant)
    (fields : List Http.Field) :
    let signer := s.counterpart m
    let r := s.request m url fields
    (∀ f, (s.sign h now m).result = .error f ↔
      (signer.header h fresh now' r none).result = .error f ∧
        (signer.sign h fresh now' r none).result = .error f) ∧
    ∀ header stored, (s.sign h now m).result = .ok (header, stored) →
      stored = m.insert s.targetKey header ∧
      stored.metadata.get? s.targetKey = some header ∧
      ((∀ b ∈ Utf8.bytes header.toList, Http.isFieldValueByte b = true) →
        ∃ signed, (signer.sign h fresh now' r none).result = .ok signed ∧
          HttpSigner.Authorized r header signed) ∧
      ((¬ ∀ b ∈ Utf8.bytes header.toList, Http.isFieldValueByte b = true) →
        ∃ f, (signer.sign h fresh now' r none).result = .error f ∧ f.kind = .request) := by
  intro signer r
  have heq : (s.header h now m).result = (signer.header h fresh now' r none).result :=
    result_header_eq htime haddress hmethod hkey fresh now now' fields
  rw [result_sign, heq]
  constructor
  · intro f
    constructor
    · intro hf
      have hheader : (signer.header h fresh now' r none).result = .error f :=
        Outcome.map_eq_error_iff.mp hf
      exact ⟨hheader, HttpSigner.result_sign_of_error hheader⟩
    · rintro ⟨hheader, -⟩
      exact Outcome.map_eq_error_iff.mpr hheader
  · intro header stored hok
    obtain ⟨header', hheader, hpair⟩ := Outcome.map_eq_ok_iff.mp hok
    obtain ⟨rfl, rfl⟩ := Prod.mk.inj hpair
    refine ⟨rfl, m.get?_insert_self _ _, fun hbytes => ?_, fun hbytes => ?_⟩
    · have hvalue : Http.isFieldValue header' = true := (Http.isFieldValue_iff_bytes _).mpr hbytes
      exact ⟨_, HttpSigner.result_sign_of_allowed hheader hvalue,
        HttpSigner.authorized_replace r header'⟩
    · have hvalue : Http.isFieldValue header' = false := by
        rw [Bool.eq_false_iff]
        intro hvalue
        exact hbytes ((Http.isFieldValue_iff_bytes _).mp hvalue)
      exact ⟨Failure.badFieldValue, HttpSigner.result_sign_of_not_allowed hheader hvalue, rfl⟩

/-- A signer whose address, method and nonce are taken from the message. -/
def templateSigner (t : Instant) : MessageSigner where
  profile :=
    { text := fun
        | .consumerKey => some "k"
        | .consumerSecret => some "s"
        | .nonce => some "%message{n}"
        | .signingMethod => some "PLAINTEXT"
        | _ => none }
  url := "http://%message{host}/"
  httpMethod := "%message{verb}"
  targetKey := "Authorization"
  time := some t

/-- A message with the parts of an address and with a value for the nonce. -/
def partsMessage (nonce : String) : Message where
  uniqueId := "id-1"
  metadata := Table.ofList [("host", "h"), ("verb", "PUT"), ("n", nonce)]

/-- The header of that message. -/
def partsHeader (nonce : String) : String :=
  "OAuth oauth_consumer_key=\"k\", oauth_nonce=\"" ++ nonce ++ "\", " ++
    "oauth_signature=\"cyY%3D\", oauth_signature_method=\"PLAINTEXT\", " ++
    "oauth_timestamp=\"1\", oauth_version=\"1.0\", realm=\"\""

/-- Fields of a request that was signed before. -/
def earlierFields : List Http.Field :=
  [⟨"accept", "*", false⟩, ⟨HttpSigner.fieldName, "OAuth", true⟩, ⟨"accept", "text", false⟩]

/-- With a plain nonce the header takes the place of the earlier one, and the other fields stay.
With a line break in the nonce there is a header too, but the request is refused. -/
theorem sign_agrees_nonces :
    let signer := templateSigner ⟨1, 0⟩
    let url : Uri := ⟨some "http", some "h", "/", none⟩
    let signed (nonce : String) := ((signer.counterpart (partsMessage nonce)).sign {}
      (partsMessage nonce) ⟨2, 0⟩ (signer.request (partsMessage nonce) url earlierFields) none)
    (∀ nonce ∈ ["ab", "a\nb"],
      address ((partsMessage nonce).fill signer.url) = .ok url ∧
        Http.isToken ((partsMessage nonce).fill signer.httpMethod) = true ∧
        Text.isBlank signer.targetKey = false ∧
        (signer.sign {} ⟨0, 0⟩ (partsMessage nonce)).result =
          .ok (partsHeader nonce,
            (partsMessage nonce).insert "Authorization" (partsHeader nonce))) ∧
      (∃ r, (signed "ab").result = .ok r ∧
        r.named "authorization" = [⟨"authorization", partsHeader "ab", true⟩] ∧
        r.named "accept" = [⟨"accept", "*", false⟩, ⟨"accept", "text", false⟩] ∧
        r.method = "PUT" ∧ r.uri = url) ∧
      ∃ f, (signed "a\nb").result = .error f ∧ f.kind = .request := by
  intro signer url signed
  have haddress : ∀ nonce ∈ ["ab", "a\nb"],
      address ((partsMessage nonce).fill signer.url) = .ok url := by
    intro nonce hnonce
    rcases List.mem_pair.mp hnonce with rfl | rfl <;>
      exact Outcome.eq_ok_of_toOption (by decide +kernel)
  have hmethod : ∀ nonce ∈ ["ab", "a\nb"],
      (partsMessage nonce).fill signer.httpMethod = "PUT" := by
    intro nonce hnonce
    rcases List.mem_pair.mp hnonce with rfl | rfl <;> decide +kernel
  have hsign : ∀ nonce ∈ ["ab", "a\nb"], (signer.sign {} ⟨0, 0⟩ (partsMessage nonce)).result =
      .ok (partsHeader nonce, (partsMessage nonce).insert "Authorization" (partsHeader nonce)) := by
    intro nonce hnonce
    rcases List.mem_pair.mp hnonce with rfl | rfl <;>
      exact Outcome.eq_ok_of_toOption (by decide +kernel)
  have htoken : Http.isToken "PUT" = true := by decide
  have hagrees (nonce : String) (hnonce : nonce ∈ ["ab", "a\nb"]) :=
    (sign_agrees (s := signer) (h := {}) (m := partsMessage nonce) (t := ⟨1, 0⟩) rfl
      (haddress nonce hnonce) ((hmethod nonce hnonce).symm ▸ htoken) (by decide)
      (partsMessage nonce) ⟨0, 0⟩ ⟨2, 0⟩ earlierFields).2 _ _ (hsign nonce hnonce)
  obtain ⟨-, -, hsigned, -⟩ := hagrees "ab" (by decide)
  obtain ⟨-, -, -, hrefused⟩ := hagrees "a\nb" (by decide)
  have hplain : ∀ b ∈ Utf8.bytes (partsHeader "ab").toList, Http.isFieldValueByte b = true := by
    rw [← Http.isFieldValue_iff_bytes]
    decide +kernel
  have hbreak : ¬ ∀ b ∈ Utf8.bytes (partsHeader "a\nb").toList, Http.isFieldValueByte b = true := by
    rw [← Http.isFieldValue_iff_bytes]
    decide +kernel
  obtain ⟨r, hr, hauthorized⟩ := hsigned hplain
  refine ⟨fun nonce hnonce => ⟨haddress nonce hnonce, ?_, by decide, hsign nonce hnonce⟩,
    ⟨r, hr, hauthorized.named, ?_, ?_, hauthorized.uri⟩, hrefused hbreak⟩
  · rw [hmethod nonce hnonce]
    exact htoken
  · rw [hauthorized.others "accept" (by decide)]
    decide
  · rw [hauthorized.method]
    exact hmethod "ab" (by decide)

end MessageSigner

end RequestSigning
