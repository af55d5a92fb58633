import RequestSigning.Proofs.Draft.Supplied
import RequestSigning.Proofs.Signer.Results

/-!
# What secrets have an influence on

A request is signed twice, with two credentials that name the same consumer and the same token but
have other secrets. Both runs are followed side by side: they note the same events, they sign the
same text, and what they yield differs in the signature only.

* `Draft.OtherSecrets`: two drafts that differ in their secrets at most.
* `Header.OtherSignature`: two headers that differ in their signatures at most.
* `HttpSigner.sign_hides_secrets`: what two such credentials have in common.
-/

namespace RequestSigning

open Outcome

/-! ### Headers with other signatures -/

/-- Parameters with the same names, and with the same values but that of the signature. -/
structure Header.OtherSignature (params₁ params₂ : Dictionary) : Prop where
  names : params₁.entries.map (·.1) = params₂.entries.map (·.1)
  values : ∀ name, name ≠ Protocol.signature → params₁.get? name = params₂.get? name

/-! ### Drafts with other secrets -/

namespace Draft

/-- The second draft is the first one with other secrets. Neither has a blank consumer secret. -/
inductive OtherSecrets : Draft → Draft → Prop
  | replaced (d : Draft) (secret tokenSecret : String)
      (hfirst : Text.isBlank d.consumerSecret = false) (hsecond : Text.isBlank secret = false) :
      OtherSecrets d (d.setAll [.consumerSecret secret, .tokenSecret tokenSecret])

variable {d₁ d₂ : Draft}

theorem OtherSecrets.check_eq (h : OtherSecrets d₁ d₂) : d₂.check = d₁.check := by
  cases h with
  | replaced secret tokenSecret hfirst hsecond =>
    show check { d₁ with consumerSecret := secret, tokenSecret := tokenSecret } = d₁.check
    simp only [check, Required.check_of_not_blank _ hfirst, Required.check_of_not_blank _ hsecond]

/-- Neither the base text nor the failure to have one depends on the secrets. -/
theorem OtherSecrets.baseText_eq (h : OtherSecrets d₁ d₂) (timestamp : String) :
    d₂.baseText timestamp = d₁.baseText timestamp := by
  rw [baseText, baseText, h.check_eq]
  cases h
  rfl

theorem OtherSecrets.headerEntries_eq (h : OtherSecrets d₁ d₂) (timestamp signature : String) :
    d₂.headerEntries timestamp signature = d₁.headerEntries timestamp signature := by
  cases h
  rfl

/-- The names of a header do not depend on its signature. -/
theorem map_headerEntries_eq (d : Draft) (timestamp signature signature' : String) :
    (d.headerEntries timestamp signature).map (·.1) =
      (d.headerEntries timestamp signature').map (·.1) := by
  simp only [headerEntries, List.map_append, List.map_cons]

/-- Besides the signature, a header carries what is sent and the realm. -/
theorem get?_headerParams (d : Draft) (timestamp base : String) {name : String}
    (hname : name ≠ Protocol.signature) :
    (d.headerParams timestamp base).get? name =
      if Protocol.realm = name then some d.realm else (d.sentParams timestamp).get? name := by
  rw [Draft.headerParams, Dictionary.get?_insert, Dictionary.get?_insert, if_neg (Ne.symm hname)]

/-- Other secrets make another signature and leave the other parameters as they are. -/
theorem OtherSecrets.otherSignature (h : OtherSecrets d₁ d₂) {url : Uri}
    (hcheck : d₁.check = .ok url) (t : Instant) (base : String) :
    Header.OtherSignature (d₁.headerParams t.unixText base) (d₂.headerParams t.unixText base) := by
  constructor
  · rw [entries_headerParams hcheck (isBlank_unixText t),
      entries_headerParams (h.check_eq.trans hcheck) (isBlank_unixText t), h.headerEntries_eq]
    exact d₁.map_headerEntries_eq _ _ _
  · intro name hname
    rw [get?_headerParams d₁ _ _ hname, get?_headerParams d₂ _ _ hname]
    cases h
    rfl

theorem OtherSecrets.suppliedEntries_eq (h : OtherSecrets d₁ d₂) :
    d₂.suppliedEntries = d₁.suppliedEntries := by
  cases h
  rfl

/-- With other secrets a header stays allowed as the value of a field, or stays refused. -/
theorem OtherSecrets.isFieldValue_eq (h : OtherSecrets d₁ d₂) {url : Uri}
    (hcheck : d₁.check = .ok url) (t : Instant) (base : String) :
    Http.isFieldValue (Header.write (d₂.headerParams t.unixText base)) =
      Http.isFieldValue (Header.write (d₁.headerParams t.unixText base)) := by
  rw [Bool.eq_iff_iff, isFieldValue_write_iff hcheck,
    isFieldValue_write_iff (h.check_eq.trans hcheck), h.suppliedEntries_eq]

end Draft

/-- Two headers of such parameters, which are both allowed as values of a field or both refused. -/
def Header.OtherwiseSame (header₁ header₂ : String) : Prop :=
  ∃ params₁ params₂, OtherSignature params₁ params₂ ∧
    header₁ = write params₁ ∧ header₂ = write params₂ ∧
    Http.isFieldValue header₂ = Http.isFieldValue header₁

theorem Draft.OtherSecrets.time_eq {d₁ d₂ : Draft} (h : OtherSecrets d₁ d₂) :
    d₂.time = d₁.time := by
  cases h
  rfl

/-- At a fixed instant both drafts note the same base text and make such headers of it. -/
theorem Draft.OtherSecrets.build_alike {d₁ d₂ : Draft} (h : OtherSecrets d₁ d₂) {t : Instant}
    (ht : d₁.time = some t) (now₁ now₂ : Instant) :
    Alike Header.OtherwiseSame (d₁.build now₁) (d₂.build now₂) := by
  rw [build, build, instant_of_time ht, instant_of_time (h.time_eq.trans ht), h.baseText_eq]
  refine alike_bind_self _ fun base hbase => ?_
  refine alike_bind_self _ fun _ _ => ?_
  obtain ⟨url, hcheck, -⟩ := (d₁.baseText_eq_ok_iff _ base).mp hbase
  exact alike_pure ⟨_, _, h.otherSignature hcheck t base, rfl, rfl, h.isFieldValue_eq hcheck t base⟩

/-! ### Credentials with other secrets -/

/-- Two credentials for one consumer and one token, neither with a blank consumer secret. -/
structure Credential.OtherSecrets (c₁ c₂ : Credential) : Prop where
  consumerKey : c₁.consumerKey = c₂.consumerKey
  accessToken : c₁.accessToken = c₂.accessToken
  first : Text.isBlank c₁.consumerSecret = false
  second : Text.isBlank c₂.consumerSecret = false

theorem Profile.draftWith_alike {c₁ c₂ : Credential} (hc : c₁.OtherSecrets c₂) (p : Profile)
    (m : MessageView) : Alike Draft.OtherSecrets (p.draftWith m c₁) (p.draftWith m c₂) := by
  have hvalid : c₂.isValid = c₁.isValid := by
    rw [Credential.isValid, Credential.isValid, hc.consumerKey, hc.first, hc.second]
  rw [draftWith, draftWith, hvalid, hc.consumerKey, hc.accessToken]
  refine alike_bind_self _ fun _ _ => ?_
  refine alike_bind_self _ fun nonce _ => ?_
  refine alike_bind_self _ fun signingMethod _ => ?_
  refine alike_bind_self _ fun _ _ => ?_
  refine alike_bind_self _ fun realm _ => ?_
  refine alike_bind_self _ fun verifier _ => ?_
  exact alike_pure (.replaced _ c₂.consumerSecret (c₂.tokenSecret.getD "") hc.first hc.second)

/-! ### Signers -/

namespace HttpSigner

/-- The text that a signer signs for a request with a given credential, at a given instant. -/
def baseText (s : HttpSigner) (m : MessageView) (t : Instant) (r : Http.Request) (c : Credential) :
    Except Failure String :=
  (s.profile.draftWith m c).result.bind fun d =>
    (d.setAll (s.settings r)).baseText t.unixText

theorem otherSecrets_settings {d₁ d₂ : Draft} (h : Draft.OtherSecrets d₁ d₂) (s : HttpSigner)
    (r : Http.Request) :
    Draft.OtherSecrets (d₁.setAll (s.settings r)) (d₂.setAll (s.settings r)) := by
  cases h with
  | replaced secret tokenSecret hfirst hsecond =>
    rw [settings]
    cases s.time with
    | none => exact .replaced (d₁.setAll _) secret tokenSecret hfirst hsecond
    | some t => exact .replaced (d₁.setAll _) secret tokenSecret hfirst hsecond

variable {s : HttpSigner} {m : MessageView} {t : Instant} {c₁ c₂ : Credential}

theorem baseText_eq (hc : c₁.OtherSecrets c₂) (r : Http.Request) :
    s.baseText m t r c₁ = s.baseText m t r c₂ := by
  rw [baseText, baseText]
  rcases (s.profile.draftWith_alike hc m).result with ⟨f, h₁, h₂⟩ | ⟨d₁, d₂, h₁, h₂, hd⟩
  · rw [h₁, h₂]
  · rw [h₁, h₂]
    exact ((otherSecrets_settings hd s r).baseText_eq t.unixText).symm

/-- A base text is noted before it is signed. -/
theorem signing_mem_log {c : Credential} {r : Http.Request} {base : String}
    (hm : s.message = some m) (ht : s.time = some t) (hbase : s.baseText m t r c = .ok base)
    (h : Host) (fresh : Message) (now : Instant) :
    .signing base ∈ (s.sign h fresh now r (some c)).log := by
  obtain ⟨d, hd, hdbase⟩ := bind_eq_ok_iff.mp hbase
  refine mem_log_bind_of_mem ?_ _
  rw [header_some, hm]
  refine mem_log_bind_of_ok hd ?_
  rw [Draft.build, Draft.instant_of_time (time_setAll_settings ht d r)]
  refine mem_log_bind_of_ok (x := ofExcept _) hdbase ?_
  exact mem_log_bind_of_mem (List.mem_singleton_self _) _

/-- A request is signed as soon as it has a text to sign and the supplied values are allowed as the
value of a field. -/
theorem exists_signed {c : Credential} {r : Http.Request} {d : Draft} {base : String}
    (hm : s.message = some m) (ht : s.time = some t)
    (hd : (s.profile.draftWith m c).result = .ok d)
    (hbase : (d.setAll (s.settings r)).baseText t.unixText = .ok base)
    (hsupplied : ∀ e ∈ (d.setAll (s.settings r)).suppliedEntries, Http.isFieldValue e.2 = true)
    (h : Host) (fresh : Message) (now : Instant) :
    ∃ signed, (s.sign h fresh now r (some c)).result = .ok signed := by
  obtain ⟨url, hcheck, -⟩ := (Draft.baseText_eq_ok_iff _ _ base).mp hbase
  have hheader : (s.header h fresh now r (some c)).result =
      .ok (Header.write ((d.setAll (s.settings r)).headerParams t.unixText base)) := by
    rw [header_some, hm]
    refine (result_bind_of_ok (x := s.profile.draftWith m c) hd _).trans ?_
    rw [Draft.result_build, Draft.instant_of_time (time_setAll_settings ht d r), hbase]
    rfl
  exact ⟨_, result_sign_of_allowed hheader
    ((Draft.isFieldValue_write_iff hcheck t base).mpr hsupplied)⟩

theorem header_alike (hc : c₁.OtherSecrets c₂) (hm : s.message = some m) (ht : s.time = some t)
    (h : Host) (fresh₁ fresh₂ : Message) (now₁ now₂ : Instant) (r : Http.Request) :
    Alike Header.OtherwiseSame (s.header h fresh₁ now₁ r (some c₁))
      (s.header h fresh₂ now₂ r (some c₂)) := by
  rw [header_some, header_some, hm]
  refine (s.profile.draftWith_alike hc m).bind fun d₁ d₂ hd => ?_
  exact (otherSecrets_settings hd s r).build_alike (time_setAll_settings ht d₁ r) now₁ now₂

/-- What two such headers become: the same request with one or the other of them, or the same
failure. -/
theorem field_alike {header₁ header₂ : String}
    (h : Http.isFieldValue header₂ = Http.isFieldValue header₁) :
    Alike (fun f₁ f₂ => f₁ = ⟨fieldName, header₁, true⟩ ∧ f₂ = ⟨fieldName, header₂, true⟩)
      (ofExcept (field header₁)) (ofExcept (field header₂)) := by
  rw [field, field, h]
  cases Http.isFieldValue header₁ with
  | false => exact ⟨rfl, .inl ⟨Failure.badFieldValue, rfl, rfl⟩⟩
  | true => exact ⟨rfl, .inr ⟨_, _, rfl, rfl, rfl, rfl⟩⟩

/-- Two credentials that differ in their secrets only are told apart by the signature and by nothing
else: signing notes the same events with both, fails in the same way, and signs the same text. If it
does not fail, the two requests have headers as authorization fields that differ in the signature at
most. -/
theorem sign_hides_secrets (hm : s.message = some m) (ht : s.time = some t)
    (hc : c₁.OtherSecrets c₂) (h : Host) (fresh₁ fresh₂ : Message) (now₁ now₂ : Instant)
    (r : Http.Request) :
    let x₁ := s.sign h fresh₁ now₁ r (some c₁)
    let x₂ := s.sign h fresh₂ now₂ r (some c₂)
    x₁.log = x₂.log ∧
    s.baseText m t r c₁ = s.baseText m t r c₂ ∧
    (∀ base, s.baseText m t r c₁ = .ok base → .signing base ∈ x₁.log) ∧
    ((∃ f, x₁.result = .error f ∧ x₂.result = .error f) ∨
      ∃ params₁ params₂ r₁ r₂, Header.OtherSignature params₁ params₂ ∧
        x₁.result = .ok r₁ ∧ Authorized r (Header.write params₁) r₁ ∧
        x₂.result = .ok r₂ ∧ Authorized r (Header.write params₂) r₂ ∧
        r₁ = r.replace ⟨fieldName, Header.write params₁, true⟩ ∧
        r₂ = r.replace ⟨fieldName, Header.write params₂, true⟩) := by
  intro x₁ x₂
  have hsign : Alike (fun r₁ r₂ => ∃ params₁ params₂, Header.OtherSignature params₁ params₂ ∧
      r₁ = r.replace ⟨fieldName, Header.write params₁, true⟩ ∧
      r₂ = r.replace ⟨fieldName, Header.write params₂, true⟩) x₁ x₂ := by
    refine (header_alike hc hm ht h fresh₁ fresh₂ now₁ now₂ r).bind ?_
    rintro header₁ header₂ ⟨params₁, params₂, hparams, rfl, rfl, hvalue⟩
    refine (field_alike hvalue).bind ?_
    rintro f₁ f₂ ⟨rfl, rfl⟩
    exact alike_pure ⟨params₁, params₂, hparams, rfl, rfl⟩
  refine ⟨hsign.log, baseText_eq hc r, fun base hbase => signing_mem_log hm ht hbase h _ _, ?_⟩
  rcases hsign.result with hfail | ⟨r₁, r₂, h₁, h₂, params₁, params₂, hparams, rfl, rfl⟩
  · exact .inl hfail
  · exact .inr ⟨params₁, params₂, _, _, hparams, h₁, authorized_replace r _, h₂,
      authorized_replace r _, rfl, rfl⟩

/-- A message without metadata. -/
def boundMessage : Message :=
  ⟨"id-1", Table.empty⟩

/-- A signer that is bound to a message and to an instant. -/
def boundSigner (t : Instant) : HttpSigner where
  profile := {}
  message := some boundMessage
  time := some t

/-- The credential of a consumer with a token. -/
def tokenCredential (secret tokenSecret : String) : Credential :=
  ⟨"k", secret, some "t", some tokenSecret⟩

/-- Both requests are signed, and the text that is signed is noted for both. -/
theorem sign_hides_secrets_bound :
    let s := boundSigner ⟨1, 0⟩
    let r : Http.Request := ⟨"GET", ⟨some "http", some "h", "/", none⟩, []⟩
    let base := "GET&http%3A%2F%2Fh%2F&oauth_consumer_key%3Dk%26oauth_nonce%3Did1" ++
      "%26oauth_signature_method%3DHMAC-SHA1%26oauth_timestamp%3D1%26oauth_token%3Dt" ++
      "%26oauth_version%3D1.0"
    let x₁ := s.sign {} ⟨"id-2", Table.empty⟩ ⟨0, 0⟩ r (some (tokenCredential "a" "b"))
    let x₂ := s.sign {} ⟨"id-3", Table.empty⟩ ⟨5, 0⟩ r (some (tokenCredential "c" "d"))
    (tokenCredential "a" "b").OtherSecrets (tokenCredential "c" "d") ∧
      x₁.log = x₂.log ∧ .signing base ∈ x₁.log ∧
      s.baseText boundMessage ⟨1, 0⟩ r (tokenCredential "c" "d") = .ok base ∧
      ∃ params₁ params₂ r₁ r₂, Header.OtherSignature params₁ params₂ ∧
        x₁.result = .ok r₁ ∧
        r₁.named fieldName = [⟨fieldName, Header.write params₁, true⟩] ∧
        x₂.result = .ok r₂ ∧
        r₂.named fieldName = [⟨fieldName, Header.write params₂, true⟩] := by
  intro s r base x₁ x₂
  have hc : (tokenCredential "a" "b").OtherSecrets (tokenCredential "c" "d") := by
    constructor <;> decide
  have hd : (s.profile.draftWith boundMessage (tokenCredential "a" "b")).result =
      .ok (s.profile.settled boundMessage (tokenCredential "a" "b")) := by
    rw [Profile.result_draftWith]
    rfl
  have hbase : s.baseText boundMessage ⟨1, 0⟩ r (tokenCredential "a" "b") = .ok base :=
    eq_ok_of_toOption (by decide +kernel)
  have hsupplied : ((s.profile.settled boundMessage (tokenCredential "a" "b")).setAll
      (s.settings r)).suppliedEntries.all (fun e => Http.isFieldValue e.2) = true := by
    decide +kernel
  have hdraft : ((s.profile.settled boundMessage (tokenCredential "a" "b")).setAll
      (s.settings r)).baseText (Instant.unixText ⟨1, 0⟩) = .ok base := by
    rw [← hbase, baseText, hd]
    rfl
  obtain ⟨signed, hok⟩ : ∃ signed, x₁.result = .ok signed :=
    exists_signed rfl rfl hd hdraft (List.all_eq_true.mp hsupplied) {} _ _
  obtain ⟨hlog, heq, hnoted, hresult⟩ := sign_hides_secrets (s := s) (t := ⟨1, 0⟩) rfl rfl hc {}
    ⟨"id-2", Table.empty⟩ ⟨"id-3", Table.empty⟩ ⟨0, 0⟩ ⟨5, 0⟩ r
  refine ⟨hc, hlog, hnoted base hbase, heq.symm.trans hbase, ?_⟩
  rcases hresult with ⟨f, hf, -⟩ | ⟨params₁, params₂, r₁, r₂, hparams, h₁, hr₁, h₂, hr₂, -⟩
  · exact absurd (hok.symm.trans hf) (by simp)
  · exact ⟨params₁, params₂, r₁, r₂, hparams, h₁, hr₁.named, h₂, hr₂.named⟩

end HttpSigner

end RequestSigning
