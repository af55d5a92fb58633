import RequestSigning.Proofs.Draft.Header
import RequestSigning.Proofs.Outcome
import RequestSigning.Proofs.Profile.Draft
import RequestSigning.Signer.Http
import RequestSigning.Signer.Message

/-!
# What signers yield

A signer makes a header first and stores it then. Here its result is told by the header alone, and
so is the state that it leaves when it works in place.

* `MessageSigner.exists_draft_of_header`: the draft that the header of a message is written from.
* `MessageSigner.build_settings`: a signer whose time is fixed does not look at the present instant.
* `MessageSigner.result_sign`, `MessageSigner.run_signInPlace`: a message and its header.
* `HttpSigner.result_sign`, `HttpSigner.run_signInPlace`: a request and its authorization field.
* `HttpSigner.Authorized`: what the signed request holds.
-/

namespace RequestSigning

/-! ### Messages -/

namespace MessageSigner

/-- The header of a message that has an address is that of the draft for the request. -/
theorem result_header {s : MessageSigner} {m : Message} {url : Uri} (hcheck : s.check = .ok ())
    (haddress : address (m.fill s.url) = .ok url) (h : Host) (now : Instant) :
    (s.header h now m).result =
      (s.profile.draftFor h (m.fill s.httpMethod) url m).result.bind fun d =>
        ((d.setAll (s.settings m)).build now).result := by
  rw [header, Outcome.result_bind_of_ok (x := Outcome.ofExcept s.check) hcheck,
    Outcome.result_bind_of_ok (m.result_read s.url),
    Outcome.result_bind_of_ok (x := Outcome.ofExcept (address (m.fill s.url))) haddress,
    Outcome.result_bind_of_ok (m.result_read s.httpMethod), Outcome.result_bind]

/-- A signer that makes a header has an address for the message and a draft for the request. -/
theorem exists_draft_of_header {s : MessageSigner} {h : Host} {now : Instant} {m : Message}
    {header : String} (hheader : (s.header h now m).result = .ok header) :
    ∃ url d, address (m.fill s.url) = .ok url ∧
      (s.profile.draftFor h (m.fill s.httpMethod) url m).result = .ok d ∧
      ((d.setAll (s.settings m)).build now).result = .ok header := by
  obtain ⟨-, -, hafterCheck⟩ := Outcome.result_bind_eq_ok_iff.mp hheader
  obtain ⟨text, htext, hafterText⟩ := Outcome.result_bind_eq_ok_iff.mp hafterCheck
  obtain ⟨url, haddress, hafterUrl⟩ := Outcome.result_bind_eq_ok_iff.mp hafterText
  obtain ⟨method, hmethod, hafterMethod⟩ := Outcome.result_bind_eq_ok_iff.mp hafterUrl
  obtain ⟨d, hd, hbuild⟩ := Outcome.result_bind_eq_ok_iff.mp hafterMethod
  obtain rfl : m.fill s.url = text := Except.ok.inj htext
  obtain rfl : m.fill s.httpMethod = method := Except.ok.inj hmethod
  exact ⟨url, d, haddress, hd, hbuild⟩

/-- The header that a draft of the signer has does not depend on the present instant. -/
theorem build_settings {s : MessageSigner} {t : Instant} (htime : s.time = some t) (m : Message)
    (d : Draft) (now now' : Instant) :
    (d.setAll (s.settings m)).build now = (d.setAll (s.settings m)).build now' := by
  refine Draft.build_congr (t := t) ?_ now now'
  have hsettings : s.settings m = [.additional (s.formPairs m)] ++ [.time t] := by
    rw [settings, htime]
    rfl
  rw [hsettings, Draft.time_setAll_concat]

theorem result_sign (s : MessageSigner) (h : Host) (now : Instant) (m : Message) :
    (s.sign h now m).result =
      (s.header h now m).result.map fun header => (header, m.insert s.targetKey header) := by
  rw [sign, Outcome.result_bind]
  cases (s.header h now m).result <;> rfl

theorem run_signInPlace_of_ok {s : MessageSigner} {h : Host} {now : Instant} {m : Message}
    {header : String}
    (hheader : (s.header h now m).result = .ok header) :
    (s.signInPlace h now).run m =
      (⟨.ok header, (s.header h now m).log ++ [.stored m.uniqueId s.targetKey]⟩,
        m.insert s.targetKey header) := by
  rw [signInPlace, InPlace.run_state_bind, InPlace.run_ofOutcome_bind_of_ok hheader]
  rfl

theorem run_signInPlace_of_error {s : MessageSigner} {h : Host} {now : Instant} {m : Message}
    {f : Failure}
    (hheader : (s.header h now m).result = .error f) :
    (s.signInPlace h now).run m = (⟨.error f, (s.header h now m).log⟩, m) := by
  rw [signInPlace, InPlace.run_state_bind, InPlace.run_ofOutcome_bind_of_error hheader]

/-- In place a signer answers what it answers otherwise. It leaves the message with the header
stored, or as it found it if there is no header. -/
theorem run_signInPlace (s : MessageSigner) (h : Host) (now : Instant) (m : Message) :
    (((s.signInPlace h now).run m).1.result = (s.sign h now m).result.map (·.1)) ∧
      ((s.signInPlace h now).run m).1.log = (s.sign h now m).log ∧
      ((s.signInPlace h now).run m).2 =
        match (s.sign h now m).result with
        | .ok (_, stored) => stored
        | .error _ => m := by
  cases hr : (s.header h now m).result with
  | error e =>
    rw [run_signInPlace_of_error hr, sign, Outcome.bind_of_error hr]
    exact ⟨rfl, rfl, rfl⟩
  | ok header =>
    rw [run_signInPlace_of_ok hr, sign, Outcome.bind_of_ok hr]
    exact ⟨rfl, rfl, rfl⟩

end MessageSigner

/-! ### Requests -/

namespace HttpSigner

theorem result_sign (s : HttpSigner) (h : Host) (fresh : Message) (now : Instant)
    (r : Http.Request) (override : Option Credential) :
    (s.sign h fresh now r override).result =
      (s.header h fresh now r override).result.bind fun header =>
        (field header).map r.replace := by
  rw [sign, Outcome.result_bind]
  cases (s.header h fresh now r override).result with
  | error e => rfl
  | ok header =>
    show (Outcome.ofExcept (field header) >>= fun f => pure (r.replace f)).result =
      (field header).map r.replace
    rw [Outcome.result_bind, Outcome.result_ofExcept]
    cases field header <;> rfl

variable {s : HttpSigner} {h : Host} {fresh : Message} {now : Instant} {r : Http.Request}
  {override : Option Credential} {header : String}

/-- A signer that is given a credential makes its header from the draft with that credential. -/
theorem header_some (s : HttpSigner) (h : Host) (fresh : Message) (now : Instant)
    (r : Http.Request) (c : Credential) :
    s.header h fresh now r (some c) =
      s.profile.draftWith (s.message.getD fresh) c >>= fun d =>
        (d.setAll (s.settings r)).build now :=
  pure_bind c _

theorem time_setAll_settings {s : HttpSigner} {t : Instant} (htime : s.time = some t) (d : Draft)
    (r : Http.Request) : (d.setAll (s.settings r)).time = some t := by
  have hsettings : s.settings r =
      [.method r.method, .url r.uri, .additional s.additional] ++ [.time t] := by
    rw [settings, htime]
    rfl
  rw [hsettings, Draft.time_setAll_concat]

/-- A signer that is given no credential makes its header from the profile's own draft. -/
theorem result_header_none (s : HttpSigner) (h : Host) (fresh : Message) (now : Instant)
    (r : Http.Request) :
    (s.header h fresh now r none).result =
      (s.profile.draft h (s.message.getD fresh)).result.bind fun d =>
        ((d.setAll (s.settings r)).build now).result := by
  have hdraft : s.header h fresh now r none =
      s.profile.draft h (s.message.getD fresh) >>= fun d => (d.setAll (s.settings r)).build now :=
    (bind_assoc _ _ _).symm
  rw [hdraft, Outcome.result_bind]

theorem result_sign_of_error {f : Failure}
    (hf : (s.header h fresh now r override).result = .error f) :
    (s.sign h fresh now r override).result = .error f := by
  rw [result_sign, hf]
  rfl

/-- A request as signing changes it: the header is the value of its only authorization field, a
sensitive one, and it keeps its method, its address and the fields of all other names. -/
structure Authorized (r : Http.Request) (header : String) (signed : Http.Request) : Prop where
  named : signed.named fieldName = [⟨fieldName, header, true⟩]
  others : ∀ name, name ≠ fieldName → signed.named name = r.named name
  method : signed.method = r.method
  uri : signed.uri = r.uri

theorem authorized_replace (r : Http.Request) (header : String) :
    Authorized r header (r.replace ⟨fieldName, header, true⟩) :=
  ⟨r.named_replace _, fun _ hname => r.named_replace_of_ne _ (Ne.symm hname), r.method_replace _,
    r.uri_replace _⟩

/-- A header that is allowed as a value becomes the authorization field. -/
theorem result_sign_of_allowed (hheader : (s.header h fresh now r override).result = .ok header)
    (hvalue : Http.isFieldValue header = true) :
    (s.sign h fresh now r override).result = .ok (r.replace ⟨fieldName, header, true⟩) := by
  have hfield : field header = .ok ⟨fieldName, header, true⟩ := by
    rw [field, if_pos hvalue]
  rw [result_sign, hheader]
  show (field header).map r.replace = _
  rw [hfield]
  rfl

theorem result_sign_of_not_allowed
    (hheader : (s.header h fresh now r override).result = .ok header)
    (hvalue : Http.isFieldValue header = false) :
    (s.sign h fresh now r override).result = .error Failure.badFieldValue := by
  have hfield : field header = .error Failure.badFieldValue := by
    rw [field, hvalue]
    rfl
  rw [result_sign, hheader]
  show (field header).map r.replace = _
  rw [hfield]
  rfl

/-- A request is signed with a header that the signer makes for it and that is allowed as a
value. -/
theorem exists_header_of_sign {signed : Http.Request}
    (hsign : (s.sign h fresh now r override).result = .ok signed) :
    ∃ header, (s.header h fresh now r override).result = .ok header ∧
      Http.isFieldValue header = true ∧ signed = r.replace ⟨fieldName, header, true⟩ := by
  cases hheader : (s.header h fresh now r override).result with
  | error f =>
    rw [result_sign_of_error hheader] at hsign
    exact absurd hsign (by simp)
  | ok header =>
    cases hvalue : Http.isFieldValue header with
    | false =>
      rw [result_sign_of_not_allowed hheader hvalue] at hsign
      exact absurd hsign (by simp)
    | true =>
      rw [result_sign_of_allowed hheader hvalue] at hsign
      exact ⟨header, rfl, hvalue, (Except.ok.inj hsign).symm⟩

/-- In place a signer answers what it answers otherwise, and leaves the signed request, or the
request as it found it if it fails. -/
theorem run_signInPlace (s : HttpSigner) (h : Host) (fresh : Message) (now : Instant)
    (override : Option Credential) (r : Http.Request) :
    (((s.signInPlace h fresh now override).run r).1.result =
        (s.sign h fresh now r override).result.map fun _ => ()) ∧
      ((s.signInPlace h fresh now override).run r).2 =
        match (s.sign h fresh now r override).result with
        | .ok signed => signed
        | .error _ => r := by
  rw [signInPlace, InPlace.run_state_bind, result_sign]
  cases hheader : (s.header h fresh now r override).result with
  | error f =>
    rw [InPlace.run_ofOutcome_bind_of_error hheader]
    exact ⟨rfl, rfl⟩
  | ok header =>
    rw [InPlace.run_ofOutcome_bind_of_ok hheader]
    cases hfield : field header with
    | error f =>
      rw [InPlace.run_ofOutcome_bind_of_error (x := Outcome.ofExcept (.error f)) rfl]
      simp only [Except.bind, hfield]
      exact ⟨rfl, rfl⟩
    | ok f =>
      rw [InPlace.run_ofOutcome_bind_of_ok (x := Outcome.ofExcept (.ok f)) rfl]
      simp only [Except.bind, hfield]
      exact ⟨rfl, rfl⟩

end HttpSigner

end RequestSigning
