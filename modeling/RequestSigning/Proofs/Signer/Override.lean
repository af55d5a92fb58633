import RequestSigning.Proofs.Profile.Header

/-!
# Signing with a given credential

A signer takes the credential of its profile, unless it is given one. The first is the same as
asking the profile for its credential and giving that to the signer; and what is given replaces
all that the profile and the host have to say about credentials.

* `HttpSigner.run_signInPlace_none`: signing without a given credential.
* `Profile.SameButCredential`: profiles that differ at most in the settings of their credentials.
* `HttpSigner.signInPlace_congr`, `HttpSigner.run_signInPlace_of_not_valid`: signing with a given
  credential.
* `HttpSigner.signInPlace_override`: both together.
-/

namespace RequestSigning

/-! ### The credential of the profile -/

namespace HttpSigner

variable (s : HttpSigner) (h : Host) (fresh : Message) (now : Instant) (r : Http.Request)

theorem header_none :
    s.header h fresh now r none =
      s.profile.credential h (s.message.getD fresh) >>= fun c =>
        s.header h fresh now r (some c) := by
  simp only [header_some]
  rfl

/-- A signer that is given no credential takes the one of its profile, and goes on as if this had
been given. -/
theorem run_signInPlace_none :
    (s.signInPlace h fresh now none).run r =
      (InPlace.ofOutcome (s.profile.credential h (s.message.getD fresh)) >>= fun c =>
        s.signInPlace h fresh now (some c)).run r := by
  rw [signInPlace, InPlace.run_state_bind, header_none, InPlace.run_ofOutcome_bind_bind]
  cases hc : (s.profile.credential h (s.message.getD fresh)).result with
  | error f => rw [InPlace.run_ofOutcome_bind_of_error hc, InPlace.run_ofOutcome_bind_of_error hc]
  | ok c =>
    rw [InPlace.run_ofOutcome_bind_of_ok hc, InPlace.run_ofOutcome_bind_of_ok hc, signInPlace,
      InPlace.run_state_bind]

end HttpSigner

/-! ### A given credential -/

namespace Profile

/-- The settings that the credential of a profile is taken from. -/
def Field.isCredential : Field → Bool
  | .consumerKey | .consumerSecret | .accessToken | .tokenSecret => true
  | _ => false

/-- Profiles that differ at most in the settings of their credentials. -/
structure SameButCredential (p p' : Profile) : Prop where
  text : ∀ f : Field, f.isCredential = false → p'.text f = p.text f
  keepBlank : p'.keepBlank = p.keepBlank

/-- The draft with a given credential has nothing of the profile's own. -/
theorem SameButCredential.draftWith {p p' : Profile} (hp : p.SameButCredential p') (m : MessageView)
    (c : Credential) : p'.draftWith m c = p.draftWith m c := by
  have hnonce : p'.nonce m = p.nonce m := by rw [nonce, nonce, hp.text .nonce rfl]
  have hmethod : p'.signingMethod m = p.signingMethod m := by
    rw [signingMethod, signingMethod, hp.text .signingMethod rfl]
  rw [Profile.draftWith, Profile.draftWith, hnonce, hmethod, hp.text .realm rfl,
    hp.text .version rfl, hp.text .verifier rfl, hp.keepBlank]

end Profile

namespace HttpSigner

section Given

variable (s : HttpSigner) (h : Host) (fresh : Message) (now : Instant) (r : Http.Request)

/-- With a given credential neither the host nor the profile's own credential is looked at. -/
theorem signInPlace_congr {p : Profile} (hp : s.profile.SameButCredential p) (h' : Host)
    (c : Credential) :
    { s with profile := p }.signInPlace h' fresh now (some c) =
      s.signInPlace h fresh now (some c) := by
  simp only [signInPlace, header_some, hp.draftWith]
  rfl

/-- A given credential is refused if one of its required texts is blank. -/
theorem run_signInPlace_of_not_valid {c : Credential} (hc : c.isValid = false) :
    ((s.signInPlace h fresh now (some c)).run r).1.result = .error (Failure.blank .credential) ∧
      ((s.signInPlace h fresh now (some c)).run r).2 = r := by
  have hheader : (s.header h fresh now r (some c)).result =
      .error (Failure.blank .credential) := by
    rw [header_some, Outcome.result_bind, Profile.result_draftWith, hc]
    rfl
  obtain ⟨hresult, hstate⟩ := s.run_signInPlace h fresh now (some c) r
  rw [result_sign_of_error hheader] at hresult hstate
  exact ⟨hresult, hstate⟩

end Given

/-- A signer without a given credential fails as its profile fails to yield one, and then leaves
the request alone; or it does what it does with the credential of its profile. What it does with a
given credential is the same for all hosts and for all settings of the profile's own credential. A
given credential with a blank consumer key or consumer secret is a fault of configuration. -/
theorem signInPlace_override (s : HttpSigner) (h : Host) (fresh : Message) (now : Instant)
    (r : Http.Request) :
    let m := s.message.getD fresh
    let signed (override : Option Credential) := (s.signInPlace h fresh now override).run r
    (∀ f, (s.profile.credential h m).result = .error f →
      (signed none).1.result = .error f ∧ (signed none).2 = r) ∧
    (∀ c, (s.profile.credential h m).result = .ok c →
      (signed none).1.result = (signed (some c)).1.result ∧
        (signed none).2 = (signed (some c)).2 ∧
        (signed none).1.log = (s.profile.credential h m).log ++ (signed (some c)).1.log) ∧
    (∀ c h' p, s.profile.SameButCredential p →
      ({ s with profile := p }.signInPlace h' fresh now (some c)).run r = signed (some c)) ∧
    ∀ c : Credential, Text.isBlank c.consumerKey = true ∨ Text.isBlank c.consumerSecret = true →
      ∃ f, f.kind = .configuration ∧ (signed (some c)).1.result = .error f ∧
        (signed (some c)).2 = r := by
  intro m signed
  refine ⟨?_, ?_, ?_, ?_⟩
  · intro f hf
    have hrun : signed none = (⟨.error f, (s.profile.credential h m).log⟩, r) :=
      (s.run_signInPlace_none h fresh now r).trans (InPlace.run_ofOutcome_bind_of_error hf _ r)
    rw [hrun]
    exact ⟨rfl, rfl⟩
  · intro c hc
    have hrun : signed none =
        (⟨(signed (some c)).1.result,
          (s.profile.credential h m).log ++ (signed (some c)).1.log⟩, (signed (some c)).2) :=
      (s.run_signInPlace_none h fresh now r).trans (InPlace.run_ofOutcome_bind_of_ok hc _ r)
    rw [hrun]
    exact ⟨rfl, rfl, rfl⟩
  · intro c h' p hp
    rw [s.signInPlace_congr h fresh now hp h' c]
  · intro c hblank
    have hc : c.isValid = false := by
      rcases hblank with hkey | hsecret
      · simp [Credential.isValid, hkey]
      · simp [Credential.isValid, hsecret]
    exact ⟨Failure.blank .credential, rfl, s.run_signInPlace_of_not_valid h fresh now r hc⟩

/-- A profile that has no credential of its own. -/
def bareProfile : Profile where
  text
    | .signingMethod => some "PLAINTEXT"
    | _ => none

theorem sameButCredential_bareProfile : plainProfile.SameButCredential bareProfile where
  text f hf := by
    cases f with
    | consumerKey | consumerSecret => exact absurd hf (by decide)
    | _ => rfl
  keepBlank := rfl

/-- A host that refuses all secrets fails the profile's own credential. Given that credential, a
profile that has none signs the same request on this host as the other profile does on its own. -/
theorem signInPlace_override_plain :
    let c : Credential := ⟨"k", "s", none, none⟩
    let signed (p : Profile) (h : Host) (override : Option Credential) :=
      ({ profile := p : HttpSigner }.signInPlace h plainMessage ⟨1, 0⟩ override).run signedRequest
    (∃ f, (signed plainProfile refusingHost none).1.result = .error f ∧
      (signed plainProfile refusingHost none).2 = signedRequest) ∧
    (signed plainProfile {} none).2 = (signed plainProfile {} (some c)).2 ∧
    (signed plainProfile {} none).2.named HttpSigner.fieldName =
      [⟨HttpSigner.fieldName, plainHeader, true⟩] ∧
    signed bareProfile refusingHost (some c) = signed plainProfile {} (some c) ∧
    (signed plainProfile {} (some ⟨" ", "s", none, none⟩)).2 = signedRequest := by
  intro c signed
  obtain ⟨f, hf, -⟩ := Profile.credential_of_undecodable (undecodable_plainProfile plainMessage)
  obtain ⟨hrefused, -⟩ :=
    signInPlace_override { profile := plainProfile } refusingHost plainMessage ⟨1, 0⟩ signedRequest
  obtain ⟨-, hown, hgiven, hblank⟩ :=
    signInPlace_override { profile := plainProfile } {} plainMessage ⟨1, 0⟩ signedRequest
  -- stated for every credential, so that checking them computes no signature
  have hsigned (c : Credential) (hc : (plainProfile.credential {} plainMessage).result = .ok c) :
      (signed plainProfile {} none).2 = (signed plainProfile {} (some c)).2 :=
    (hown c hc).2.1
  have hsame (c : Credential) :
      signed bareProfile refusingHost (some c) = signed plainProfile {} (some c) :=
    hgiven c refusingHost bareProfile sameButCredential_bareProfile
  obtain ⟨-, -, -, hunchanged⟩ := hblank ⟨" ", "s", none, none⟩ (.inl (by decide))
  have hnamed : (signed plainProfile {} none).2.named HttpSigner.fieldName =
      [⟨HttpSigner.fieldName, plainHeader, true⟩] := by
    decide +kernel
  exact ⟨⟨f, hrefused f hf⟩, hsigned c (Profile.credential_plainProfile plainMessage), hnamed,
    hsame c, hunchanged⟩

end HttpSigner

end RequestSigning
