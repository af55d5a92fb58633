import RequestSigning.Profile.Draft
import RequestSigning.Proofs.Draft.Parameters

/-!
# What a profile yields

The credential and the draft of a profile are computed in steps, each of which may note events. Here
their results are told without the steps and without the notes.

* `Profile.result_nonce`, `Profile.result_signingMethod`: the two parts that never fail.
* `Profile.result_credential`: the credential, or the first fault on the way to it.
* `Profile.settled`: the draft that a profile has for a message and a credential.
* `Profile.result_draft`, `Profile.result_draftFor`: the draft of a profile, which there is exactly
  if there is a credential.
-/

namespace RequestSigning.Profile

/-! ### Parts of a draft -/

theorem getD_unlessBlank (s : String) : (unlessBlank s).getD "" = Text.orIfBlank s "" := by
  unfold unlessBlank Text.orIfBlank
  split <;> rfl

theorem result_nonce (p : Profile) (m : MessageView) :
    (p.nonce m).result =
      .ok (Text.orIfBlank (m.fillSetting (p.text .nonce)) m.derivedNonce) := by
  rw [nonce, Outcome.result_bind, MessageView.result_readSetting]
  rfl

/-- A signing method that is not set is the one of the empty name. -/
theorem result_signingMethod (p : Profile) (m : MessageView) :
    (p.signingMethod m).result =
      .ok ((SigningMethod.named? (m.fillSetting (p.text .signingMethod))).getD
        SigningMethod.standard) := by
  rw [signingMethod, MessageView.fillSetting]
  cases p.text .signingMethod with
  | none =>
    have hnone : SigningMethod.named? "" = none := by decide
    rw [Option.map_none, Option.getD_none, hnone]
    rfl
  | some text =>
    simp only [Outcome.result_bind, MessageView.result_read, Option.map_some, Option.getD_some]
    exact SigningMethod.result_find (m.fill text)

/-! ### The credential -/

/-- The checks of a credential in their order: consumer key, consumer secret, token secret. -/
theorem result_credential (p : Profile) (h : Host) (m : MessageView) :
    (p.credential h m).result =
      (Required.consumerKey.check (m.fillSetting (p.text .consumerKey))).bind fun _ =>
        (readSecret h m (p.text .consumerSecret)).result.bind fun secret =>
          (Required.consumerSecret.check secret).bind fun _ =>
            (readSecret h m (p.text .tokenSecret)).result.bind fun tokenSecret =>
              .ok ⟨m.fillSetting (p.text .consumerKey), secret,
                unlessBlank (m.fillSetting (p.text .accessToken)), unlessBlank tokenSecret⟩ := by
  simp only [credential, Outcome.result_bind, MessageView.result_readSetting,
    Outcome.result_ofExcept, Outcome.result_pure]
  rfl

/-- A credential that a profile has is the one of its filled settings, and none of its required
texts is blank. -/
theorem credential_eq_ok_iff (p : Profile) (h : Host) (m : MessageView) (c : Credential) :
    (p.credential h m).result = .ok c ↔
      ∃ secret tokenSecret,
        (readSecret h m (p.text .consumerSecret)).result = .ok secret ∧
        (readSecret h m (p.text .tokenSecret)).result = .ok tokenSecret ∧
        Text.isBlank (m.fillSetting (p.text .consumerKey)) = false ∧
        Text.isBlank secret = false ∧
        c = ⟨m.fillSetting (p.text .consumerKey), secret,
          unlessBlank (m.fillSetting (p.text .accessToken)), unlessBlank tokenSecret⟩ := by
  rw [result_credential]
  simp only [Outcome.bind_eq_ok_iff, Required.check_eq_ok_iff, Except.ok.injEq]
  constructor
  · rintro ⟨-, hkey, secret, hsecret, -, hblank, tokenSecret, htoken, hc⟩
    exact ⟨secret, tokenSecret, hsecret, htoken, hkey, hblank, hc.symm⟩
  · rintro ⟨secret, tokenSecret, hsecret, htoken, hkey, hblank, hc⟩
    exact ⟨(), hkey, secret, hsecret, (), hblank, tokenSecret, htoken, hc.symm⟩

/-- The credential of a profile passes the check that is made before it is used. -/
theorem isValid_of_credential {p : Profile} {h : Host} {m : MessageView} {c : Credential}
    (hc : (p.credential h m).result = .ok c) : c.isValid = true := by
  obtain ⟨secret, tokenSecret, -, -, hkey, hsecret, rfl⟩ := (p.credential_eq_ok_iff h m c).mp hc
  rw [Credential.isValid, hkey, hsecret]
  rfl

/-! ### The draft -/

/-- The draft that a profile has for a message and a credential. -/
def settled (p : Profile) (m : MessageView) (c : Credential) : Draft :=
  Draft.setAll { version_stated := Draft.isBlank_standardVersion }
    [.consumerKey c.consumerKey,
      .consumerSecret c.consumerSecret,
      .accessToken (c.accessToken.getD ""),
      .tokenSecret (c.tokenSecret.getD ""),
      .nonce (Text.orIfBlank (m.fillSetting (p.text .nonce)) m.derivedNonce),
      .realm (m.fillSetting (p.text .realm)),
      .version ((p.text .version).getD ""),
      .verifier (m.fillSetting (p.text .verifier)),
      .keepBlank p.keepBlank,
      .signingMethod ((SigningMethod.named? (m.fillSetting (p.text .signingMethod))).getD
        SigningMethod.standard)]

theorem result_draftWith (p : Profile) (m : MessageView) (c : Credential) :
    (p.draftWith m c).result =
      if c.isValid then .ok (p.settled m c) else .error (Failure.blank .credential) := by
  simp only [draftWith, Outcome.result_bind, Outcome.result_ofExcept, result_nonce,
    result_signingMethod, Outcome.result_note, MessageView.result_readSetting, Outcome.result_pure]
  cases c.isValid <;> rfl

/-- A profile has a draft exactly if it has a credential. -/
theorem result_draft (p : Profile) (h : Host) (m : MessageView) :
    (p.draft h m).result = (p.credential h m).result.map (p.settled m) := by
  rw [draft, Outcome.result_bind]
  cases hc : (p.credential h m).result with
  | error f => rfl
  | ok c =>
    show (p.draftWith m c).result = .ok (p.settled m c)
    rw [result_draftWith, isValid_of_credential hc]
    rfl

theorem result_draftFor (p : Profile) (h : Host) (method : String) (url : Uri) (m : MessageView) :
    (p.draftFor h method url m).result =
      (p.draft h m).result.map fun d => d.setAll [.method method, .url url] := by
  rw [draftFor, Outcome.result_bind]
  cases (p.draft h m).result <;> rfl

end RequestSigning.Profile
