import RequestSigning.Proofs.Outcome
import RequestSigning.Proofs.Profile.Draft

/-!
# The credential of a profile

A profile has a credential for a message unless one of four things stands in the way, and the first
of them is the failure that is reported. A secret that is set goes through the variables of the
host, the message and the decoder, in this order; one that is not set is empty and never decoded.
Whatever the decoder reports is a fault of the configuration, with its own failure as the cause.

* `Profile.decodedSecret`, `Profile.result_readSecret`: what a secret stands for.
* `Profile.Refused`, `Profile.credential_eq_error_iff`: the four failures in their order.
* `Profile.Granted`, `Profile.credential_eq_ok_iff_granted`: the texts of a credential.
* `Profile.credential_congr_decoder`: the decoder is asked for secrets that are set, and for nothing
  else.
* `Profile.credential_iff`: all this together.
-/

namespace RequestSigning.Profile

variable {p : Profile} {h : Host} {m : MessageView}

/-! ### Secrets -/

/-- The answer of the decoder for a secret that is set. A secret that is not set is the empty text,
and the decoder is not asked. -/
def decodedSecret (h : Host) (m : MessageView) : Option String → Except Failure String
  | some text => h.decoder.decode (m.fill (h.fillVariables text))
  | none => .ok ""

/-- The failure that a refusal of the decoder becomes. -/
def undecodable (cause : Failure) : Failure :=
  ⟨.undecodableSecret, cause.text :: cause.causes⟩

theorem result_readSecret (h : Host) (m : MessageView) (setting : Option String) :
    (readSecret h m setting).result = (decodedSecret h m setting).mapError undecodable := by
  cases setting with
  | none => rfl
  | some text =>
    show h.decodeSecret _ = Except.mapError undecodable (h.decoder.decode _)
    rw [Host.decodeSecret]
    cases h.decoder.decode (m.fill (h.fillVariables text)) <;> rfl

/-! ### Failures -/

/-- Why a profile has no credential for a message. Each case asks that those above it do not
apply. -/
inductive Refused (p : Profile) (h : Host) (m : MessageView) : Failure → Prop
  | blankKey (hkey : Text.isBlank (m.fillSetting (p.text .consumerKey)) = true) :
      Refused p h m (Failure.blank .consumerKey)
  | undecodableSecret {cause : Failure}
      (hkey : Text.isBlank (m.fillSetting (p.text .consumerKey)) = false)
      (hsecret : decodedSecret h m (p.text .consumerSecret) = .error cause) :
      Refused p h m (undecodable cause)
  | blankSecret {secret : String}
      (hkey : Text.isBlank (m.fillSetting (p.text .consumerKey)) = false)
      (hsecret : decodedSecret h m (p.text .consumerSecret) = .ok secret)
      (hblank : Text.isBlank secret = true) :
      Refused p h m (Failure.blank .consumerSecret)
  | undecodableTokenSecret {secret : String} {cause : Failure}
      (hkey : Text.isBlank (m.fillSetting (p.text .consumerKey)) = false)
      (hsecret : decodedSecret h m (p.text .consumerSecret) = .ok secret)
      (hblank : Text.isBlank secret = false)
      (htoken : decodedSecret h m (p.text .tokenSecret) = .error cause) :
      Refused p h m (undecodable cause)

theorem Refused.kind_eq {f : Failure} (hf : p.Refused h m f) : f.kind = .configuration := by
  cases hf <;> rfl

/-- Something stands in the way of a credential: a blank consumer key, a secret that is not decoded,
or a blank consumer secret. -/
def Obstructed (p : Profile) (h : Host) (m : MessageView) : Prop :=
  Text.isBlank (m.fillSetting (p.text .consumerKey)) = true ∨
    (∃ cause, decodedSecret h m (p.text .consumerSecret) = .error cause) ∨
    (∃ s, decodedSecret h m (p.text .consumerSecret) = .ok s ∧ Text.isBlank s = true) ∨
    ∃ cause, decodedSecret h m (p.text .tokenSecret) = .error cause

theorem Refused.obstructed {f : Failure} (hf : p.Refused h m f) : p.Obstructed h m := by
  cases hf with
  | blankKey hkey => exact .inl hkey
  | undecodableSecret _ hsecret => exact .inr (.inl ⟨_, hsecret⟩)
  | blankSecret _ hsecret hblank => exact .inr (.inr (.inl ⟨_, hsecret, hblank⟩))
  | undecodableTokenSecret _ _ _ htoken => exact .inr (.inr (.inr ⟨_, htoken⟩))

/-- A profile has no credential exactly if it is refused, and only for the first reason. -/
theorem credential_eq_error_iff (p : Profile) (h : Host) (m : MessageView) (f : Failure) :
    (p.credential h m).result = .error f ↔ p.Refused h m f := by
  rw [result_credential, result_readSecret, result_readSecret]
  constructor
  · intro hf
    cases hkey : Text.isBlank (m.fillSetting (p.text .consumerKey)) with
    | true =>
      rw [Required.check_of_blank _ hkey] at hf
      rw [← Except.error.inj hf]
      exact .blankKey hkey
    | false =>
      rw [Required.check_of_not_blank _ hkey] at hf
      cases hsecret : decodedSecret h m (p.text .consumerSecret) with
      | error cause =>
        rw [hsecret] at hf
        rw [← Except.error.inj hf]
        exact .undecodableSecret hkey hsecret
      | ok secret =>
        rw [hsecret] at hf
        change (Required.consumerSecret.check secret).bind _ = _ at hf
        cases hblank : Text.isBlank secret with
        | true =>
          rw [Required.check_of_blank _ hblank] at hf
          rw [← Except.error.inj hf]
          exact .blankSecret hkey hsecret hblank
        | false =>
          rw [Required.check_of_not_blank _ hblank] at hf
          cases htoken : decodedSecret h m (p.text .tokenSecret) with
          | error cause =>
            rw [htoken] at hf
            rw [← Except.error.inj hf]
            exact .undecodableTokenSecret hkey hsecret hblank htoken
          | ok tokenSecret =>
            rw [htoken] at hf
            cases hf
  · intro hf
    cases hf with
    | blankKey hkey =>
      rw [Required.check_of_blank _ hkey]
      rfl
    | undecodableSecret hkey hsecret =>
      rw [Required.check_of_not_blank _ hkey, hsecret]
      rfl
    | blankSecret hkey hsecret hblank =>
      rw [Required.check_of_not_blank _ hkey, hsecret]
      show (Required.consumerSecret.check _).bind _ = _
      rw [Required.check_of_blank _ hblank]
      rfl
    | undecodableTokenSecret hkey hsecret hblank htoken =>
      rw [Required.check_of_not_blank _ hkey, hsecret, htoken]
      show (Required.consumerSecret.check _).bind _ = _
      rw [Required.check_of_not_blank _ hblank]
      rfl

/-! ### Credentials -/

theorem unlessBlank_eq_some_iff {s t : String} :
    unlessBlank s = some t ↔ t = s ∧ Text.isBlank t = false := by
  rw [unlessBlank]
  constructor
  · intro ht
    split at ht
    · exact absurd ht (by simp)
    · rename_i hblank
      obtain rfl : s = t := Option.some.inj ht
      exact ⟨rfl, by simpa using hblank⟩
  · rintro ⟨rfl, hblank⟩
    rw [hblank]
    rfl

/-- The texts of the credential that a profile has for a message. -/
structure Granted (p : Profile) (h : Host) (m : MessageView) (c : Credential) : Prop where
  consumerKey : c.consumerKey = m.fillSetting (p.text .consumerKey)
  consumerSecret : decodedSecret h m (p.text .consumerSecret) = .ok c.consumerSecret
  valid : c.isValid = true
  accessToken : ∀ t, c.accessToken = some t ↔
    t = m.fillSetting (p.text .accessToken) ∧ Text.isBlank t = false
  tokenSecret : ∃ s, decodedSecret h m (p.text .tokenSecret) = .ok s ∧
    ∀ t, c.tokenSecret = some t ↔ t = s ∧ Text.isBlank t = false

theorem Granted.not_blank {c : Credential} (hc : p.Granted h m c) :
    Text.isBlank c.consumerKey = false ∧ Text.isBlank c.consumerSecret = false := by
  simpa [Credential.isValid] using hc.valid

theorem Granted.not_obstructed {c : Credential} (hc : p.Granted h m c) : ¬ p.Obstructed h m := by
  obtain ⟨hkeyBlank, hsecretBlank⟩ := hc.not_blank
  obtain ⟨tokenSecret, htoken, -⟩ := hc.tokenSecret
  rintro (hkey | ⟨cause, hcause⟩ | ⟨s, hs, hblank⟩ | ⟨cause, hcause⟩)
  · rw [hc.consumerKey, hkey] at hkeyBlank
    exact absurd hkeyBlank (by simp)
  · rw [hc.consumerSecret] at hcause
    exact absurd hcause (by simp)
  · rw [hc.consumerSecret] at hs
    rw [Except.ok.inj hs, hblank] at hsecretBlank
    exact absurd hsecretBlank (by simp)
  · rw [htoken] at hcause
    exact absurd hcause (by simp)

/-- A profile has the credential whose texts are granted, and no other. -/
theorem credential_eq_ok_iff_granted (p : Profile) (h : Host) (m : MessageView) (c : Credential) :
    (p.credential h m).result = .ok c ↔ p.Granted h m c := by
  rw [credential_eq_ok_iff]
  simp only [result_readSecret, Outcome.mapError_eq_ok_iff]
  constructor
  · rintro ⟨secret, tokenSecret, hsecret, htoken, hkey, hblank, rfl⟩
    refine ⟨rfl, hsecret, ?_, ?_, tokenSecret, htoken, ?_⟩
    · rw [Credential.isValid, hkey, hblank]
      rfl
    · intro t
      exact unlessBlank_eq_some_iff
    · intro t
      exact unlessBlank_eq_some_iff
  · intro hc
    obtain ⟨hkeyBlank, hsecretBlank⟩ := hc.not_blank
    obtain ⟨hkey, hsecret, -, haccess, tokenSecret, htoken, htokenSecret⟩ := hc
    refine ⟨c.consumerSecret, tokenSecret, hsecret, htoken, hkey ▸ hkeyBlank, hsecretBlank, ?_⟩
    have haccess' : c.accessToken = unlessBlank (m.fillSetting (p.text .accessToken)) := by
      ext t
      rw [haccess, unlessBlank_eq_some_iff]
    have htoken' : c.tokenSecret = unlessBlank tokenSecret := by
      ext t
      rw [htokenSecret, unlessBlank_eq_some_iff]
    rw [← haccess', ← htoken', ← hkey]

/-- There is no credential exactly if something stands in its way. -/
theorem exists_failure_iff_obstructed (p : Profile) (h : Host) (m : MessageView) :
    (∃ f, (p.credential h m).result = .error f) ↔ p.Obstructed h m := by
  constructor
  · rintro ⟨f, hf⟩
    exact ((p.credential_eq_error_iff h m f).mp hf).obstructed
  · intro hobstructed
    cases hc : (p.credential h m).result with
    | error f => exact ⟨f, rfl⟩
    | ok c =>
      have hgranted := (p.credential_eq_ok_iff_granted h m c).mp hc
      exact absurd hobstructed hgranted.not_obstructed

/-! ### What is decoded -/

/-- Another decoder yields the same credential with the same notes if it answers alike for the
secrets that are set. -/
theorem credential_congr_decoder {d : SecretDecoder}
    (hd : ∀ f, Field.isSecret f = true → ∀ text ∈ p.text f,
      d.decode (m.fill (h.fillVariables text)) =
        h.decoder.decode (m.fill (h.fillVariables text))) :
    p.credential { h with decoder := d } m = p.credential h m := by
  have hread : ∀ f, Field.isSecret f = true →
      readSecret { h with decoder := d } m (p.text f) = readSecret h m (p.text f) := by
    intro f hf
    cases htext : p.text f with
    | none => rfl
    | some text =>
      have hdecode : Host.decodeSecret { h with decoder := d } (m.fill (h.fillVariables text)) =
          h.decodeSecret (m.fill (h.fillVariables text)) := by
        rw [Host.decodeSecret, Host.decodeSecret, hd f hf text htext]
      rw [readSecret, readSecret]
      show (m.read (h.fillVariables text) >>= _) = (m.read (h.fillVariables text) >>= _)
      rw [Outcome.bind_of_ok (m.result_read _), Outcome.bind_of_ok (m.result_read _), hdecode]
  rw [credential, credential, hread .consumerSecret rfl, hread .tokenSecret rfl]

/-! ### All together -/

/-- A profile has no credential for a message exactly if its consumer key is blank, one of its
secrets is not decoded, or its consumer secret is blank. The first of these is reported, as a fault
of the configuration. Otherwise the credential has the filled and decoded texts of the profile, a
blank token or token secret left out. The decoder has no other part in this than its answers for the
secrets that are set. -/
theorem credential_iff (p : Profile) (h : Host) (m : MessageView) :
    ((∃ f, (p.credential h m).result = .error f) ↔ p.Obstructed h m) ∧
    (∀ f, (p.credential h m).result = .error f ↔ p.Refused h m f) ∧
    (∀ f, (p.credential h m).result = .error f → f.kind = .configuration) ∧
    (∀ c, (p.credential h m).result = .ok c ↔ p.Granted h m c) ∧
    ∀ d : SecretDecoder,
      (∀ f, Field.isSecret f = true → ∀ text ∈ p.text f,
        d.decode (m.fill (h.fillVariables text)) =
          h.decoder.decode (m.fill (h.fillVariables text))) →
      p.credential { h with decoder := d } m = p.credential h m := by
  refine ⟨p.exists_failure_iff_obstructed h m, p.credential_eq_error_iff h m, ?_,
    p.credential_eq_ok_iff_granted h m, fun d => credential_congr_decoder⟩
  intro f hf
  exact ((p.credential_eq_error_iff h m f).mp hf).kind_eq

/-- A decoder of marked secrets. It refuses all other texts, blank ones included. -/
def markedDecoder : SecretDecoder where
  decode s :=
    match Text.behind? "ENC:".toList s.toList with
    | some secret => .ok (String.ofList secret)
    | none => .error (Failure.of (.other .credential "not encoded"))
  shown := "Marked"

/-- A host whose variable refers to the message. -/
def markedHost : Host where
  environment := Environment.ofTable (Table.ofList [("SECRET", "ENC:%message\x7bs\x7d")])
  decoder := markedDecoder

def markedMessage : Message :=
  ⟨"id-1", Table.ofList [("s", "x")]⟩

/-- A profile whose consumer secret is found in three steps. -/
def markedProfile (tokenSecret : Option String) : Profile where
  text
    | .consumerKey => some "k"
    | .consumerSecret => some "%env\x7bSECRET\x7d"
    | .tokenSecret => tokenSecret
    | _ => none

theorem fill_marked :
    markedMessage.fill (markedHost.fillVariables "%env\x7bSECRET\x7d") = "ENC:x" := by
  decide +kernel

theorem decodedSecret_marked :
    decodedSecret markedHost markedMessage (some "%env\x7bSECRET\x7d") = .ok "x" := by
  show markedDecoder.decode (markedMessage.fill _) = _
  rw [fill_marked]
  rfl

/-- A decoder that takes the one text which the secret of the message is stored as. -/
def storedDecoder : SecretDecoder where
  decode s := if s = "ENC:x" then .ok "x" else .error (Failure.of (.other .credential "unknown"))
  shown := "Stored"

/-- A token secret that is blank is refused, and one that is not set is not: then the credential has
the secret that is found behind the variable, the metadata and the mark, and no other answer of the
decoder matters than the one for it. -/
theorem credential_iff_marked :
    ((markedProfile (some " ")).credential markedHost markedMessage).result =
        .error (undecodable (Failure.of (.other .credential "not encoded"))) ∧
      (undecodable (Failure.of (.other .credential "not encoded"))).kind = .configuration ∧
      ((markedProfile none).credential markedHost markedMessage).result =
        .ok ⟨"k", "x", none, none⟩ ∧
      (markedProfile none).credential { markedHost with decoder := storedDecoder } markedMessage =
        (markedProfile none).credential markedHost markedMessage := by
  obtain ⟨-, hrefused, hkind, -, -⟩ := credential_iff (markedProfile (some " ")) markedHost
    markedMessage
  obtain ⟨-, -, -, hgranted, hdecoder⟩ := credential_iff (markedProfile none) markedHost
    markedMessage
  have hkey : ∀ secret, Text.isBlank
      (markedMessage.view.fillSetting ((markedProfile secret).text .consumerKey)) = false := by
    intro secret
    show Text.isBlank (markedMessage.fill "k") = false
    decide +kernel
  have hblank : markedMessage.fill (markedHost.fillVariables " ") = " " := by decide +kernel
  have herror := (hrefused (undecodable (Failure.of (.other .credential "not encoded")))).mpr
    (.undecodableTokenSecret (hkey _) decodedSecret_marked (by decide) (by
      show markedDecoder.decode (markedMessage.fill _) = _
      rw [hblank]
      rfl))
  refine ⟨herror, hkind _ herror, ?_, hdecoder storedDecoder ?_⟩
  · have hempty : ∀ t, none = some t ↔ t = "" ∧ Text.isBlank t = false := by
      intro t
      show unlessBlank "" = some t ↔ _
      exact unlessBlank_eq_some_iff
    rw [hgranted]
    refine ⟨?_, decodedSecret_marked, by decide, hempty, "", rfl, hempty⟩
    show "k" = markedMessage.fill "k"
    decide +kernel
  · intro f hf text htext
    cases f with
    | consumerSecret =>
      obtain rfl : _ = text := Option.some.inj htext
      show storedDecoder.decode (markedMessage.fill _) =
        decodedSecret markedHost markedMessage (some _)
      rw [decodedSecret_marked, fill_marked]
      rfl
    | tokenSecret => exact absurd htext (by simp [markedProfile])
    | _ => exact absurd hf (by decide)

end RequestSigning.Profile
