import RequestSigning.Proofs.Profile.Draft
import RequestSigning.Proofs.Template

/-!
# Profiles that are filled in advance

The settings of a profile are filled while its draft is made. Here all settings but the secrets are
filled before, and the two drafts are compared. They are the same but for the version: it is sent
as it is configured, so a version with a token in it is sent with that token.

* `Profile.filled`: the profile with its settings filled for a message.
* `Profile.FillsClosed`: no filled setting holds an opening, so filling it again changes nothing.
* `Profile.settled_filled`: the draft of the filled profile.
* `Profile.draft_filled`: when the two drafts are the same, and what they hold.
-/

namespace RequestSigning.Profile

/-- The profile with the filled texts of its settings; secrets stay as they are. -/
def filled (p : Profile) (m : Message) : Profile :=
  { p with text := fun f => if f.isSecret then p.text f else (p.text f).map m.fill }

/-- No setting but a secret has an opening in its filled text. -/
def FillsClosed (p : Profile) (m : Message) : Prop :=
  ∀ f s, f.isSecret = false → p.text f = some s → ¬ Message.Opens (m.fill s)

variable {p : Profile} {m : Message}

theorem keepBlank_filled (p : Profile) (m : Message) : (p.filled m).keepBlank = p.keepBlank := rfl

theorem text_filled_of_secret {f : Field} (hf : f.isSecret = true) :
    (p.filled m).text f = p.text f := by
  show (if f.isSecret then p.text f else (p.text f).map m.fill) = p.text f
  rw [if_pos hf]

theorem text_filled {f : Field} (hf : f.isSecret = false) :
    (p.filled m).text f = (p.text f).map m.fill := by
  show (if f.isSecret then p.text f else (p.text f).map m.fill) = (p.text f).map m.fill
  rw [hf]
  rfl

/-- A setting that is filled in advance is filled to the same text. -/
theorem fillSetting_filled (hp : p.FillsClosed m) {f : Field} (hf : f.isSecret = false) :
    m.view.fillSetting ((p.filled m).text f) = m.view.fillSetting (p.text f) := by
  rw [text_filled hf]
  cases ht : p.text f with
  | none => rfl
  | some s =>
    show m.fill (m.fill s) = m.fill s
    exact m.fill_fill (hp f s hf ht)

/-- Of all settings, the version alone is taken as it stands. -/
theorem getD_version_filled (p : Profile) (m : Message) :
    ((p.filled m).text .version).getD "" = m.view.fillSetting (p.text .version) := by
  rw [text_filled rfl]
  rfl

theorem result_credential_filled (hp : p.FillsClosed m) (h : Host) :
    ((p.filled m).credential h m).result = (p.credential h m).result := by
  rw [result_credential, result_credential, fillSetting_filled hp rfl, fillSetting_filled hp rfl,
    text_filled_of_secret rfl, text_filled_of_secret rfl]

/-- The draft of the filled profile is that of the profile with the filled version set at last. -/
theorem settled_filled (hp : p.FillsClosed m) (c : Credential) :
    (p.filled m).settled m c =
      (p.settled m c).set (.version (m.view.fillSetting (p.text .version))) := by
  have hnonce := fillSetting_filled hp (f := .nonce) rfl
  have hrealm := fillSetting_filled hp (f := .realm) rfl
  have hverifier := fillSetting_filled hp (f := .verifier) rfl
  have hmethod := fillSetting_filled hp (f := .signingMethod) rfl
  simp only [settled, Draft.setAll, List.foldl_cons, List.foldl_nil, Draft.set,
    getD_version_filled, keepBlank_filled, hnonce, hrealm, hverifier, hmethod]

theorem result_draft_filled (hp : p.FillsClosed m) (h : Host) :
    ((p.filled m).draft h m).result =
      (p.draft h m).result.map fun d =>
        d.set (.version (m.view.fillSetting (p.text .version))) := by
  rw [result_draft, result_draft, result_credential_filled hp, funext (settled_filled hp)]
  cases (p.credential h m).result <;> rfl

/-- Setting the version changes a draft unless it has that version already. -/
theorem set_version_eq_self_iff (d : Draft) (version : String) :
    d.set (.version version) = d ↔
      d.version = Text.orIfBlank version Protocol.standardVersion := by
  constructor
  · intro h
    rw [← congrArg Draft.version h]
    rfl
  · intro h
    cases d
    simp only [Draft.set, Draft.mk.injEq] at h ⊢
    simp [h]

/-- What a draft holds of the settings of a profile: their filled texts, but the version as it is
configured. -/
structure Holds (p : Profile) (m : MessageView) (d : Draft) : Prop where
  version : d.version = Text.orIfBlank ((p.text .version).getD "") Protocol.standardVersion
  consumerKey : d.consumerKey = m.fillSetting (p.text .consumerKey)
  accessToken : d.accessToken = Text.orIfBlank (m.fillSetting (p.text .accessToken)) ""
  nonce : d.nonce = Text.orIfBlank (m.fillSetting (p.text .nonce)) m.derivedNonce
  realm : d.realm = Text.orIfBlank (m.fillSetting (p.text .realm)) ""
  verifier : d.verifier = Text.orIfBlank (m.fillSetting (p.text .verifier)) ""
  signingMethod : d.signingMethod =
    (SigningMethod.named? (m.fillSetting (p.text .signingMethod))).getD SigningMethod.standard
  keepBlank : d.keepBlank = p.keepBlank

theorem holds_of_draft {h : Host} {d : Draft} (hd : (p.draft h m).result = .ok d) :
    p.Holds m d := by
  rw [result_draft] at hd
  obtain ⟨c, hc, rfl⟩ := Outcome.map_eq_ok_iff.mp hd
  obtain ⟨secret, tokenSecret, -, -, -, -, rfl⟩ := (p.credential_eq_ok_iff h m c).mp hc
  constructor <;>
    simp only [settled, Draft.setAll, List.foldl_cons, List.foldl_nil, Draft.set, getD_unlessBlank]

/-- A profile and the one that is filled in advance fail alike, and their drafts differ at most in
the version. They are the same exactly if there is no draft or the filled version and the
configured one are sent as the same text. -/
theorem draft_filled (hp : p.FillsClosed m) (h : Host) :
    ((p.filled m).draft h m).result =
        ((p.draft h m).result.map fun d =>
          d.set (.version (m.view.fillSetting (p.text .version)))) ∧
      (((p.filled m).draft h m).result = (p.draft h m).result ↔
        (∃ f, (p.draft h m).result = .error f) ∨
          Text.orIfBlank ((p.text .version).getD "") Protocol.standardVersion =
            Text.orIfBlank (m.view.fillSetting (p.text .version)) Protocol.standardVersion) ∧
      ∀ d, (p.draft h m).result = .ok d → p.Holds m d := by
  refine ⟨result_draft_filled hp h, ?_, fun d hd => holds_of_draft hd⟩
  rw [result_draft_filled hp h]
  cases hd : (p.draft h m).result with
  | error f => exact ⟨fun _ => .inl ⟨f, rfl⟩, fun _ => rfl⟩
  | ok d =>
    have hversion := (holds_of_draft hd).version
    have hself := set_version_eq_self_iff d (m.view.fillSetting (p.text .version))
    rw [hversion] at hself
    constructor
    · intro heq
      exact .inr (hself.mp (Except.ok.inj heq))
    · rintro (⟨f, hf⟩ | heq)
      · exact absurd hf (by simp)
      · exact congrArg Except.ok (hself.mpr heq)

/-- A profile whose version is a token. -/
def tokenProfile : Profile where
  text
    | .consumerKey => some "k"
    | .consumerSecret => some "s"
    | .version => some "%message{v}"
    | _ => none

/-- A message with a value for that token. -/
def tokenMessage : Message where
  uniqueId := "id-1"
  metadata := Table.ofList [("v", "2.0")]

theorem fillsClosed_token : tokenProfile.FillsClosed tokenMessage := by
  intro f s _ hs
  have htexts : s ∈ ["k", "s", "%message{v}"] := by
    cases f <;> simp_all [tokenProfile]
  have hclosed : ∀ s ∈ ["k", "s", "%message{v}"], ¬ Message.Opens (tokenMessage.fill s) := by
    decide +kernel
  exact hclosed s htexts

theorem draft_filled_token :
    tokenProfile.FillsClosed tokenMessage ∧
      ((tokenProfile.filled tokenMessage).draft {} tokenMessage).result =
        ((tokenProfile.draft {} tokenMessage).result.map fun d => d.set (.version "2.0")) := by
  have hversion : tokenMessage.view.fillSetting (tokenProfile.text .version) = "2.0" := by
    decide +kernel
  have hfilled := (draft_filled fillsClosed_token {}).1
  rw [hversion] at hfilled
  exact ⟨fillsClosed_token, hfilled⟩

/-- The token is sent, although the profile with filled settings sends its value. -/
theorem draft_token_ne_filled :
    tokenProfile.FillsClosed tokenMessage ∧
      ((tokenProfile.draft {} tokenMessage).result.toOption.map (·.version)) =
        some "%message{v}" ∧
      (((tokenProfile.filled tokenMessage).draft {} tokenMessage).result.toOption.map
        (·.version)) = some "2.0" ∧
      (tokenProfile.draft {} tokenMessage).result ≠
        ((tokenProfile.filled tokenMessage).draft {} tokenMessage).result := by
  have htoken : ((tokenProfile.draft {} tokenMessage).result.toOption.map (·.version)) =
      some "%message{v}" := by
    decide +kernel
  have hvalue : (((tokenProfile.filled tokenMessage).draft {} tokenMessage).result.toOption.map
      (·.version)) = some "2.0" := by
    decide +kernel
  refine ⟨fillsClosed_token, htoken, hvalue, fun heq => ?_⟩
  rw [heq, hvalue] at htoken
  exact absurd htoken (by decide)

end RequestSigning.Profile
