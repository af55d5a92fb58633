import RequestSigning.Proofs.Profile.Credential
import RequestSigning.Proofs.Signer.Results

/-!
# How signing fails

Each step towards a signature fails with one or two kinds of failure. What the host reports while a
secret is decoded is not passed on: it becomes a failure of configuration.

* `Profile.failsWith_credential`, `Profile.failsWith_draft`: configuration only.
* `Draft.failsWith_build`: configuration, or an address that has no signed form.
* `MessageSigner.failsWith_header`, `HttpSigner.failsWith_sign`: the kinds of the signers.
* `Profile.Undecodable`, `Profile.credential_of_undecodable`: a secret that the host does not
  decode.
-/

namespace RequestSigning

open Outcome

/-! ### Steps that many computations share -/

/-- Blank text is a fault of configuration. -/
theorem Required.failsWith_check (what : Required) (s : String) :
    (ofExcept (what.check s)).FailsWith [.configuration] := by
  intro f hf
  cases hblank : Text.isBlank s with
  | true =>
    rw [result_ofExcept, what.check_of_blank hblank] at hf
    rw [← Except.error.inj hf]
    exact List.mem_singleton_self _
  | false =>
    rw [result_ofExcept, what.check_of_not_blank hblank] at hf
    exact absurd hf (by simp)

theorem Message.failsWith_read (m : Message) (text : String) {kinds : List Failure.Kind} :
    (m.read text).FailsWith kinds :=
  failsWith_of_ok (m.result_read text)

/-! ### Profiles -/

namespace Profile

theorem failsWith_credential (p : Profile) (h : Host) (m : MessageView) :
    (p.credential h m).FailsWith [.configuration] := by
  intro f hf
  exact List.mem_singleton.mpr ((p.credential_eq_error_iff h m f).mp hf).kind_eq

theorem failsWith_draftWith (p : Profile) (m : MessageView) (c : Credential) :
    (p.draftWith m c).FailsWith [.configuration] := by
  intro f hf
  rw [result_draftWith] at hf
  split at hf
  · exact absurd hf (by simp)
  · rw [← Except.error.inj hf]
    exact List.mem_singleton_self _

theorem failsWith_draft (p : Profile) (h : Host) (m : MessageView) :
    (p.draft h m).FailsWith [.configuration] :=
  (p.failsWith_credential h m).bind fun c => p.failsWith_draftWith m c

theorem failsWith_draftFor (p : Profile) (h : Host) (method : String) (url : Uri)
    (m : MessageView) :
    (p.draftFor h method url m).FailsWith [.configuration] :=
  (p.failsWith_draft h m).bind fun _ => failsWith_of_ok (result_pure _)

end Profile

/-! ### Drafts -/

theorem Uri.failsWith_baseText (u : Uri) : (ofExcept u.baseText).FailsWith [.encoding] := by
  intro f hf
  rw [result_ofExcept, baseText] at hf
  split at hf
  · rw [← Except.error.inj hf]
    exact List.mem_singleton_self _
  · dsimp only at hf
    split at hf
    · rw [← Except.error.inj hf]
      exact List.mem_singleton_self _
    · exact absurd hf (by simp)

namespace Draft

theorem failsWith_check (d : Draft) : (ofExcept d.check).FailsWith [.configuration] := by
  refine (Required.failsWith_check _ _).ofExcept_bind fun _ => ?_
  refine (Required.failsWith_check _ _).ofExcept_bind fun _ => ?_
  refine (Required.failsWith_check _ _).ofExcept_bind fun _ => ?_
  refine (Required.failsWith_check _ _).ofExcept_bind fun _ => ?_
  intro f hf
  rw [result_ofExcept] at hf
  split at hf
  · exact absurd hf (by simp)
  · rw [← Except.error.inj hf]
    exact List.mem_singleton_self _

theorem failsWith_baseText (d : Draft) (timestamp : String) :
    (ofExcept (d.baseText timestamp)).FailsWith [.configuration, .encoding] := by
  refine FailsWith.ofExcept_bind (d.failsWith_check.mono (by decide)) fun url f hf => ?_
  rw [result_ofExcept, baseTextAt] at hf
  exact url.failsWith_baseText.mono (by decide) f (map_eq_error_iff.mp hf)

theorem failsWith_build (d : Draft) (now : Instant) :
    (d.build now).FailsWith [.configuration, .encoding] :=
  (d.failsWith_baseText _).bind fun _ =>
    (failsWith_of_ok (result_note _)).bind fun _ => failsWith_of_ok (result_pure _)

end Draft

/-! ### Signers -/

namespace MessageSigner

theorem failsWith_check (s : MessageSigner) : (ofExcept s.check).FailsWith [.configuration] :=
  (Required.failsWith_check _ _).ofExcept_bind fun _ =>
    (Required.failsWith_check _ _).ofExcept_bind fun _ => Required.failsWith_check _ _

theorem failsWith_address (text : String) : (ofExcept (address text)).FailsWith [.encoding] := by
  intro f hf
  rw [result_ofExcept, address] at hf
  obtain ⟨fault, -, rfl⟩ := mapError_eq_error_iff.mp hf
  exact List.mem_singleton_self _

theorem failsWith_header (s : MessageSigner) (h : Host) (now : Instant) (m : Message) :
    (s.header h now m).FailsWith [.configuration, .encoding] :=
  (s.failsWith_check.mono (by decide)).bind fun _ =>
    (m.failsWith_read _).bind fun _ =>
      ((failsWith_address _).mono (by decide)).bind fun _ =>
        (m.failsWith_read _).bind fun _ =>
          ((s.profile.failsWith_draftFor h _ _ m).mono (by decide)).bind fun _ =>
            Draft.failsWith_build _ now

end MessageSigner

namespace HttpSigner

theorem failsWith_header (s : HttpSigner) (h : Host) (fresh : Message) (now : Instant)
    (r : Http.Request) (override : Option Credential) :
    (s.header h fresh now r override).FailsWith [.configuration, .encoding] := by
  have hdraft : ∀ c : Credential, (s.profile.draftWith (s.message.getD fresh) c >>= fun d =>
      (d.setAll (s.settings r)).build now).FailsWith [.configuration, .encoding] := fun c =>
    ((s.profile.failsWith_draftWith _ c).mono (by decide)).bind fun _ =>
      Draft.failsWith_build _ now
  cases override with
  | some c => exact (failsWith_of_ok (result_pure c)).bind hdraft
  | none => exact ((s.profile.failsWith_credential h _).mono (by decide)).bind hdraft

theorem failsWith_field (header : String) : (ofExcept (field header)).FailsWith [.request] := by
  intro f hf
  rw [result_ofExcept, field] at hf
  split at hf
  · exact absurd hf (by simp)
  · rw [← Except.error.inj hf]
    exact List.mem_singleton_self _

theorem failsWith_sign (s : HttpSigner) (h : Host) (fresh : Message) (now : Instant)
    (r : Http.Request) (override : Option Credential) :
    (s.sign h fresh now r override).FailsWith [.configuration, .encoding, .request] :=
  ((s.failsWith_header h fresh now r override).mono (by decide)).bind fun header =>
    ((failsWith_field header).mono (by decide)).bind fun _ => failsWith_of_ok (result_pure _)

end HttpSigner

/-! ### Secrets that are not decoded -/

namespace Profile

/-- For this message the decoder of the host refuses a secret of the profile. -/
def Undecodable (p : Profile) (h : Host) (m : MessageView) : Prop :=
  ∃ field text cause, Field.isSecret field = true ∧ p.text field = some text ∧
    h.decoder.decode (m.fill (h.fillVariables text)) = .error cause

theorem Undecodable.obstructed {p : Profile} {h : Host} {m : MessageView}
    (hp : p.Undecodable h m) : p.Obstructed h m := by
  obtain ⟨field, text, cause, hfield, htext, hd⟩ := hp
  have hrefused : decodedSecret h m (p.text field) = .error cause := by
    rw [htext]
    exact hd
  cases field with
  | consumerSecret => exact .inr (.inl ⟨cause, hrefused⟩)
  | tokenSecret => exact .inr (.inr (.inr ⟨cause, hrefused⟩))
  | _ => exact absurd hfield (by decide)

/-- A refused secret leaves a profile without a credential, and it is its configuration that is at
fault. -/
theorem credential_of_undecodable {p : Profile} {h : Host} {m : MessageView}
    (hp : p.Undecodable h m) :
    ∃ f, (p.credential h m).result = .error f ∧ f.kind = .configuration := by
  obtain ⟨f, hf⟩ := (p.exists_failure_iff_obstructed h m).mpr hp.obstructed
  exact ⟨f, hf, ((p.credential_eq_error_iff h m f).mp hf).kind_eq⟩

end Profile

/-- A message signer fails with that fault, unless it fails before that because there is no address
for the message. -/
theorem MessageSigner.header_of_undecodable {s : MessageSigner} {h : Host} {m : Message}
    (hp : s.profile.Undecodable h m) (now : Instant) :
    ∃ f, (s.header h now m).result = .error f ∧
      (f.kind = .configuration ∨ address (m.fill s.url) = .error f) := by
  cases hcheck : s.check with
  | error f =>
    refine ⟨f, ?_, .inl (List.mem_singleton.mp (s.failsWith_check f hcheck))⟩
    rw [header, bind_of_error (x := ofExcept s.check) hcheck]
  | ok u =>
    cases haddress : address (m.fill s.url) with
    | error f =>
      refine ⟨f, ?_, .inr rfl⟩
      rw [header, result_bind_of_ok (x := ofExcept s.check) hcheck,
        result_bind_of_ok (m.result_read s.url),
        bind_of_error (x := ofExcept (address (m.fill s.url))) haddress]
    | ok url =>
      obtain ⟨f, hf, hkind⟩ := Profile.credential_of_undecodable hp
      refine ⟨f, ?_, .inl hkind⟩
      rw [result_header hcheck haddress, Profile.result_draftFor, Profile.result_draft, hf]
      rfl

/-- A request signer that is given no credential fails with that fault. -/
theorem HttpSigner.header_of_undecodable {s : HttpSigner} {h : Host} {fresh : Message}
    (hp : s.profile.Undecodable h (s.message.getD fresh)) (now : Instant) (r : Http.Request) :
    ∃ f, (s.header h fresh now r none).result = .error f ∧ f.kind = .configuration := by
  obtain ⟨f, hf, hkind⟩ := Profile.credential_of_undecodable hp
  refine ⟨f, ?_, hkind⟩
  rw [result_header_none, Profile.result_draft, hf]
  rfl

end RequestSigning
