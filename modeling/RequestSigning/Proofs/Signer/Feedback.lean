import Mathlib.Data.List.Basic
import RequestSigning.Proofs.Signer.Results
import RequestSigning.Proofs.Template

/-!
# Headers and the metadata they are stored in

A message signer stores the header in the message that it was made from, and the next header of the
message is made from that. If neither a template nor the form refers to the target key, then the
stored header is not seen, so that signing again changes nothing.

* `Profile.ReadsAlike`: two messages that a profile cannot tell apart, with
  `Profile.ReadsAlike.draft`: they have the same draft, the same failure and the same log.
* `Profile.Unreferred`: a key that the settings of a profile do not refer to.
* `MessageSigner.Unreferred`: the same for all of a signer, with
  `MessageSigner.Unreferred.header_insert`.
* `MessageSigner.signInPlace_stable`: signing with any value under the target key, and signing any
  number of times.
-/

namespace RequestSigning

/-- Metadata that is there already is not changed by another write of the same. -/
theorem Message.insert_insert (m : Message) (key value : String) :
    (m.insert key value).insert key value = m.insert key value := by
  rw [Message.insert, Message.insert, Table.insert_insert]

namespace Profile

variable {p : Profile} {h : Host} {m m' : MessageView} {key : String}

/-! ### Messages that a profile cannot tell apart -/

/-- Two messages with one identifier, from which the settings of a profile are read alike. -/
structure ReadsAlike (p : Profile) (h : Host) (m m' : MessageView) : Prop where
  uniqueId : m'.uniqueId = m.uniqueId
  settings : ∀ f : Field, f.isSecret = false →
    m'.readSetting (p.text f) = m.readSetting (p.text f)
  secrets : ∀ f : Field, f.isSecret = true → readSecret h m' (p.text f) = readSecret h m (p.text f)

theorem ReadsAlike.credential (hp : p.ReadsAlike h m m') :
    p.credential h m' = p.credential h m := by
  rw [Profile.credential, Profile.credential, hp.settings .consumerKey rfl,
    hp.secrets .consumerSecret rfl, hp.settings .accessToken rfl, hp.secrets .tokenSecret rfl]

theorem ReadsAlike.nonce (hp : p.ReadsAlike h m m') : p.nonce m' = p.nonce m := by
  rw [Profile.nonce, Profile.nonce, hp.settings .nonce rfl, MessageView.derivedNonce,
    MessageView.derivedNonce, hp.uniqueId]

theorem ReadsAlike.signingMethod (hp : p.ReadsAlike h m m') :
    p.signingMethod m' = p.signingMethod m := by
  have hread := hp.settings .signingMethod rfl
  rw [Profile.signingMethod, Profile.signingMethod]
  cases htext : p.text .signingMethod with
  | none => rfl
  | some text =>
    rw [htext] at hread
    exact congrArg (· >>= SigningMethod.find) hread

/-- Such messages have the same draft, with the same log, or no draft for the same failure. -/
theorem ReadsAlike.draft (hp : p.ReadsAlike h m m') : p.draft h m' = p.draft h m := by
  have hwith : p.draftWith m' = p.draftWith m := by
    funext c
    rw [Profile.draftWith, Profile.draftWith, hp.nonce, hp.signingMethod, hp.settings .realm rfl,
      hp.settings .verifier rfl]
  rw [Profile.draft, Profile.draft, hp.credential, hwith]

/-! ### Keys without a reference -/

/-- No setting of a profile refers to a key. A secret counts as it stands after the variables of the
host are filled in. -/
structure Unreferred (p : Profile) (h : Host) (key : String) : Prop where
  settings : ∀ f : Field, f.isSecret = false → ∀ text ∈ p.text f, ¬ Message.Refers text key
  secrets : ∀ f : Field, f.isSecret = true →
    ∀ text ∈ p.text f, ¬ Message.Refers (h.fillVariables text) key

theorem Unreferred.readsAlike_insert (hp : p.Unreferred h key) (m : Message) (value : String) :
    p.ReadsAlike h m (m.insert key value) := by
  refine ⟨rfl, fun f hf => m.readSetting_insert (hp.settings f hf) value, fun f hf => ?_⟩
  cases htext : p.text f with
  | none => rfl
  | some text =>
    rw [readSecret, readSecret, Message.read_view, Message.read_view,
      m.read_insert (hp.secrets f hf text htext) value]

end Profile

namespace MessageSigner

variable {s : MessageSigner} {h : Host} {t : Instant}

/-- The target key is no form field, and no template of the signer refers to it. -/
structure Unreferred (s : MessageSigner) (h : Host) : Prop where
  url : ¬ Message.Refers s.url s.targetKey
  httpMethod : ¬ Message.Refers s.httpMethod s.targetKey
  profile : s.profile.Unreferred h s.targetKey
  formFields : s.targetKey ∉ s.formFields

theorem Unreferred.formPairs_insert (hs : s.Unreferred h) (m : Message) (value : String) :
    s.formPairs (m.insert s.targetKey value) = s.formPairs m := by
  refine List.filterMap_congr fun field hfield => ?_
  have hne : s.targetKey ≠ field := by
    rintro rfl
    exact hs.formFields hfield
  rw [Message.insert, Dictionary.get?_insert, if_neg hne]

/-- What is stored under the target key is not seen. -/
theorem Unreferred.header_insert (hs : s.Unreferred h) (now : Instant) (m : Message)
    (value : String) :
    s.header h now (m.insert s.targetKey value) = s.header h now m := by
  have hdraft : ∀ method url,
      s.profile.draftFor h method url (m.insert s.targetKey value) =
        s.profile.draftFor h method url m := by
    intro method url
    rw [Profile.draftFor, Profile.draftFor, (hs.profile.readsAlike_insert m value).draft]
  have hsettings : s.settings (m.insert s.targetKey value) = s.settings m := by
    rw [settings, settings, hs.formPairs_insert]
  rw [header, header, m.read_insert hs.url, m.read_insert hs.httpMethod, hsettings]
  simp only [hdraft]

/-- A signer whose time is fixed makes its headers at any instant. -/
theorem header_congr (htime : s.time = some t) (h : Host) (now now' : Instant) (m : Message) :
    s.header h now m = s.header h now' m := by
  rw [header, header]
  simp only [build_settings htime m _ now now']

/-! ### Signing again -/

/-- Whatever is stored under the target key, signing answers and notes the same. -/
theorem Unreferred.run_insert (hs : s.Unreferred h) (now : Instant) (m : Message)
    (value : String) :
    ((s.signInPlace h now).run (m.insert s.targetKey value)).1 =
      ((s.signInPlace h now).run m).1 := by
  have hinsert := hs.header_insert now m value
  cases hheader : (s.header h now m).result with
  | error f =>
    rw [run_signInPlace_of_error hheader, run_signInPlace_of_error (hinsert ▸ hheader), hinsert]
  | ok header =>
    rw [run_signInPlace_of_ok hheader, run_signInPlace_of_ok (hinsert ▸ hheader), hinsert,
      Message.uniqueId_insert]

/-- A header that is answered is stored. -/
theorem run_of_result {now : Instant} {m : Message} {header : String}
    (hresult : ((s.signInPlace h now).run m).1.result = .ok header) :
    (s.signInPlace h now).run m =
      (⟨.ok header, ((s.signInPlace h now).run m).1.log⟩, m.insert s.targetKey header) := by
  cases hheader : (s.header h now m).result with
  | error f =>
    rw [run_signInPlace_of_error hheader] at hresult
    exact absurd hresult (by simp)
  | ok made =>
    rw [run_signInPlace_of_ok hheader] at hresult ⊢
    rw [Except.ok.inj hresult]

theorem insert_of_run {now : Instant} {m stored : Message} {header : String} {log : List Event}
    (hrun : (s.signInPlace h now).run m = (⟨.ok header, log⟩, stored)) :
    m.insert s.targetKey header = stored := by
  have hfirst := run_of_result (m := m) (by rw [hrun])
  rw [hrun] at hfirst
  exact (Prod.mk.inj hfirst).2.symm

/-- A message in which the header is stored is signed with that header, and stays as it is. -/
theorem Unreferred.run_stored (hs : s.Unreferred h) {now : Instant} {m stored : Message}
    {header : String} {log : List Event}
    (hrun : (s.signInPlace h now).run m = (⟨.ok header, log⟩, stored)) :
    (s.signInPlace h now).run stored = (⟨.ok header, log⟩, stored) := by
  have hstored : m.insert s.targetKey header = stored := insert_of_run hrun
  have houtcome : ((s.signInPlace h now).run stored).1 = ⟨.ok header, log⟩ := by
    rw [← hstored, hs.run_insert, hrun]
  rw [run_of_result (by rw [houtcome]), houtcome, ← hstored, Message.insert_insert]

/-- If neither a template nor the form of a signer refers to its target key, then the metadata
there does not matter for what signing answers and notes. Signing again, any number of times and
at any instant, answers the same header and leaves the message, with that header, as it is. -/
theorem signInPlace_stable (htime : s.time = some t) (hs : s.Unreferred h) (m : Message)
    (now now' : Instant) :
    (∀ value, ((s.signInPlace h now').run (m.insert s.targetKey value)).1 =
      ((s.signInPlace h now).run m).1) ∧
    ∀ header log stored, (s.signInPlace h now).run m = (⟨.ok header, log⟩, stored) →
      stored.metadata.get? s.targetKey = some header ∧
      (s.signInPlace h now').run stored = (⟨.ok header, log⟩, stored) ∧
      ∀ nows : List Instant, InPlace.runAll (nows.map (s.signInPlace h)) stored =
        (nows.map fun _ => .ok header, stored) := by
  have hnow : ∀ i, s.signInPlace h i = s.signInPlace h now := by
    intro i
    simp only [signInPlace, header_congr htime h i now]
  refine ⟨fun value => ?_, fun header log stored hrun => ?_⟩
  · rw [hnow now', hs.run_insert]
  · have hagain := hs.run_stored hrun
    have hheld : stored.metadata.get? s.targetKey = some header := by
      rw [← insert_of_run hrun, Message.get?_insert_self]
    refine ⟨hheld, by rw [hnow now', hagain], fun nows => ?_⟩
    have hall : ∀ x ∈ nows.map (s.signInPlace h),
        (x.run stored).1.result = .ok header ∧ (x.run stored).2 = stored := by
      intro x hx
      obtain ⟨i, -, rfl⟩ := List.mem_map.mp hx
      rw [hnow i, hagain]
      exact ⟨rfl, rfl⟩
    rw [InPlace.runAll_of_fixed hall, List.map_map]
    rfl

/-- A signer whose nonce ends with an opening that is not closed, and whose realm has one token
within another. -/
def openSigner (t : Instant) : MessageSigner where
  profile :=
    { text := fun
        | .consumerKey => some "k"
        | .consumerSecret => some "%env{S}"
        | .nonce => some "%message{n}%message\x7bAuthorization"
        | .realm => some "%message\x7bAuthorization%message\x7bn\x7d"
        | .signingMethod => some "PLAINTEXT"
        | _ => none }
  url := "http://%message{host}/"
  targetKey := "Authorization"
  formFields := ["n"]
  time := some t

/-- A host with a secret that brings in another opening. -/
def openHost : Host where
  environment := .ofTable (Table.ofList [("S", "s%message\x7bAuthorization")])

def openMessage : Message where
  uniqueId := "id-1"
  metadata := Table.ofList [("host", "h"), ("n", "1")]

/-- The templates of the signer that are not secrets. -/
def openTemplates : List String :=
  ["http://%message{host}/", Protocol.standardHttpMethod, "k",
    "%message{n}%message\x7bAuthorization", "%message\x7bAuthorization%message\x7bn\x7d",
    "PLAINTEXT"]

theorem unreferred_open (t : Instant) : (openSigner t).Unreferred openHost := by
  have htemplates : ∀ text ∈ openTemplates, ¬ Message.Refers text "Authorization" := by
    decide +kernel
  have hsecret : ¬ Message.Refers (openHost.fillVariables "%env{S}") "Authorization" := by
    decide +kernel
  have hform : "Authorization" ∉ ["n"] := by decide
  refine ⟨htemplates _ List.mem_cons_self, htemplates _ (List.mem_cons_of_mem _ List.mem_cons_self),
    ⟨fun f hf text htext => ?_, fun f hf text htext => ?_⟩, hform⟩
  · have hmem : text ∈ openTemplates := by
      cases f <;> simp_all [openSigner, openTemplates, Profile.Field.isSecret]
    exact htemplates text hmem
  · have htext : text = "%env{S}" := by
      cases f <;> simp_all [openSigner, Profile.Field.isSecret]
    rw [htext]
    exact hsecret

def openHeader : String :=
  "OAuth oauth_consumer_key=\"k\", oauth_nonce=\"1%message\x7bAuthorization\", " ++
    "oauth_signature=\"cyVtZXNzYWdle0F1dGhvcml6YXRpb24m\", " ++
    "oauth_signature_method=\"PLAINTEXT\", oauth_timestamp=\"1\", oauth_version=\"1.0\", " ++
    "realm=\"%message\x7bAuthorization%message\x7bn\x7d\""

theorem signInPlace_stable_open :
    let s := openSigner ⟨1, 0⟩
    let signed := openMessage.insert "Authorization" openHeader
    let other := openMessage.insert "Authorization" "%message{n}"
    s.time = some ⟨1, 0⟩ ∧ s.Unreferred openHost ∧
      ∃ log,
        (s.signInPlace openHost ⟨2, 0⟩).run openMessage = (⟨.ok openHeader, log⟩, signed) ∧
        signed.metadata.get? "Authorization" = some openHeader ∧
        ((s.signInPlace openHost ⟨3, 0⟩).run other).1 = ⟨.ok openHeader, log⟩ ∧
        other.metadata.get? "Authorization" = some "%message{n}" ∧
        (s.signInPlace openHost ⟨3, 0⟩).run signed = (⟨.ok openHeader, log⟩, signed) := by
  intro s signed other
  have htime : s.time = some ⟨1, 0⟩ := rfl
  have hfree : s.Unreferred openHost := unreferred_open _
  have hresult : ((s.signInPlace openHost ⟨2, 0⟩).run openMessage).1.result = .ok openHeader :=
    Outcome.eq_ok_of_toOption (by decide +kernel)
  have hrun := run_of_result hresult
  obtain ⟨hvalue, hagain⟩ := signInPlace_stable htime hfree openMessage ⟨2, 0⟩ ⟨3, 0⟩
  obtain ⟨hheld, hsecond, -⟩ := hagain openHeader _ signed hrun
  refine ⟨htime, hfree, _, hrun, hheld, ?_, openMessage.get?_insert_self _ _, hsecond⟩
  exact (hvalue "%message{n}").trans (congrArg Prod.fst hrun)

end MessageSigner

end RequestSigning
