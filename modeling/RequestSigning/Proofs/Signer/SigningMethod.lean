import RequestSigning.Proofs.Signer.Results
import RequestSigning.Proofs.SigningMethod

/-!
# The signing method of a header

The name of a signing method passes through several hands: a profile reads it from its filled text,
a draft holds the method, and a header carries a name again, next to a signature that was made with
the method. Here it is followed all the way, so that the name in a header can be read as the method
that verifies its signature.

* `Profile.Chooses`, `Profile.chooses_iff`: the method that a profile chooses for a message, and the
  warnings on the way.
* `Profile.Makes`, `Makes.signingMethod`: the drafts that a profile makes hold this method.
* `Header.SignedWith`, `Draft.signedWith_of_build`: a header names the method of its signature.
* `Profile.HeaderFrom`, `HeaderFrom.exists_draft`: headers of all kinds come from such drafts.
* `Profile.signingMethod_declared`: all this together.
-/

namespace RequestSigning

/-! ### Warnings -/

namespace Outcome

variable {α β : Type}

/-- The events of a log that are warnings. -/
def warnings (x : Outcome α) : List Event :=
  x.log.filter fun e => e.level = .warn

theorem warnings_bind_of_ok {x : Outcome α} {a : α} (h : x.result = .ok a) (f : α → Outcome β) :
    (x >>= f).warnings = x.warnings ++ (f a).warnings := by
  rw [bind_of_ok h]
  exact List.filter_append _ _

end Outcome

/-- Metadata that is missing is no reason for a warning. -/
theorem Message.warnings_readSetting (m : Message) (setting : Option String) :
    (m.view.readSetting setting).warnings = [] := by
  cases setting with
  | none => rfl
  | some text =>
    rw [Outcome.warnings, List.filter_eq_nil_iff]
    intro e he
    obtain ⟨key, -, rfl⟩ := List.mem_map.mp he
    show ¬ decide (Level.debug = Level.warn) = true
    decide

/-- A name is worth a warning if no method has it and if it is not blank. -/
theorem SigningMethod.warnings_find (name : String) :
    (find name).warnings =
      if named? name = none ∧ Text.isBlank name = false then [.unknownMethod name] else [] := by
  unfold find
  cases named? name with
  | some m => rfl
  | none =>
    show List.filter _ (if Text.isBlank name then [] else [Event.unknownMethod name]) = _
    cases Text.isBlank name <;> rfl

/-! ### What a profile chooses -/

namespace Profile

/-- The signing method that a profile chooses for a message, and the warnings that this is worth:
the method that the filled text names, or HMAC-SHA1 if there is no text or if it names none. Only a
text that is neither blank nor a name is worth a warning. -/
inductive Chooses (p : Profile) (m : MessageView) : SigningMethod → List Event → Prop
  | unset (hunset : p.text .signingMethod = none) : Chooses p m .hmacSha1 []
  | named {text : String} {x : SigningMethod} (htext : p.text .signingMethod = some text)
      (hx : x.NamedBy (m.fill text)) : Chooses p m x []
  | blank {text : String} (htext : p.text .signingMethod = some text)
      (hblank : Text.isBlank (m.fill text) = true) : Chooses p m .hmacSha1 []
  | unknown {text : String} (htext : p.text .signingMethod = some text)
      (hnone : ∀ x : SigningMethod, ¬ x.NamedBy (m.fill text))
      (hblank : Text.isBlank (m.fill text) = false) :
      Chooses p m .hmacSha1 [.unknownMethod (m.fill text)]

variable {p : Profile} {m : MessageView}

theorem signingMethod_of_unset (hunset : p.text .signingMethod = none) :
    p.signingMethod m = pure .hmacSha1 := by
  rw [signingMethod, hunset]
  rfl

theorem warnings_signingMethod_of_set {text : String}
    (htext : p.text .signingMethod = some text) :
    (p.signingMethod m).warnings = (m.read text).warnings ++
      if SigningMethod.named? (m.fill text) = none ∧ Text.isBlank (m.fill text) = false then
        [.unknownMethod (m.fill text)] else [] := by
  rw [signingMethod, htext]
  show (m.read text >>= fun filled => SigningMethod.find filled).warnings = _
  rw [Outcome.warnings_bind_of_ok (m.result_read text), SigningMethod.warnings_find]

theorem result_signingMethod_of_set {text : String}
    (htext : p.text .signingMethod = some text) :
    (p.signingMethod m).result =
      .ok ((SigningMethod.named? (m.fill text)).getD .hmacSha1) := by
  rw [result_signingMethod, MessageView.fillSetting, htext, Option.map_some, Option.getD_some,
    SigningMethod.standard]

/-- What is chosen is what the profile yields, and its warnings follow those of the message. -/
theorem Chooses.eq {x : SigningMethod} {warnings : List Event} (h : p.Chooses m x warnings) :
    (p.signingMethod m).result = .ok x ∧
      (p.signingMethod m).warnings =
        (m.readSetting (p.text .signingMethod)).warnings ++ warnings := by
  cases h with
  | unset hunset =>
    rw [signingMethod_of_unset hunset, hunset]
    exact ⟨rfl, rfl⟩
  | named htext hx =>
    rw [result_signingMethod_of_set htext, warnings_signingMethod_of_set htext, htext,
      (SigningMethod.named?_eq_some_iff _ _).mpr hx]
    exact ⟨rfl, rfl⟩
  | blank htext hblank =>
    -- a blank text is refused like any other that names no method
    have hnone := (SigningMethod.named?_eq_none_iff _).mpr fun _ =>
      SigningMethod.not_namedBy_of_isBlank hblank
    rw [result_signingMethod_of_set htext, warnings_signingMethod_of_set htext, htext, hnone,
      hblank]
    exact ⟨rfl, rfl⟩
  | unknown htext hnone hblank =>
    rw [result_signingMethod_of_set htext, warnings_signingMethod_of_set htext, htext,
      (SigningMethod.named?_eq_none_iff _).mpr hnone, hblank]
    exact ⟨rfl, rfl⟩

/-- A profile chooses a method for every message. -/
theorem exists_chooses (p : Profile) (m : MessageView) :
    ∃ x warnings, p.Chooses m x warnings := by
  cases htext : p.text .signingMethod with
  | none => exact ⟨_, _, .unset htext⟩
  | some text =>
    cases hnamed : SigningMethod.named? (m.fill text) with
    | some x => exact ⟨_, _, .named htext ((SigningMethod.named?_eq_some_iff _ x).mp hnamed)⟩
    | none =>
      have hnone := (SigningMethod.named?_eq_none_iff _).mp hnamed
      cases hblank : Text.isBlank (m.fill text) with
      | true => exact ⟨_, _, .blank htext hblank⟩
      | false => exact ⟨_, _, .unknown htext hnone hblank⟩

theorem chooses_iff (p : Profile) (m : MessageView) (x : SigningMethod) (warnings : List Event) :
    p.Chooses m x warnings ↔
      (p.signingMethod m).result = .ok x ∧
        (p.signingMethod m).warnings =
          (m.readSetting (p.text .signingMethod)).warnings ++ warnings := by
  constructor
  · exact Chooses.eq
  · rintro ⟨hresult, hwarnings⟩
    obtain ⟨y, warnings', hchosen⟩ := p.exists_chooses m
    obtain ⟨hresult', hwarnings'⟩ := hchosen.eq
    obtain rfl : y = x := Except.ok.inj (hresult'.symm.trans hresult)
    rw [List.append_cancel_left (hwarnings.symm.trans hwarnings')]
    exact hchosen

end Profile

/-! ### Drafts of a profile -/

/-- Other values leave the signing method of a draft alone. -/
theorem Draft.signingMethod_set {s : Setting} (hs : ∀ x, s ≠ .signingMethod x) (d : Draft) :
    (d.set s).signingMethod = d.signingMethod := by
  cases s with
  | signingMethod x => exact absurd rfl (hs x)
  | _ => rfl

namespace Profile

variable {p : Profile} {m : MessageView}

/-- The drafts that a profile makes for a message: the one with some credential, on which any values
but another signing method may be set. -/
inductive Makes (p : Profile) (m : MessageView) : Draft → Prop
  | start {c : Credential} {d : Draft} (hd : (p.draftWith m c).result = .ok d) : Makes p m d
  | set {d : Draft} {s : Draft.Setting} (hd : Makes p m d)
      (hs : ∀ x, s ≠ .signingMethod x) : Makes p m (d.set s)

theorem signingMethod_settled (p : Profile) (m : MessageView) (c : Credential) :
    (p.settled m c).signingMethod =
      (SigningMethod.named? (m.fillSetting (p.text .signingMethod))).getD
        SigningMethod.standard := by
  simp only [settled, Draft.setAll, List.foldl_cons, List.foldl_nil, Draft.set]

/-- A draft that a profile makes holds the method that the profile chooses. -/
theorem Makes.signingMethod {d : Draft} (h : p.Makes m d) :
    (p.signingMethod m).result = .ok d.signingMethod := by
  induction h with
  | start hd =>
    rw [result_draftWith] at hd
    split at hd
    · rw [← Except.ok.inj hd, signingMethod_settled]
      exact p.result_signingMethod m
    · exact absurd hd (by simp)
  | set _ hs ih => rw [Draft.signingMethod_set hs, ih]

theorem Makes.setAll {d : Draft} (h : p.Makes m d) {settings : List Draft.Setting}
    (hs : ∀ s ∈ settings, ∀ x, s ≠ .signingMethod x) : p.Makes m (d.setAll settings) := by
  induction settings generalizing d with
  | nil => exact h
  | cons s rest ih =>
    obtain ⟨hfirst, hrest⟩ := List.forall_mem_cons.mp hs
    exact ih (h.set hfirst) hrest

theorem makes_of_draft {h : Host} {d : Draft} (hd : (p.draft h m).result = .ok d) :
    p.Makes m d := by
  obtain ⟨c, -, hc⟩ := Outcome.result_bind_eq_ok_iff.mp hd
  exact .start hc

theorem makes_of_draftFor {h : Host} {method : String} {url : Uri} {d : Draft}
    (hd : (p.draftFor h method url m).result = .ok d) : p.Makes m d := by
  obtain ⟨d₀, hd₀, hset⟩ := Outcome.result_bind_eq_ok_iff.mp hd
  rw [← Except.ok.inj hset]
  exact (makes_of_draft hd₀).setAll (by simp)

end Profile

/-! ### Headers of a draft -/

/-- A header says how it was signed: what it carries as the signing method is read as `x`, and what
it carries as the signature are the bytes of `x` for the key and the text. -/
def Header.SignedWith (x : SigningMethod) (key text header : String) : Prop :=
  ∃ params name signature,
    header = Header.write params ∧
    params.get? Protocol.signatureMethod = some name ∧ SigningMethod.ofName name = .ok x ∧
    params.get? Protocol.signature = some signature ∧
    (Utf8.text? (Percent.decode signature.toList)).bind Base64.decode? =
      some (x.digest (Utf8.bytes key.toList) (Utf8.bytes text.toList))

/-- Every header that is built from any draft is signed with the method that it names. -/
theorem Draft.signedWith_of_build {d : Draft} {now : Instant} {header : String}
    (hbuild : (d.build now).result = .ok header) :
    ∃ base, d.baseText (d.instant now).unixText = .ok base ∧
      Header.SignedWith d.signingMethod d.signingKey base header := by
  rw [result_build] at hbuild
  obtain ⟨base, hbase, rfl⟩ := Outcome.map_eq_ok_iff.mp hbuild
  obtain ⟨url, hcheck, -⟩ := (d.baseText_eq_ok_iff _ base).mp hbase
  have hentries : (d.headerParams (d.instant now).unixText base).entries =
      d.headerEntries (d.instant now).unixText (d.signature base) :=
    entries_headerParams hcheck (isBlank_unixText (d.instant now))
  have hvalue : ∀ e ∈ d.headerEntries (d.instant now).unixText (d.signature base),
      (d.headerParams (d.instant now).unixText base).get? e.1 = some e.2 := by
    intro e he
    rw [← hentries] at he
    exact ((Table.mem_entries_iff _ e).mp he).2
  have hname := hvalue (Protocol.signatureMethod, d.signingMethod.wireName)
    (by simp [headerEntries])
  have hsignature := hvalue (Protocol.signature, d.signature base) (by simp [headerEntries])
  have hread : SigningMethod.ofName d.signingMethod.wireName = .ok d.signingMethod :=
    (SigningMethod.ofName_eq_ok_iff _ _).mpr d.signingMethod.namedBy_wireName
  exact ⟨base, hbase, _, _, _, rfl, hname, hread, hsignature, d.decode_signature base⟩

/-! ### Headers of a profile -/

namespace Profile

/-- The headers that are made from a profile for a message: those of its drafts, and those of the
signers that have this profile. -/
inductive HeaderFrom (p : Profile) (m : MessageView) (now : Instant) (header : String) : Prop
  | draft {d : Draft} (hd : p.Makes m d) (hheader : (d.build now).result = .ok header)
  | message {s : MessageSigner} {h : Host} {held : Message} (hs : s.profile = p) (hm : held = m)
      (hheader : (s.header h now held).result = .ok header)
  | request {s : HttpSigner} {h : Host} {fresh : Message} {r : Http.Request}
      {override : Option Credential} (hs : s.profile = p) (hm : s.message.getD fresh = m)
      (hheader : (s.header h fresh now r override).result = .ok header)

theorem makes_settings_message {p : Profile} {m : Message} {d : Draft} (hd : p.Makes m d)
    (s : MessageSigner) : p.Makes m (d.setAll (s.settings m)) := by
  apply hd.setAll
  rw [MessageSigner.settings]
  cases s.time <;> simp

theorem makes_settings_request {p : Profile} {m : MessageView} {d : Draft} (hd : p.Makes m d)
    (s : HttpSigner) (r : Http.Request) : p.Makes m (d.setAll (s.settings r)) := by
  apply hd.setAll
  rw [HttpSigner.settings]
  cases s.time <;> simp

/-- Signers build their headers from drafts of their profile, too. -/
theorem HeaderFrom.exists_draft {p : Profile} {m : MessageView} {now : Instant} {header : String}
    (h : p.HeaderFrom m now header) :
    ∃ d, p.Makes m d ∧ (d.build now).result = .ok header := by
  cases h with
  | draft hd hheader => exact ⟨_, hd, hheader⟩
  | message hs hm hheader =>
    obtain ⟨url, d, -, hd, hbuild⟩ := MessageSigner.exists_draft_of_header hheader
    rw [hs] at hd
    subst hm
    exact ⟨_, makes_settings_message (makes_of_draftFor hd) _, hbuild⟩
  | @request s _ _ r override hs hm hheader =>
    cases override with
    | none =>
      rw [HttpSigner.result_header_none, hs, hm] at hheader
      obtain ⟨d, hd, hbuild⟩ := Outcome.bind_eq_ok_iff.mp hheader
      exact ⟨_, makes_settings_request (makes_of_draft hd) s r, hbuild⟩
    | some c =>
      rw [HttpSigner.header_some, hs, hm] at hheader
      obtain ⟨d, hd, hbuild⟩ := Outcome.result_bind_eq_ok_iff.mp hheader
      exact ⟨_, makes_settings_request (.start hd) s r, hbuild⟩

/-! ### All together -/

/-- For a message of this library nothing else is noted as a warning. -/
theorem chooses_iff_of_message (p : Profile) (m : Message) (x : SigningMethod)
    (warnings : List Event) :
    p.Chooses m x warnings ↔
      (p.signingMethod m).result = .ok x ∧ (p.signingMethod m).warnings = warnings := by
  rw [chooses_iff, m.warnings_readSetting, List.nil_append]

/-- A text is read as the signing method that it names, up to white space around it and the case of
the letters A to Z; no text names two methods, a name has no character from U+0080 on, and any other
text is refused as a fault of the configuration. A profile always chooses a method in this way, with
HMAC-SHA1 for texts that are not set or refused, and warns of a refused text that is not blank; this
warning follows those that come with the filled text, and messages with metadata have none. What a
header carries as its signing method is read as the method that its signature was made with, and if
the header comes from a profile, then this is the method that the profile chooses. -/
theorem signingMethod_declared (p : Profile) (m : MessageView) :
    (∀ s x, SigningMethod.ofName s = .ok x ↔ x.NamedBy s) ∧
    (∀ s x y, SigningMethod.NamedBy x s → SigningMethod.NamedBy y s → x = y) ∧
    (∀ s x, SigningMethod.NamedBy x s → ∀ c ∈ (Text.trim s).toList, c.toNat < 0x80) ∧
    (∀ s, (∀ x, ¬ SigningMethod.NamedBy x s) →
      ∃ f, SigningMethod.ofName s = .error f ∧ f.kind = .configuration) ∧
    (∃ x warnings, p.Chooses m x warnings) ∧
    (∀ x warnings, p.Chooses m x warnings ↔
      (p.signingMethod m).result = .ok x ∧
        (p.signingMethod m).warnings =
          (m.readSetting (p.text .signingMethod)).warnings ++ warnings) ∧
    (∀ (held : Message) x warnings, p.Chooses held x warnings ↔
      (p.signingMethod held).result = .ok x ∧ (p.signingMethod held).warnings = warnings) ∧
    (∀ d now header, (Draft.build d now).result = .ok header →
      ∃ base, d.baseText (d.instant now).unixText = .ok base ∧
        Header.SignedWith d.signingMethod d.signingKey base header) ∧
    ∀ now header, p.HeaderFrom m now header →
      ∃ x d base, (p.signingMethod m).result = .ok x ∧
        p.Makes m d ∧ (d.build now).result = .ok header ∧
        d.baseText (d.instant now).unixText = .ok base ∧
        Header.SignedWith x d.signingKey base header := by
  refine ⟨SigningMethod.ofName_eq_ok_iff, fun _ _ _ => SigningMethod.NamedBy.unique,
    fun _ _ => SigningMethod.NamedBy.lt, ?_, p.exists_chooses m, p.chooses_iff m,
    p.chooses_iff_of_message, fun _ _ _ => Draft.signedWith_of_build, ?_⟩
  · intro s hnone
    exact ⟨_, (SigningMethod.ofName_eq_error_iff s _).mpr ⟨hnone, rfl⟩, rfl⟩
  · intro now header hheader
    obtain ⟨d, hd, hbuild⟩ := hheader.exists_draft
    obtain ⟨base, hbase, hsigned⟩ := Draft.signedWith_of_build hbuild
    exact ⟨d.signingMethod, d, base, hd.signingMethod, hd, hbuild, hbase, hsigned⟩

/-- A profile whose signing method is named by the message. -/
def namedProfile : Profile where
  text
    | .consumerKey => some "k"
    | .consumerSecret => some "s"
    | .signingMethod => some "%message{alg}"
    | _ => none

/-- A signer with this profile. -/
def namedSigner (t : Instant) : MessageSigner where
  profile := namedProfile
  url := "http://h/"
  time := some t

/-- A message that names a signing method. -/
def namingMessage (name : String) : Message :=
  ⟨"id-1", Table.ofList [("alg", name)]⟩

/-- The header of a message that names the plain text method. -/
def plaintextHeader : String :=
  "OAuth oauth_consumer_key=\"k\", oauth_nonce=\"id1\", oauth_signature=\"cyY%3D\", " ++
    "oauth_signature_method=\"PLAINTEXT\", oauth_timestamp=\"1\", oauth_version=\"1.0\", realm=\"\""

/-- The name of a method in configuration, in mixed case and with white space around it, is sent as
the other name of the method. A long s is no letter of a name: such a text is refused, and the
profile falls back with a warning. -/
theorem signingMethod_declared_alike :
    SigningMethod.ofName "\tPlain_Text " = .ok .plaintext ∧
    (∃ f, SigningMethod.ofName "HMAC-\u017fHA256" = .error f ∧ f.kind = .configuration) ∧
    (namedProfile.signingMethod (namingMessage "HMAC-\u017fHA256")).result = .ok .hmacSha1 ∧
    (namedProfile.signingMethod (namingMessage "HMAC-\u017fHA256")).warnings =
      [.unknownMethod "HMAC-\u017fHA256"] ∧
    ((namedSigner ⟨1, 0⟩).header {} ⟨0, 0⟩ (namingMessage "\tPlain_Text ")).result =
      .ok plaintextHeader ∧
    ∃ key base, Header.SignedWith .plaintext key base plaintextHeader := by
  obtain ⟨hread, -, hascii, hrefused, -, -, hchosen, -, hheader⟩ :=
    signingMethod_declared namedProfile (namingMessage "\tPlain_Text ")
  have hnamed : SigningMethod.plaintext.NamedBy "\tPlain_Text " :=
    ⟨"PLAIN_TEXT", by decide, (Text.sameAscii_iff_sameLetters _ _).mp (by decide)⟩
  have hnone : ∀ x, ¬ SigningMethod.NamedBy x "HMAC-\u017fHA256" := fun x hx =>
    absurd (hascii _ x hx 'ſ' (by decide)) (by decide)
  have hfill : (namingMessage "HMAC-\u017fHA256").view.fill "%message{alg}" =
      "HMAC-\u017fHA256" := by
    decide +kernel
  have hfill' : (namingMessage "\tPlain_Text ").view.fill "%message{alg}" = "\tPlain_Text " := by
    decide +kernel
  have htext : namedProfile.text .signingMethod = some "%message{alg}" := rfl
  have hunknown := Chooses.unknown (m := namingMessage "HMAC-\u017fHA256") htext
    (by rw [hfill]; exact hnone) (by rw [hfill]; decide)
  have hplain := Chooses.named (m := namingMessage "\tPlain_Text ") htext
    (by rw [hfill']; exact hnamed)
  rw [hfill] at hunknown
  obtain ⟨hresult, hwarnings⟩ := (hchosen _ _ _).mp hunknown
  obtain ⟨hresult', -⟩ := (hchosen _ _ _).mp hplain
  have hwritten : ((namedSigner ⟨1, 0⟩).header {} ⟨0, 0⟩ (namingMessage "\tPlain_Text ")).result =
      .ok plaintextHeader :=
    Outcome.eq_ok_of_toOption (by decide +kernel)
  obtain ⟨x, d, base, hx, -, -, -, hsigned⟩ :=
    hheader ⟨0, 0⟩ plaintextHeader (.message rfl rfl hwritten)
  obtain rfl : .plaintext = x := Except.ok.inj (hresult'.symm.trans hx)
  exact ⟨(hread _ _).mpr hnamed, hrefused _ hnone, hresult, hwarnings, hwritten, _, _, hsigned⟩

end Profile

end RequestSigning
