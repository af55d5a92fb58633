import RequestSigning.Proofs.Draft.Supplied
import RequestSigning.Proofs.Signer.Results

/-!
# What a message can bring into its header

The values of a header are taken from the profile and from the message, and they are written as they
are. A header is therefore told by its draft, and whether it can be sent and read back is decided by
the supplied values. A quote or a control character in one of them is found in the header again.

* `MessageSigner.sign_written`: what is known of every header.
* `MessageSigner.sign_injected`: a message that brings a line break and another parameter into its
  header.
-/

namespace RequestSigning.MessageSigner

variable {s : MessageSigner} {h : Host} {now : Instant} {m : Message} {header : String}

/-- A header is written from the draft of the request, with the values that this draft holds under
the names of the protocol. It is allowed as the value of a field exactly if the supplied values
are, and it is read back exactly if none of them holds a quote. -/
theorem sign_written {stored : Message} (hsign : (s.sign h now m).result = .ok (header, stored)) :
    ∃ url d₀ params signature,
      address (m.fill s.url) = .ok url ∧
      (s.profile.draftFor h (m.fill s.httpMethod) url m).result = .ok d₀ ∧
      let d := d₀.setAll (s.settings m)
      header = Header.write params ∧
      params.entries = d.headerEntries (d.instant now).unixText signature ∧
      (∀ e ∈ params.entries, e.1 ∈ Draft.headerNames) ∧
      ((∀ b ∈ Utf8.bytes header.toList, Http.isFieldValueByte b = true) ↔
        ∀ e ∈ d.suppliedEntries, ∀ b ∈ Utf8.bytes e.2.toList, Http.isFieldValueByte b = true) ∧
      (Header.read header = .ok params ↔ ∀ e ∈ d.suppliedEntries, '"' ∉ e.2.toList) := by
  rw [result_sign] at hsign
  obtain ⟨header', hheader, hpair⟩ := Outcome.map_eq_ok_iff.mp hsign
  obtain ⟨rfl, -⟩ := Prod.mk.inj hpair
  obtain ⟨url, d₀, haddress, hd, hbuild⟩ := exists_draft_of_header hheader
  rw [Draft.result_build] at hbuild
  obtain ⟨base, hbase, rfl⟩ := Outcome.map_eq_ok_iff.mp hbuild
  obtain ⟨u, hcheck, -⟩ := (Draft.baseText_eq_ok_iff _ _ base).mp hbase
  have hentries : ((d₀.setAll (s.settings m)).headerParams
      ((d₀.setAll (s.settings m)).instant now).unixText base).entries = _ :=
    Draft.entries_headerParams hcheck (Draft.isBlank_unixText _)
  refine ⟨url, d₀, _, _, haddress, hd, rfl, hentries, ?_, ?_, Draft.read_write_iff hcheck _ base⟩
  · intro e he
    rw [hentries] at he
    exact Draft.mem_headerNames he
  · simp only [← Http.isFieldValue_iff_bytes]
    exact Draft.isFieldValue_write_iff hcheck _ base

/-- A signer whose nonce is taken from the message. -/
def nonceSigner (t : Instant) : MessageSigner where
  profile :=
    { text := fun
        | .consumerKey => some "k"
        | .consumerSecret => some "s"
        | .nonce => some "%message{n}"
        | .signingMethod => some "PLAINTEXT"
        | _ => none }
  url := "http://h/"
  time := some t

/-- A message with a given nonce. -/
def nonceMessage (nonce : String) : Message :=
  ⟨"id-1", Table.ofList [("n", nonce)]⟩

/-- The header of a message whose nonce holds separators. -/
def separatorsHeader : String :=
  "OAuth oauth_consumer_key=\"k\", oauth_nonce=\"a, b=c\", oauth_signature=\"cyY%3D\", " ++
    "oauth_signature_method=\"PLAINTEXT\", oauth_timestamp=\"1\", oauth_version=\"1.0\", realm=\"\""

/-- A nonce with separators does no harm. -/
theorem sign_written_separators :
    ∃ stored params,
      ((nonceSigner ⟨1, 0⟩).sign {} ⟨0, 0⟩ (nonceMessage "a, b=c")).result =
        .ok (separatorsHeader, stored) ∧
      separatorsHeader = Header.write params ∧
      ∀ e ∈ params.entries, e.1 ∈ Draft.headerNames := by
  have hsign : ((nonceSigner ⟨1, 0⟩).sign {} ⟨0, 0⟩ (nonceMessage "a, b=c")).result =
      .ok (separatorsHeader, (nonceMessage "a, b=c").insert "Authorization" separatorsHeader) :=
    Outcome.eq_ok_of_toOption (by decide +kernel)
  obtain ⟨url, d₀, params, signature, -, -, hwritten, -, hnames, -⟩ := sign_written hsign
  exact ⟨_, params, hsign, hwritten, hnames⟩

/-- The header of a message whose nonce ends its own quotes. -/
def injectedHeader : String :=
  "OAuth oauth_consumer_key=\"k\", oauth_nonce=\"a\", evil=\"b\nc\", " ++
    "oauth_signature=\"cyY%3D\", oauth_signature_method=\"PLAINTEXT\", oauth_timestamp=\"1\", " ++
    "oauth_version=\"1.0\", realm=\"\""

/-- What is read from it. -/
def injectedEntries : List (String × String) :=
  [(Protocol.consumerKey, "k"), (Protocol.nonce, "a"), ("evil", "b\nc"),
    (Protocol.signature, "cyY%3D"), (Protocol.signatureMethod, "PLAINTEXT"),
    (Protocol.timestamp, "1"), (Protocol.version, "1.0"), (Protocol.realm, "")]

/-- A nonce with a quote and a line break is written as it is: the header is not allowed as the
value of a field, a part of the nonce is read as another parameter, and the nonce that is read is
not the one of the message. -/
theorem sign_injected :
    ∃ header stored params,
      ((nonceSigner ⟨1, 0⟩).sign {} ⟨0, 0⟩ (nonceMessage "a\", evil=\"b\nc")).result =
        .ok (header, stored) ∧
      (∃ b ∈ Utf8.bytes header.toList, Http.isFieldValueByte b = false) ∧
      Header.read header = .ok params ∧
      "evil" ∉ Draft.headerNames ∧ params.get? "evil" = some "b\nc" ∧
      params.get? Protocol.nonce = some "a" := by
  have hsign : ((nonceSigner ⟨1, 0⟩).sign {} ⟨0, 0⟩ (nonceMessage "a\", evil=\"b\nc")).result =
      .ok (injectedHeader, (nonceMessage "a\", evil=\"b\nc").insert "Authorization"
        injectedHeader) :=
    Outcome.eq_ok_of_toOption (by decide +kernel)
  -- the same text is written for these entries, whose values hold no quote
  have hread : Header.read injectedHeader = .ok (Table.ofList injectedEntries) :=
    Header.read_of_written (by decide +kernel) (by decide) (by decide) (by decide)
  refine ⟨injectedHeader, _, _, hsign, ⟨0x0A, by decide +kernel, by decide⟩, hread, by decide,
    ?_, ?_⟩
  · decide +kernel
  · decide +kernel

end RequestSigning.MessageSigner
