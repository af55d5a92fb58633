import RequestSigning.Proofs.Draft.Signed
import RequestSigning.Proofs.Encoded
import RequestSigning.Proofs.Letters

/-!
# What a base text stands for

The parts of a base text are joined by `&`, and so are the signed parameters, but encoding takes
this character out of all parts besides the method. Therefore a base text stands for one method, one
address and one list of signed parameters.

* `Draft.joined_inj`: the three parts of a base text are determined by it.
* `Draft.Unjoined`: the drafts whose own values hold no separator.
* `Draft.parts_of_baseText_eq`: two such drafts with one base text sign the same.
* `Draft.baseText_set_method`: case and surrounding white space of the method do not count.
* `Draft.baseText_unambiguous`: both together.
-/

namespace RequestSigning.Draft

/-! ### The three parts -/

/-- An encoded part holds no separator, so it is what follows the last one, whatever stands before
it. -/
theorem lastPart_inj {s t p q : String}
    (h : s ++ "&" ++ Percent.encode p = t ++ "&" ++ Percent.encode q) : s = t ∧ p = q := by
  have hfree : ∀ s : String, '&' ∉ (Percent.encode s).toList :=
    Percent.not_mem_encode (by decide)
  have hsep : ∀ s t : String, (s ++ "&" ++ t).toList = s.toList ++ '&' :: t.toList := by
    intro s t
    rw [String.toList_append, String.toList_append, List.append_assoc]
    rfl
  have hlist : s.toList ++ '&' :: (Percent.encode p).toList =
      t.toList ++ '&' :: (Percent.encode q).toList := by
    rw [← hsep, ← hsep, h]
  obtain ⟨hfront, hlast⟩ := Text.append_cons_inj (hfree p) (hfree q) hlist
  exact ⟨String.toList_inj.mp hfront, Percent.encode_injective (String.toList_inj.mp hlast)⟩

/-- The three parts are determined by the text they are joined to, although the first one is not
encoded. -/
theorem joined_inj {m₁ m₂ a₁ a₂ q₁ q₂ : String}
    (h : m₁ ++ "&" ++ Percent.encode a₁ ++ "&" ++ Percent.encode q₁ =
      m₂ ++ "&" ++ Percent.encode a₂ ++ "&" ++ Percent.encode q₂) :
    m₁ = m₂ ∧ a₁ = a₂ ∧ q₁ = q₂ := by
  obtain ⟨hfront, hquery⟩ := lastPart_inj h
  obtain ⟨hmethod, haddress⟩ := lastPart_inj hfront
  exact ⟨hmethod, haddress, hquery⟩

/-! ### The signed parameters -/

/-- The values that a draft sends and its additional data hold no `&`, and the names of its
additional data no `=` either. -/
structure Unjoined (d : Draft) (timestamp : String) : Prop where
  consumerKey : '&' ∉ d.consumerKey.toList
  nonce : '&' ∉ d.nonce.toList
  version : '&' ∉ d.version.toList
  accessToken : '&' ∉ d.accessToken.toList
  verifier : '&' ∉ d.verifier.toList
  timestamp : '&' ∉ timestamp.toList
  additionalNames : ∀ p ∈ d.additional, '&' ∉ p.1.toList ∧ '=' ∉ p.1.toList
  additionalValues : ∀ p ∈ d.additional, '&' ∉ p.2.toList

theorem amp_not_mem_wireName (m : SigningMethod) : '&' ∉ m.wireName.toList := by
  cases m <;> decide

theorem separated_protocolNames :
    ∀ n ∈ protocolNames, '&' ∉ n.toList ∧ '=' ∉ n.toList := by
  decide

theorem Unjoined.separated_sentParams {d : Draft} {timestamp : String}
    (h : d.Unjoined timestamp) : Params.Separated (d.sentParams timestamp).entries := by
  have hvalues : ∀ p ∈ d.protocolEntries timestamp, '&' ∉ p.2.toList := by
    intro p hp
    simp only [protocolEntries, List.mem_cons, List.not_mem_nil, or_false] at hp
    rcases hp with rfl | rfl | rfl | rfl | rfl | rfl | rfl
    · exact h.consumerKey
    · exact h.nonce
    · exact amp_not_mem_wireName _
    · exact h.timestamp
    · exact h.accessToken
    · exact h.verifier
    · exact h.version
  intro p hp
  obtain ⟨hamp, heq⟩ := separated_protocolNames p.1
    ((d.map_sentParams_sublist timestamp).subset (List.mem_map_of_mem hp))
  rw [entries_sentParams] at hp
  exact ⟨hamp, heq, hvalues p (List.mem_filter.mp hp).1⟩

/-- Whatever the query of the address is, the separators in the query of the signed parameters are
those between the parameters. -/
theorem Unjoined.separated_signedParams {d : Draft} {timestamp : String}
    (h : d.Unjoined timestamp) (url : Uri) :
    Params.Separated (d.signedParams url timestamp).entries := by
  have hadditional : Params.Separated d.additional := by
    intro p hp
    exact ⟨(h.additionalNames p hp).1, (h.additionalNames p hp).2, h.additionalValues p hp⟩
  have hquery : Params.Separated url.queryPairs := by
    rw [Uri.queryPairs]
    cases url.query with
    | none => exact fun _ hp => absurd hp List.not_mem_nil
    | some query => exact Params.separated_queryPairs query
  rw [signedParams_eq]
  exact Params.separated_entries_ofList (Params.separated_append.mpr
    ⟨Params.separated_append.mpr ⟨h.separated_sentParams, hadditional⟩, hquery⟩)

/-! ### One base text, one request -/

theorem parts_of_baseText_eq {d₁ d₂ : Draft} {t₁ t₂ base : String} (hd₁ : d₁.Unjoined t₁)
    (hd₂ : d₂.Unjoined t₂) (h₁ : d₁.baseText t₁ = .ok base) (h₂ : d₂.baseText t₂ = .ok base) :
    Text.uppercase (Text.trim d₁.method) = Text.uppercase (Text.trim d₂.method) ∧
      ∃ u₁ u₂ address,
        d₁.check = .ok u₁ ∧ d₂.check = .ok u₂ ∧
        u₁.baseText = .ok address ∧ u₂.baseText = .ok address ∧
        (d₁.signedParams u₁ t₁).entries = (d₂.signedParams u₂ t₂).entries := by
  obtain ⟨u₁, hcheck₁, hat₁⟩ := (d₁.baseText_eq_ok_iff t₁ base).mp h₁
  obtain ⟨u₂, hcheck₂, hat₂⟩ := (d₂.baseText_eq_ok_iff t₂ base).mp h₂
  obtain ⟨a₁, haddress₁, hbase₁⟩ := (d₁.baseTextAt_eq_ok_iff u₁ t₁ base).mp hat₁
  obtain ⟨a₂, haddress₂, hbase₂⟩ := (d₂.baseTextAt_eq_ok_iff u₂ t₂ base).mp hat₂
  obtain ⟨hmethod, haddress, hquery⟩ := joined_inj (hbase₁.symm.trans hbase₂)
  have hparams : (d₁.signedParams u₁ t₁).entries = (d₂.signedParams u₂ t₂).entries := by
    rw [← Params.queryPairs_joinPairs (hd₁.separated_signedParams u₁), hquery]
    exact Params.queryPairs_joinPairs (hd₂.separated_signedParams u₂)
  exact ⟨hmethod, u₁, u₂, a₁, hcheck₁, hcheck₂, haddress₁, haddress ▸ haddress₂, hparams⟩

/-! ### The method -/

/-- A method that is the method of the draft up to the case of letters and the white space around
it yields the same base text, and the same failure if there is none. -/
theorem baseText_set_method (d : Draft) {method spaced : String}
    (hcase : Text.sameAscii method spaced = true)
    (hspace : Text.trim spaced = Text.trim d.method) (timestamp : String) :
    (d.set (.method method)).baseText timestamp = d.baseText timestamp := by
  have hblank : Text.isBlank method = Text.isBlank d.method :=
    (Text.isBlank_eq_of_sameAscii hcase).trans (Text.isBlank_eq_of_trim_eq hspace)
  have hupper : Text.uppercase (Text.trim method) = Text.uppercase (Text.trim d.method) := by
    rw [← hspace]
    exact Text.uppercase_eq_of_sameAscii (Text.sameAscii_trim hcase)
  have hcheck : (d.set (.method method)).check = d.check := by
    show check { d with method := method } = d.check
    simp only [check, Required.check, hblank]
  have hat : ∀ url, (d.set (.method method)).baseTextAt url timestamp =
      d.baseTextAt url timestamp := by
    intro url
    show (url.baseText.map fun address =>
      Text.uppercase (Text.trim method) ++ "&" ++ Percent.encode address ++ "&" ++
        Percent.encode (d.signedParams url timestamp).queryText) = d.baseTextAt url timestamp
    rw [hupper]
    rfl
  rw [baseText, baseText, hcheck, funext hat]

/-- A base text is signed for one request only: two drafts whose values hold no separator and whose
base texts are the same have the same method, the same signed form of the address and the same
signed parameters. Of the method neither the case of its letters nor the white space around it is
in the base text. -/
theorem baseText_unambiguous :
    (∀ (d₁ d₂ : Draft) (t₁ t₂ base : String),
      d₁.Unjoined t₁ → d₂.Unjoined t₂ →
      d₁.baseText t₁ = .ok base → d₂.baseText t₂ = .ok base →
      Text.uppercase (Text.trim d₁.method) = Text.uppercase (Text.trim d₂.method) ∧
        ∃ u₁ u₂ address,
          d₁.check = .ok u₁ ∧ d₂.check = .ok u₂ ∧
          u₁.baseText = .ok address ∧ u₂.baseText = .ok address ∧
          (d₁.signedParams u₁ t₁).entries = (d₂.signedParams u₂ t₂).entries) ∧
    (∀ (d : Draft) (method spaced timestamp : String),
      Text.sameAscii method spaced = true → Text.trim spaced = Text.trim d.method →
      (d.set (.method method)).baseText timestamp = d.baseText timestamp) := by
  constructor
  · intro d₁ d₂ t₁ t₂ base hd₁ hd₂ h₁ h₂
    exact parts_of_baseText_eq hd₁ hd₂ h₁ h₂
  · intro d method spaced timestamp hcase hspace
    exact d.baseText_set_method hcase hspace timestamp

/-- A draft with `&` in its method and a parameter in its additional data. -/
def additionalDraft : Draft where
  url := some ⟨some "http", some "h", "/", none⟩
  method := "a&b"
  consumerKey := "k"
  consumerSecret := "s"
  nonce := "n"
  additional := [("x", "1")]
  version_stated := isBlank_standardVersion

/-- The same request with other letters, and with the parameter in the query of its address. -/
def queryDraft : Draft where
  url := some ⟨some "HTTP", some "H:80", "/", some "x=1"⟩
  method := " A&b"
  consumerKey := "k"
  consumerSecret := "t"
  nonce := "n"
  version_stated := isBlank_standardVersion

theorem baseText_unambiguous_sources :
    let base := "A&B&http%3A%2F%2Fh%2F&oauth_consumer_key%3Dk%26oauth_nonce%3Dn" ++
      "%26oauth_signature_method%3DHMAC-SHA1%26oauth_timestamp%3D1%26oauth_version%3D1.0%26x%3D1"
    additionalDraft.baseText "1" = .ok base ∧ queryDraft.baseText "1" = .ok base ∧
      (∃ u₁ u₂, additionalDraft.check = .ok u₁ ∧ queryDraft.check = .ok u₂ ∧
        (additionalDraft.signedParams u₁ "1").entries =
          (queryDraft.signedParams u₂ "1").entries) ∧
      (additionalDraft.set (.method " A&B ")).baseText "1" = .ok base := by
  intro base
  have h₁ : additionalDraft.baseText "1" = .ok base :=
    Outcome.eq_ok_of_toOption (by decide +kernel)
  have h₂ : queryDraft.baseText "1" = .ok base :=
    Outcome.eq_ok_of_toOption (by decide +kernel)
  have hd₁ : additionalDraft.Unjoined "1" := by
    constructor <;> decide
  have hd₂ : queryDraft.Unjoined "1" := by
    constructor <;> decide
  obtain ⟨-, u₁, u₂, -, hcheck₁, hcheck₂, -, -, hparams⟩ :=
    baseText_unambiguous.1 additionalDraft queryDraft "1" "1" base hd₁ hd₂ h₁ h₂
  have hmethod := baseText_unambiguous.2 additionalDraft " A&B " " a&b " "1" (by decide) (by decide)
  exact ⟨h₁, h₂, ⟨u₁, u₂, hcheck₁, hcheck₂, hparams⟩, hmethod.trans h₁⟩

end RequestSigning.Draft
