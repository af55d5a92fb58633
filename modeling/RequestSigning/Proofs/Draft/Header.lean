import RequestSigning.Proofs.Draft.Parameters

/-!
# The header of a draft and the text it signs

A draft yields its header and its base text on two ways that check, filter and collect on their
own. Here they are shown to agree for every draft that values are set on, one after the other.

* `Draft.WellStated`: what setting values keeps, with `WellStated.set` for one value and
  `WellStated.setAll` for any number of them.
* `Draft.build_congr`: a draft that sets its instant does not look at the present one.
* `Draft.result_build`: the header is written exactly if there is a base text.
* `Draft.decode_signature`: the bytes of a signature are read back from its text.
* `Draft.build_agrees_with_baseText`: both fail alike, or the header carries the stored values and
  the signature of the base text.
-/

namespace RequestSigning.Draft

/-! ### What setting values keeps -/

/-- The version is not blank, and realm and verifier are blank only if they are empty. -/
structure WellStated (d : Draft) : Prop where
  version : Text.isBlank d.version = false
  realm : d.realm = "" ∨ Text.isBlank d.realm = false
  verifier : d.verifier = "" ∨ Text.isBlank d.verifier = false

theorem orIfBlank_empty (s : String) :
    Text.orIfBlank s "" = "" ∨ Text.isBlank (Text.orIfBlank s "") = false := by
  unfold Text.orIfBlank
  split
  · exact .inl rfl
  · rename_i h
    exact .inr (by simpa using h)

theorem wellStated_default : WellStated {} :=
  ⟨by decide, .inl rfl, .inl rfl⟩

/-- Setting one value keeps a draft well stated. -/
theorem WellStated.set {d : Draft} (h : d.WellStated) (s : Setting) : (d.set s).WellStated := by
  cases s with
  | realm s => exact ⟨h.version, orIfBlank_empty s, h.verifier⟩
  | version s => exact ⟨(d.set (.version s)).version_stated, h.realm, h.verifier⟩
  | verifier s => exact ⟨h.version, h.realm, orIfBlank_empty s⟩
  | _ => exact ⟨h.version, h.realm, h.verifier⟩

/-- Any number of values set in any order keep a draft well stated. -/
theorem WellStated.setAll {d : Draft} (h : d.WellStated) (settings : List Setting) :
    (d.setAll settings).WellStated := by
  induction settings generalizing d with
  | nil => exact h
  | cons s rest ih => exact ih (h.set s)

/-! ### The instant -/

theorem setAll_append (d : Draft) (ss ts : List Setting) :
    d.setAll (ss ++ ts) = (d.setAll ss).setAll ts :=
  List.foldl_append

/-- The instant that is set last counts. -/
theorem time_setAll_concat (d : Draft) (ss : List Setting) (t : Instant) :
    (d.setAll (ss ++ [.time t])).time = some t := by
  rw [setAll_append]
  rfl

theorem instant_of_time {d : Draft} {t : Instant} (h : d.time = some t) (now : Instant) :
    d.instant now = t := by
  rw [instant, h]
  rfl

/-- A draft that sets its instant does not look at the present one. -/
theorem build_congr {d : Draft} {t : Instant} (h : d.time = some t) (now now' : Instant) :
    d.build now = d.build now' := by
  rw [build, build, instant_of_time h now, instant_of_time h now']

/-! ### Header and base text -/

/-- The header is written from the base text, and a draft without base text has no header. -/
theorem result_build (d : Draft) (now : Instant) :
    (d.build now).result = (d.baseText (d.instant now).unixText).map fun base =>
      Header.write (d.headerParams (d.instant now).unixText base) := by
  simp only [build, Outcome.result_bind, Outcome.result_ofExcept]
  cases d.baseText (d.instant now).unixText <;> rfl

/-- A base text is that of a complete draft at the address of that draft. -/
theorem baseText_eq_ok_iff (d : Draft) (timestamp base : String) :
    d.baseText timestamp = .ok base ↔
      ∃ url, d.check = .ok url ∧ d.baseTextAt url timestamp = .ok base := by
  rw [baseText]
  exact Outcome.bind_eq_ok_iff

/-- The bytes of a signature are read back from its text. -/
theorem decode_signature (d : Draft) (base : String) :
    (Utf8.text? (Percent.decode (d.signature base).toList)).bind Base64.decode? =
      some (d.signingMethod.digest (Utf8.bytes d.signingKey.toList) (Utf8.bytes base.toList)) := by
  rw [signature, Percent.toList_encode, String.toList_ofList, Percent.decode_encodeBytes,
    Utf8.text?_bytes, Option.bind_some, Base64.decode?_encode]

/-- Every draft that any values were set on, in any order, has a header exactly if it has a base
text, and otherwise both fail in the same way. The parameters of the header are the stored values
and the signature of the base text; they ascend, and none is missing but a blank token or verifier
that is not to be kept. -/
theorem build_agrees_with_baseText (settings : List Setting) (now : Instant) :
    let d := ({} : Draft).setAll settings
    let timestamp := (d.instant now).unixText
    d.WellStated ∧
      ((∃ f, (d.build now).result = .error f ∧ d.baseText timestamp = .error f) ∨
        ∃ base params signature,
          d.baseText timestamp = .ok base ∧
            (d.build now).result = .ok (Header.write params) ∧
            params.entries =
              [(Protocol.consumerKey, d.consumerKey),
                  (Protocol.nonce, d.nonce),
                  (Protocol.signature, signature),
                  (Protocol.signatureMethod, d.signingMethod.wireName),
                  (Protocol.timestamp, timestamp)] ++
                (if d.keepBlank = true ∨ Text.isBlank d.accessToken = false then
                  [(Protocol.token, d.accessToken)] else []) ++
                (if d.keepBlank = true ∨ Text.isBlank d.verifier = false then
                  [(Protocol.verifier, d.verifier)] else []) ++
                [(Protocol.version, d.version), (Protocol.realm, d.realm)] ∧
            (params.entries.Pairwise fun a b => Text.before a.1.toList b.1.toList = true) ∧
            (Utf8.text? (Percent.decode signature.toList)).bind Base64.decode? =
              some (d.signingMethod.digest
                (Utf8.bytes (d.consumerSecret ++ "&" ++ d.tokenSecret).toList)
                (Utf8.bytes base.toList))) := by
  intro d timestamp
  refine ⟨wellStated_default.setAll settings, ?_⟩
  have hbuild := d.result_build now
  cases hbase : d.baseText timestamp with
  | error f =>
    rw [hbase] at hbuild
    exact .inl ⟨f, hbuild, rfl⟩
  | ok base =>
    rw [hbase] at hbuild
    obtain ⟨url, hcheck, -⟩ := (d.baseText_eq_ok_iff timestamp base).mp hbase
    have hentries : (d.headerParams timestamp base).entries =
        d.headerEntries timestamp (d.signature base) :=
      entries_headerParams hcheck (isBlank_unixText (d.instant now))
    exact .inr ⟨base, d.headerParams timestamp base, d.signature base, rfl, hbuild, hentries,
      (d.headerParams timestamp base).ascending, d.decode_signature base⟩

end RequestSigning.Draft
