import RequestSigning.Proofs.Draft.Signed

/-!
# The order of signed parameters

A later parameter replaces an earlier one of the same name, so the order counts as soon as a name
comes twice. Within a source whose names are distinct it does not count, and this stays so if the
other sources have some of its names too.

* `Params.segments`: the segments of a query that are not empty.
* `Draft.signedParams_congr`: sources that say the same are signed the same.
* `Failure.naming`, `Outcome.mapFailure`: the only thing of a query that a failure shows is the
  address it belongs to.
* `Draft.build_reordered`: additional data and segments of the query in another order.
-/

namespace RequestSigning

/-! ### The segments of a query -/

/-- The segments of a query that are not empty, in order. A missing query has none. -/
def Params.segments (query : Option String) : List (List Char) :=
  query.elim [] fun text => (Text.pieces '&' text.toList).filter (· ≠ [])

theorem Uri.queryPairs_eq (u : Uri) :
    u.queryPairs = (Params.segments u.query).map Params.segmentPair := by
  rw [Uri.queryPairs, Params.segments]
  cases u.query <;> rfl

/-! ### Failures that name an address -/

/-- The failure with another address in the place of the one it names. -/
def Failure.naming (address : String) : Failure → Failure
  | ⟨.noScheme _, causes⟩ => ⟨.noScheme address, causes⟩
  | ⟨.noHost _, causes⟩ => ⟨.noHost address, causes⟩
  | f => f

namespace Outcome

variable {α : Type}

/-- The outcome with its failure changed, if it is one. -/
def mapFailure (f : Failure → Failure) (x : Outcome α) : Outcome α :=
  ⟨x.result.mapError f, x.log⟩

theorem mapFailure_id (x : Outcome α) : x.mapFailure id = x := by
  obtain ⟨result, log⟩ := x
  cases result <;> rfl

end Outcome

/-- An address with another query has the same signed form. If it has none, then the failure names
the other address. -/
theorem Uri.baseText_query (u : Uri) (query : Option String) :
    Uri.baseText { u with query := query } =
      u.baseText.mapError (Failure.naming (Uri.text { u with query := query })) := by
  have hhost : Uri.host { u with query := query } = u.host := rfl
  have hport : Uri.port { u with query := query } = u.port := rfl
  rw [Uri.baseText, Uri.baseText, hhost, hport]
  cases u.scheme with
  | none => rfl
  | some scheme =>
    dsimp only
    cases u.host.filter (· ≠ "") <;> rfl

/-- An address with a scheme and a host has a signed form. -/
theorem Uri.exists_baseText {u : Uri} (hscheme : u.scheme ≠ none) (hhost : u.host ≠ none)
    (hne : u.host ≠ some "") : ∃ address, u.baseText = .ok address := by
  obtain ⟨scheme, hscheme⟩ := Option.ne_none_iff_exists'.mp hscheme
  obtain ⟨host, hhost⟩ := Option.ne_none_iff_exists'.mp hhost
  have hfilter : u.host.filter (· ≠ "") = some host := by
    rw [hhost, Option.filter_some, if_pos]
    rw [hhost] at hne
    simpa using hne
  rw [Uri.baseText, hscheme, hfilter]
  exact ⟨_, rfl⟩

namespace Draft

variable {d d' : Draft} {u v : Uri}

/-! ### Sources in another order -/

/-- Sources that say the same about every name are signed the same. -/
theorem signedParams_congr {timestamp : String}
    (hsent : d'.sentParams timestamp = d.sentParams timestamp)
    (hadditional : Table.Agree Text.folded d.additional d'.additional)
    (hquery : Table.Agree Text.folded u.queryPairs v.queryPairs) :
    d'.signedParams v timestamp = d.signedParams u timestamp := by
  rw [signedParams_eq, signedParams_eq, hsent]
  exact (((Table.agree_refl _).append hadditional).append hquery).ofList_eq.symm

/-- Drafts that agree in all that a header shows besides the signed text. -/
structure ShowsAlike (d d' : Draft) : Prop where
  time : d'.time = d.time
  realm : d'.realm = d.realm
  sent : ∀ timestamp, d'.sentParams timestamp = d.sentParams timestamp
  signature : ∀ base, d'.signature base = d.signature base

theorem showsAlike_set_additional (d : Draft) (additional : List (String × String)) :
    d.ShowsAlike (d.set (.additional additional)) :=
  ⟨rfl, rfl, fun _ => rfl, fun _ => rfl⟩

theorem showsAlike_set_url (d : Draft) (u : Uri) : d.ShowsAlike (d.set (.url u)) :=
  ⟨rfl, rfl, fun _ => rfl, fun _ => rfl⟩

/-- If such drafts have the same base text, up to the failure, then they have the same header. -/
theorem ShowsAlike.build_eq (h : d.ShowsAlike d') {f : Failure → Failure}
    (hbase : ∀ timestamp, d'.baseText timestamp = (d.baseText timestamp).mapError f)
    (now : Instant) : d'.build now = (d.build now).mapFailure f := by
  have hinstant : d'.instant now = d.instant now := by
    rw [instant, instant, h.time]
  have hheader : ∀ timestamp base,
      d'.headerParams timestamp base = d.headerParams timestamp base := by
    intro timestamp base
    rw [headerParams, headerParams, h.sent, h.signature, h.realm]
  rw [build, build, hinstant, hbase]
  cases d.baseText (d.instant now).unixText with
  | error e => rfl
  | ok base =>
    simp only [hheader]
    rfl

/-! ### Additional data -/

theorem build_set_additional {additional : List (String × String)}
    (hdistinct : Table.Distinct Text.folded d.additional) (hperm : d.additional.Perm additional)
    (now : Instant) : (d.set (.additional additional)).build now = d.build now := by
  have hparams : ∀ (url : Uri) (timestamp : String),
      (d.set (.additional additional)).signedParams url timestamp = d.signedParams url timestamp :=
    fun _ _ => signedParams_congr rfl (hdistinct.agree_of_perm hperm) (Table.agree_refl _)
  have hbase : ∀ timestamp, (d.set (.additional additional)).baseText timestamp =
      (d.baseText timestamp).mapError id := by
    intro timestamp
    have hat : ∀ url, (d.set (.additional additional)).baseTextAt url timestamp =
        d.baseTextAt url timestamp := by
      intro url
      rw [baseTextAt, baseTextAt, hparams]
      rfl
    have hcheck : (d.set (.additional additional)).check = d.check := rfl
    rw [baseText, baseText, hcheck, funext hat]
    cases d.check.bind fun url => d.baseTextAt url timestamp <;> rfl
  rw [(d.showsAlike_set_additional additional).build_eq hbase, Outcome.mapFailure_id]

/-! ### The query -/

theorem set_url_self (hurl : d.url = some u) : d.set (.url u) = d := by
  cases d
  obtain rfl := hurl
  rfl

/-- A draft with an address is complete whatever the address is, or fails for a missing text. -/
theorem check_set_url (d : Draft) :
    (∀ v, (d.set (.url v)).check = .ok v) ∨
      ∃ what, ∀ v, (d.set (.url v)).check = .error (Failure.blank what) := by
  have hset : ∀ v, (d.set (.url v)).check =
      (Required.draftConsumerKey.check d.consumerKey).bind fun _ =>
        (Required.draftConsumerSecret.check d.consumerSecret).bind fun _ =>
          (Required.nonce.check d.nonce).bind fun _ =>
            (Required.method.check d.method).bind fun _ => .ok v := fun _ => rfl
  simp only [hset, Required.check]
  cases Text.isBlank d.consumerKey <;> cases Text.isBlank d.consumerSecret <;>
    cases Text.isBlank d.nonce <;> cases Text.isBlank d.method <;>
    first | exact .inl fun _ => rfl | exact .inr ⟨_, fun _ => rfl⟩

theorem baseText_set_url (d : Draft) {f : Failure → Failure} {timestamp : String}
    (haddress : v.baseText = u.baseText.mapError f)
    (hblank : ∀ what, f (Failure.blank what) = Failure.blank what)
    (hagree : Table.Agree Text.folded u.queryPairs v.queryPairs) :
    (d.set (.url v)).baseText timestamp =
      ((d.set (.url u)).baseText timestamp).mapError f := by
  have hparams : (d.set (.url v)).signedParams v timestamp =
      (d.set (.url u)).signedParams u timestamp :=
    signedParams_congr rfl (Table.agree_refl _) hagree
  rw [baseText, baseText]
  rcases d.check_set_url with hcheck | ⟨what, hcheck⟩
  · rw [hcheck, hcheck]
    show baseTextAt _ v timestamp = (baseTextAt _ u timestamp).mapError f
    rw [baseTextAt, baseTextAt, hparams, haddress]
    cases u.baseText <;> rfl
  · rw [hcheck, hcheck]
    exact congrArg Except.error (hblank what).symm

/-- An address in the place of one with the same signed form, up to the failure, and with queries
that say the same. -/
theorem build_set_url {f : Failure → Failure} (hurl : d.url = some u)
    (haddress : v.baseText = u.baseText.mapError f)
    (hblank : ∀ what, f (Failure.blank what) = Failure.blank what)
    (hagree : Table.Agree Text.folded u.queryPairs v.queryPairs) (now : Instant) :
    (d.set (.url v)).build now = (d.build now).mapFailure f := by
  refine (d.showsAlike_set_url v).build_eq (fun timestamp => ?_) now
  have hbase : (d.set (.url v)).baseText timestamp =
      ((d.set (.url u)).baseText timestamp).mapError f :=
    d.baseText_set_url haddress hblank hagree
  rwa [set_url_self hurl] at hbase

/-! ### Both -/

/-- The header of a draft that sets its instant does not depend on the order of its additional data
if their names are distinct, nor on the order of the segments of the query or the number of empty
ones if the names of the others are distinct. The three sources may share names. An address that
cannot be signed is named in the failure as it is written. -/
theorem build_reordered {d : Draft} {t : Instant} (htime : d.time = some t) (now now' : Instant) :
    (∀ additional, Table.Distinct Text.folded d.additional → d.additional.Perm additional →
      (d.set (.additional additional)).build now' = d.build now) ∧
    ∀ u query, d.url = some u → Table.Distinct Text.folded u.queryPairs →
      (Params.segments u.query).Perm (Params.segments query) →
      let v : Uri := { u with query := query }
      (d.set (.url v)).build now' = (d.build now).mapFailure (Failure.naming v.text) ∧
        (u.scheme ≠ none → u.host ≠ none → u.host ≠ some "" →
          (d.set (.url v)).build now' = d.build now) := by
  rw [build_congr htime now now']
  constructor
  · intro additional hdistinct hperm
    exact build_set_additional hdistinct hperm now'
  · intro u query hurl hdistinct hperm v
    have hpairs : u.queryPairs.Perm v.queryPairs := by
      rw [Uri.queryPairs_eq, Uri.queryPairs_eq]
      exact hperm.map _
    have hagree := hdistinct.agree_of_perm hpairs
    refine ⟨build_set_url hurl (u.baseText_query query) (fun _ => rfl) hagree now', ?_⟩
    intro hscheme hhost hne
    obtain ⟨address, haddress⟩ := Uri.exists_baseText hscheme hhost hne
    have hsame : v.baseText = u.baseText.mapError id := by
      rw [Uri.baseText_query, haddress]
      rfl
    rw [build_set_url hurl hsame (fun _ => rfl) hagree, Outcome.mapFailure_id]

/-- A draft whose additional data and query have a name in common, and the nonce twice. -/
def sharingDraft (t : Instant) : Draft where
  url := some ⟨some "http", some "h", "/", some "A=1&OAUTH_nonce=q&c"⟩
  method := "get"
  consumerKey := "k"
  consumerSecret := "s"
  nonce := "n"
  additional := [("a", "0"), ("B", "3")]
  time := some t
  version_stated := isBlank_standardVersion

theorem build_reordered_sharing :
    let d := sharingDraft ⟨1, 0⟩
    let u : Uri := ⟨some "http", some "h", "/", some "A=1&OAUTH_nonce=q&c"⟩
    let v : Uri := ⟨some "http", some "h", "/", some "&c&OAUTH_nonce=q&&A=1&"⟩
    let base := "GET&http%3A%2F%2Fh%2F&a%3D1%26B%3D3%26c%3D%26oauth_consumer_key%3Dk" ++
      "%26oauth_nonce%3Dq%26oauth_signature_method%3DHMAC-SHA1%26oauth_timestamp%3D1" ++
      "%26oauth_version%3D1.0"
    d.time = some ⟨1, 0⟩ ∧ d.url = some u ∧ Table.Distinct Text.folded d.additional ∧
      d.additional.Perm [("B", "3"), ("a", "0")] ∧
      Table.Distinct Text.folded u.queryPairs ∧
      (Params.segments u.query).Perm (Params.segments v.query) ∧
      (d.set (.additional [("B", "3"), ("a", "0")])).build ⟨3, 0⟩ = d.build ⟨2, 0⟩ ∧
      (d.set (.url v)).build ⟨3, 0⟩ = d.build ⟨2, 0⟩ ∧
      d.baseText "1" = .ok base := by
  intro d u v base
  have htime : d.time = some ⟨1, 0⟩ := rfl
  have hadditional : Table.Distinct Text.folded d.additional := by decide +kernel
  have hswap : d.additional.Perm [("B", "3"), ("a", "0")] := by decide
  have hquery : Table.Distinct Text.folded u.queryPairs := by decide +kernel
  have hsegments : (Params.segments u.query).Perm (Params.segments v.query) := by decide +kernel
  obtain ⟨hleft, hright⟩ := build_reordered htime ⟨2, 0⟩ ⟨3, 0⟩
  exact ⟨htime, rfl, hadditional, hswap, hquery, hsegments, hleft _ hadditional hswap,
    (hright u v.query rfl hquery hsegments).2 (by decide) (by decide) (by decide),
    Outcome.eq_ok_of_toOption (by decide +kernel)⟩

/-- A draft for an address without a scheme, with two segments. -/
def relativeDraft (t : Instant) : Draft where
  url := some ⟨none, none, "/p", some "a=1&b=2"⟩
  method := "GET"
  consumerKey := "k"
  consumerSecret := "s"
  nonce := "n"
  time := some t
  version_stated := isBlank_standardVersion

/-- The failure shows in which order the segments are written. -/
theorem build_relative_ne :
    let d := relativeDraft ⟨1, 0⟩
    let u : Uri := ⟨none, none, "/p", some "a=1&b=2"⟩
    let v : Uri := ⟨none, none, "/p", some "b=2&a=1"⟩
    d.time = some ⟨1, 0⟩ ∧ d.url = some u ∧ Table.Distinct Text.folded u.queryPairs ∧
      (Params.segments u.query).Perm (Params.segments v.query) ∧
      (d.build ⟨1, 0⟩).result = .error (Failure.of (.noScheme "/p?a=1&b=2")) ∧
      ((d.set (.url v)).build ⟨1, 0⟩).result = .error (Failure.of (.noScheme "/p?b=2&a=1")) ∧
      (d.set (.url v)).build ⟨1, 0⟩ ≠ d.build ⟨1, 0⟩ := by
  intro d u v
  have hbuild : (d.build ⟨1, 0⟩).result =
      .error (Failure.of (.noScheme "/p?a=1&b=2")) := by cbv
  have hbuild' : ((d.set (.url v)).build ⟨1, 0⟩).result =
      .error (Failure.of (.noScheme "/p?b=2&a=1")) := by cbv
  refine ⟨rfl, rfl, by decide +kernel, by decide +kernel, hbuild, hbuild', fun h => ?_⟩
  rw [h, hbuild] at hbuild'
  exact absurd (Except.error.inj hbuild') (by decide)

end Draft

end RequestSigning
