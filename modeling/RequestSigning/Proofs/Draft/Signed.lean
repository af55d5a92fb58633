import RequestSigning.Proofs.Draft.Header
import RequestSigning.Proofs.Joined

/-!
# The parameters that a draft signs

The signed parameters come from three sources: what the draft sends, its additional data and the
query of its address. They are written to one table, and here that table is told by the sources
alone.

* `Params.Merged`: what it means that pairs are merged from three sources, with
  `Params.merged_iff`: there is exactly one such list, the entries of the table.
* `Draft.signedParams_eq`: the signed parameters as the table of all sources in order.
* `Draft.mem_signedParams_of_mem_header`: what the header carries is signed as it is carried.
* `Draft.baseText_merged`: the base text of every draft that has one.
-/

namespace RequestSigning

/-! ### Pairs from three sources -/

/-- The pairs of the query of an address; an address without a query has none. -/
def Uri.queryPairs (u : Uri) : List (String × String) :=
  (u.query.map Params.queryPairs).getD []

namespace Params

/-- Pairs merged from three sources: one pair for each name of the sources, ascending by the folded
name, in the spelling that comes first and with the last value of the last source that has one. -/
structure Merged (sent additional query pairs : List (String × String)) : Prop where
  ascending : pairs.Pairwise fun a b => Text.before (Text.folded a.1) (Text.folded b.1) = true
  named : ∀ p ∈ sent ++ additional ++ query,
    ∃ e ∈ pairs, Text.folded e.1 = Text.folded p.1 ∧
      ∀ e' ∈ pairs, Text.folded e'.1 = Text.folded p.1 → e' = e
  spelled : ∀ e ∈ pairs,
    Table.firstSpelling? Text.folded (sent ++ additional ++ query) e.1 = some e.1
  valued : ∀ e ∈ pairs,
    (Table.lastValue? Text.folded query e.1).or
      ((Table.lastValue? Text.folded additional e.1).or
        (Table.lastValue? Text.folded sent e.1)) = some e.2

/-- The value written last in three sources is that of the last source that has one. -/
theorem lastValue?_sources (sent additional query : List (String × String)) (name : String) :
    Table.lastValue? Text.folded (sent ++ additional ++ query) name =
      (Table.lastValue? Text.folded query name).or
        ((Table.lastValue? Text.folded additional name).or
          (Table.lastValue? Text.folded sent name)) := by
  rw [Table.lastValue?_append, Table.lastValue?_append]

theorem merged_entries (sent additional query : List (String × String)) :
    Merged sent additional query
      (Table.ofList (sent ++ additional ++ query) : Params).entries := by
  have hnamed : ∀ p ∈ sent ++ additional ++ query,
      ∃ e ∈ (Table.ofList (sent ++ additional ++ query) : Params).entries,
        Text.folded e.1 = Text.folded p.1 := fun _ hp => Table.exists_mem_ofList hp
  refine ⟨Table.ascending _, ?_, ?_, ?_⟩
  · intro p hp
    obtain ⟨e, he, hn⟩ := hnamed p hp
    refine ⟨e, he, hn, fun e' he' hn' => ?_⟩
    exact Table.eq_of_fold_eq _ he' he (hn'.trans hn.symm)
  · intro e he
    exact ((Table.mem_entries_ofList _ e).mp he).1
  · intro e he
    rw [← lastValue?_sources]
    exact ((Table.mem_entries_ofList _ e).mp he).2

/-- Three sources are merged to one list of pairs and no other. -/
theorem merged_iff {sent additional query pairs : List (String × String)} :
    Merged sent additional query pairs ↔
      pairs = (Table.ofList (sent ++ additional ++ query) : Params).entries := by
  constructor
  · intro h
    refine (Table.entries_eq_of_mem_iff _ h.ascending fun e => ?_).symm
    rw [Table.mem_entries_ofList, lastValue?_sources]
    constructor
    · rintro ⟨hs, hv⟩
      obtain ⟨-, p, hp, hpe⟩ := Table.of_firstSpelling? hs
      obtain ⟨e', he', hn, -⟩ := h.named p hp
      rw [hpe] at hn
      -- the pair of that name has the same spelling and the same value
      have hs' := h.spelled e' he'
      have hv' := h.valued e' he'
      rw [Table.firstSpelling?, hn] at hs'
      rw [Table.lastValue?, Table.lastValue?, Table.lastValue?, hn] at hv'
      have heq : e' = e := Prod.ext (Option.some.inj (hs'.symm.trans hs))
        (Option.some.inj (hv'.symm.trans hv))
      rw [← heq]
      exact he'
    · intro he
      exact ⟨h.spelled e he, h.valued e he⟩
  · rintro rfl
    exact merged_entries sent additional query

end Params

namespace Draft

/-! ### The table of signed parameters -/

/-- All sources are written to one table, one after the other. -/
theorem signedParams_eq (d : Draft) (url : Uri) (timestamp : String) :
    d.signedParams url timestamp =
      Table.ofList ((d.sentParams timestamp).entries ++ d.additional ++ url.queryPairs) := by
  rw [signedParams, Uri.queryPairs, Table.ofList, Table.ofList,
    Table.insertAll_append, Table.insertAll_append]
  cases url.query with
  | none => rfl
  | some query => rfl

theorem protocolNames_ascending_folded :
    protocolNames.Pairwise fun a b => Text.before (Text.folded a) (Text.folded b) = true := by
  decide

theorem map_sentParams_sublist (d : Draft) (timestamp : String) :
    ((d.sentParams timestamp).entries.map (·.1)).Sublist protocolNames := by
  rw [← d.map_protocolEntries timestamp, entries_sentParams]
  exact List.Sublist.map _ List.filter_sublist

/-- What a draft sends, written to a table of signed parameters, stays as it is. -/
theorem entries_ofList_sentParams (d : Draft) (timestamp : String) :
    (Table.ofList (d.sentParams timestamp).entries : Params).entries =
      (d.sentParams timestamp).entries := by
  have hascending : ((d.sentParams timestamp).entries.map (·.1)).Pairwise fun a b =>
      Text.before (Text.folded a) (Text.folded b) = true :=
    protocolNames_ascending_folded.sublist (d.map_sentParams_sublist timestamp)
  exact Table.entries_ofList_of_mem_iff (List.pairwise_map.mp hascending) fun _ => Iff.rfl

/-- The header carries what is sent, and besides only the signature and the realm. -/
theorem mem_headerParams_iff (d : Draft) (timestamp base : String) {e : String × String}
    (hs : e.1 ≠ Protocol.signature) (hr : e.1 ≠ Protocol.realm) :
    e ∈ (d.headerParams timestamp base).entries ↔ e ∈ (d.sentParams timestamp).entries := by
  rw [headerParams, Table.mem_entries_insert_of_ne, Table.mem_entries_insert_of_ne]
  · intro h
    exact hs (String.toList_inj.mp h).symm
  · intro h
    exact hr (String.toList_inj.mp h).symm

/-- A parameter of the header is signed as it is carried, unless the additional data or the query
has its name. -/
theorem mem_signedParams_of_mem_header {d : Draft} {url : Uri} {timestamp base : String}
    {e : String × String} (he : e ∈ (d.headerParams timestamp base).entries)
    (hs : e.1 ≠ Protocol.signature) (hr : e.1 ≠ Protocol.realm)
    (h : ∀ p ∈ d.additional ++ url.queryPairs, Text.folded p.1 ≠ Text.folded e.1) :
    e ∈ (d.signedParams url timestamp).entries := by
  have hsent := (d.mem_headerParams_iff timestamp base hs hr).mp he
  rw [← entries_ofList_sentParams] at hsent
  rw [signedParams_eq, List.append_assoc]
  exact Table.mem_entries_ofList_append hsent h

/-- Neither the realm nor the signature is among the protocol parameters of the base text. -/
theorem folded_ne_of_mem_sentParams {d : Draft} {timestamp : String} {p : String × String}
    (hp : p ∈ (d.sentParams timestamp).entries) :
    Text.folded p.1 ≠ Text.folded Protocol.realm ∧
      Text.folded p.1 ≠ Text.folded Protocol.signature := by
  have hnames : ∀ n ∈ protocolNames,
      Text.folded n ≠ Text.folded Protocol.realm ∧
        Text.folded n ≠ Text.folded Protocol.signature := by
    decide
  exact hnames p.1 ((d.map_sentParams_sublist timestamp).subset (List.mem_map_of_mem hp))

/-- A signed parameter that is named like the realm or the signature is not the draft's own. -/
theorem exists_source_of_mem_signedParams {d : Draft} {url : Uri} {timestamp : String}
    {e : String × String} (he : e ∈ (d.signedParams url timestamp).entries)
    (hn : Text.folded e.1 = Text.folded Protocol.realm ∨
      Text.folded e.1 = Text.folded Protocol.signature) :
    ∃ p ∈ d.additional ++ url.queryPairs, Text.folded p.1 = Text.folded e.1 ∧ p.2 = e.2 := by
  rw [signedParams_eq, List.append_assoc] at he
  obtain ⟨-, hv⟩ := (Table.mem_entries_ofList _ e).mp he
  have hsent : Table.lastValue? Text.folded (d.sentParams timestamp).entries e.1 = none := by
    refine Table.lastValue?_eq_none fun p hp heq => ?_
    obtain ⟨hrealm, hsignature⟩ := folded_ne_of_mem_sentParams hp
    rcases hn with hn | hn
    · exact hrealm (heq.trans hn)
    · exact hsignature (heq.trans hn)
  rw [Table.lastValue?_append, hsent, Option.or_none] at hv
  exact Table.of_lastValue? hv

/-! ### The base text -/

/-- The base text does not depend on the realm. -/
theorem baseText_set_realm (d : Draft) (realm timestamp : String) :
    (d.set (.realm realm)).baseText timestamp = d.baseText timestamp := rfl

/-- The base text does not depend on the secrets, although the signature does. -/
theorem baseText_set_secrets {d : Draft} {timestamp base secret : String}
    (h : d.baseText timestamp = .ok base) (hs : Text.isBlank secret = false)
    (tokenSecret : String) :
    (d.setAll [.consumerSecret secret, .tokenSecret tokenSecret]).baseText timestamp =
      .ok base := by
  obtain ⟨url, hcheck, hat⟩ := (d.baseText_eq_ok_iff timestamp base).mp h
  obtain ⟨hkey, -, hnonce, hmethod, hurl⟩ := (d.check_eq_ok_iff url).mp hcheck
  refine (baseText_eq_ok_iff _ timestamp base).mpr ⟨url, ?_, hat⟩
  exact (check_eq_ok_iff _ url).mpr ⟨hkey, hs, hnonce, hmethod, hurl⟩

/-- A base text is joined from the method, the signed form of the address and the query of the
signed parameters. -/
theorem baseTextAt_eq_ok_iff (d : Draft) (url : Uri) (timestamp base : String) :
    d.baseTextAt url timestamp = .ok base ↔
      ∃ address, url.baseText = .ok address ∧
        base = Text.uppercase (Text.trim d.method) ++ "&" ++ Percent.encode address ++ "&" ++
          Percent.encode (Params.joinPairs (d.signedParams url timestamp).entries) := by
  rw [baseTextAt, Outcome.map_eq_ok_iff]
  simp only [Params.queryText_eq_joinPairs, eq_comm (a := base)]

/-- The last part of a base text is the query of the pairs that are merged from what the draft
sends, its additional data and the query of its address. What the header carries is among these
pairs, as it is carried, unless another source has its name. A pair that is named like the realm
or the signature comes from another source, and neither the realm nor the secrets change the base
text. -/
theorem baseText_merged {d : Draft} {timestamp base : String}
    (h : d.baseText timestamp = .ok base) :
    ∃ url address pairs,
      d.check = .ok url ∧
      url.baseText = .ok address ∧
      base = Text.uppercase (Text.trim d.method) ++ "&" ++ Percent.encode address ++ "&" ++
        Percent.encode (Params.joinPairs pairs) ∧
      Params.Merged (d.sentParams timestamp).entries d.additional url.queryPairs pairs ∧
      (∀ now, (d.instant now).unixText = timestamp →
        (d.build now).result = .ok (Header.write (d.headerParams timestamp base))) ∧
      (∀ e ∈ (d.headerParams timestamp base).entries,
        e.1 ≠ Protocol.signature → e.1 ≠ Protocol.realm →
        (∀ p ∈ d.additional ++ url.queryPairs, Text.folded p.1 ≠ Text.folded e.1) →
        e ∈ pairs) ∧
      (∀ e ∈ pairs,
        Text.folded e.1 = Text.folded Protocol.realm ∨
          Text.folded e.1 = Text.folded Protocol.signature →
        ∃ p ∈ d.additional ++ url.queryPairs,
          Text.folded p.1 = Text.folded e.1 ∧ p.2 = e.2) ∧
      (∀ realm, (d.set (.realm realm)).baseText timestamp = .ok base) ∧
      (∀ secret tokenSecret, Text.isBlank secret = false →
        (d.setAll [.consumerSecret secret, .tokenSecret tokenSecret]).baseText timestamp =
          .ok base) := by
  obtain ⟨url, hcheck, hat⟩ := (d.baseText_eq_ok_iff timestamp base).mp h
  obtain ⟨address, haddress, hbase⟩ := (d.baseTextAt_eq_ok_iff url timestamp base).mp hat
  refine ⟨url, address, (d.signedParams url timestamp).entries, hcheck, haddress, hbase,
    ?_, ?_, ?_, ?_, ?_, ?_⟩
  · rw [signedParams_eq]
    exact Params.merged_entries _ _ _
  · intro now hnow
    rw [result_build, hnow, h]
    rfl
  · intro e he hs hr hother
    exact mem_signedParams_of_mem_header he hs hr hother
  · intro e he hn
    exact exists_source_of_mem_signedParams he hn
  · intro realm
    rw [baseText_set_realm]
    exact h
  · intro secret tokenSecret hs
    exact baseText_set_secrets h hs tokenSecret

/-- A draft whose additional data and query write to the same names, and to the nonce. -/
def collidingDraft : Draft where
  url := some ⟨some "http", some "h", "/", some "A=1&OAUTH_nonce=q&&realm=r&a=2"⟩
  method := "get"
  consumerKey := "k"
  consumerSecret := "s"
  nonce := "n"
  additional := [("a", "0"), ("B", "3")]
  version_stated := isBlank_standardVersion

theorem baseText_merged_colliding :
    let base := "GET&http%3A%2F%2Fh%2F&a%3D2%26B%3D3%26oauth_consumer_key%3Dk%26oauth_nonce%3Dq" ++
      "%26oauth_signature_method%3DHMAC-SHA1%26oauth_timestamp%3D1%26oauth_version%3D1.0" ++
      "%26realm%3Dr"
    collidingDraft.baseText "1" = .ok base ∧
      ∃ url address pairs,
        collidingDraft.check = .ok url ∧ url.baseText = .ok address ∧
        base = "GET&" ++ Percent.encode address ++ "&" ++
          Percent.encode (Params.joinPairs pairs) ∧
        Params.Merged (collidingDraft.sentParams "1").entries collidingDraft.additional
          url.queryPairs pairs := by
  intro base
  have h : collidingDraft.baseText "1" = .ok base :=
    Outcome.eq_ok_of_toOption (by decide +kernel)
  obtain ⟨url, address, pairs, hcheck, haddress, hbase, hmerged, -⟩ := baseText_merged h
  exact ⟨h, url, address, pairs, hcheck, haddress, hbase, hmerged⟩

end Draft

end RequestSigning
