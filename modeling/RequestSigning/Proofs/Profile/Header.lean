import RequestSigning.Proofs.Draft.Header
import RequestSigning.Proofs.Outcome
import RequestSigning.Proofs.Profile.Draft
import RequestSigning.Proofs.Signer.Runs
import RequestSigning.Proofs.Template

/-!
# The header of a profile

A profile, a message and a request have an authorization header if a few things are there. They are
asked for at several places and in part more than once, but all that counts is the first of them
that is missing.

* `Profile.headerFor`, `Profile.paramsFor`: the header and the parameters that it is written from.
* `Profile.Need`: what is needed, in order, with `Need.Met` and `Need.Fault`.
* `Profile.map_paramsFor`: there are parameters exactly if these checks in a row succeed.
* `Profile.headerFor_iff`: when there is a header, and the failure if there is none.
-/

namespace RequestSigning

namespace Profile

/-! ### The header and its parameters -/

/-- The nonce that is sent for a message: the configured one, or the derived one if that is
blank. -/
def effectiveNonce (p : Profile) (m : MessageView) : String :=
  Text.orIfBlank (m.fillSetting (p.text .nonce)) m.derivedNonce

/-- The authorization header for a message and the request it is sent with, signed at a fixed time
or else at the present instant. -/
def headerFor (p : Profile) (h : Host) (method : String) (url : Uri) (m : MessageView)
    (time : Option Instant) (now : Instant) : Outcome String := do
  let d ← p.draftFor h method url m
  (d.setAll (time.map .time).toList).build now

/-- The draft that such a header is built from. -/
def requestDraft (p : Profile) (method : String) (url : Uri) (m : MessageView)
    (time : Option Instant) (c : Credential) : Draft :=
  (p.settled m c).setAll ([.method method, .url url] ++ (time.map .time).toList)

/-- The parameters that such a header is written from. -/
def paramsFor (p : Profile) (h : Host) (method : String) (url : Uri) (m : MessageView)
    (time : Option Instant) (now : Instant) : Except Failure Dictionary :=
  (p.credential h m).result.bind fun c =>
    let d := p.requestDraft method url m time c
    let timestamp := (d.instant now).unixText
    (d.baseText timestamp).map (d.headerParams timestamp)

variable {p : Profile} {h : Host} {method : String} {url : Uri} {m : MessageView}
  {time : Option Instant} {now : Instant}

theorem result_headerFor (p : Profile) (h : Host) (method : String) (url : Uri) (m : MessageView)
    (time : Option Instant) (now : Instant) :
    (p.headerFor h method url m time now).result =
      (p.paramsFor h method url m time now).map Header.write := by
  rw [headerFor, Outcome.result_bind, result_draftFor, result_draft, paramsFor]
  cases (p.credential h m).result with
  | error f => rfl
  | ok c =>
    show ((p.requestDraft method url m time c).build now).result = _
    rw [Draft.result_build]
    show _ = (Except.map _ _).map _
    cases (p.requestDraft method url m time c).baseText _ <;> rfl

theorem nonce_requestDraft (c : Credential) :
    (p.requestDraft method url m time c).nonce = p.effectiveNonce m := by
  cases time <;> rfl

/-! ### What is needed -/

/-- What is needed for a header, in the order in which it is asked for. -/
inductive Need where
  | credential
  | nonce
  | method
  | scheme
  | host
deriving DecidableEq

namespace Need

def all : List Need := [.credential, .nonce, .method, .scheme, .host]

theorem mem_all (n : Need) : n ∈ all := by
  cases n <;> decide

/-- Whether a need is met: there is a credential, nonce and method are not blank, and the address
has a scheme and a host that is not empty. -/
def Met (p : Profile) (h : Host) (method : String) (url : Uri) (m : MessageView) : Need → Prop
  | .credential => ∃ c, (p.credential h m).result = .ok c
  | .nonce => Text.isBlank (p.effectiveNonce m) = false
  | .method => Text.isBlank method = false
  | .scheme => url.scheme ≠ none
  | .host => ∃ host, url.host = some host ∧ host ≠ ""

/-- The failure for a need that is not met. -/
def Fault (p : Profile) (h : Host) (url : Uri) (m : MessageView) : Need → Failure → Prop
  | .credential, f => (p.credential h m).result = .error f
  | .nonce, f => f = Failure.blank .nonce
  | .method, f => f = Failure.blank .method
  | .scheme, f => f = Failure.of (.noScheme url.text)
  | .host, f => f = Failure.of (.noHost url.text)

/-- The kind of that failure. -/
def faultKind : Need → Failure.Kind
  | .credential => .configuration
  | .nonce => .configuration
  | .method => .configuration
  | .scheme => .encoding
  | .host => .encoding

/-- The check of a need on its own. -/
def check (p : Profile) (h : Host) (method : String) (url : Uri) (m : MessageView) :
    Need → Except Failure Unit
  | .credential => (p.credential h m).result.map fun _ => ()
  | .nonce => Required.nonce.check (p.effectiveNonce m)
  | .method => Required.method.check method
  | .scheme => if url.scheme = none then .error (Failure.of (.noScheme url.text)) else .ok ()
  | .host =>
    if url.host.filter (· ≠ "") = none then .error (Failure.of (.noHost url.text)) else .ok ()

theorem check_eq_ok_iff (n : Need) :
    n.check p h method url m = .ok () ↔ n.Met p h method url m := by
  cases n with
  | credential => simp [check, Met, Outcome.map_eq_ok_iff]
  | nonce => exact Required.check_eq_ok_iff _ _ _
  | method => exact Required.check_eq_ok_iff _ _ _
  | scheme => simp [check, Met]
  | host => simp [check, Met]

theorem check_eq_error_iff (n : Need) (f : Failure) :
    n.check p h method url m = .error f ↔ ¬ n.Met p h method url m ∧ n.Fault p h url m f := by
  constructor
  · intro hf
    refine ⟨fun hmet => ?_, ?_⟩
    · rw [n.check_eq_ok_iff.mpr hmet] at hf
      exact absurd hf (by simp)
    · cases n with
      | credential => exact Outcome.map_eq_error_iff.mp hf
      | nonce | method | scheme | host => exact (Outcome.ite_eq_error_iff.mp hf).2
  · rintro ⟨hmet, hfault⟩
    rw [← n.check_eq_ok_iff] at hmet
    cases n with
    | credential => exact Outcome.map_eq_error_iff.mpr hfault
    | nonce | method | scheme | host => exact Outcome.ite_eq_error_of_ne_ok hmet hfault

/-- The kind of a failure is settled by what is missing. -/
theorem kind_of_fault {n : Need} {f : Failure} (hf : n.Fault p h url m f) :
    f.kind = n.faultKind := by
  cases n with
  | credential => exact List.mem_singleton.mp (p.failsWith_credential h m f hf)
  | nonce | method | scheme | host => rw [hf]; rfl

end Need

/-! ### The checks that are made -/

variable (p : Profile) (h : Host) (method : String) (url : Uri) (m : MessageView)

/-- An address is asked for its scheme first, and then for its host. -/
theorem map_baseText :
    url.baseText.map (fun _ => ()) =
      [Need.scheme, .host].forM (Need.check p h method url m) := by
  rw [Uri.baseText]
  cases hs : url.scheme with
  | none =>
    have hscheme : Need.scheme.check p h method url m = .error (Failure.of (.noScheme url.text)) :=
      if_pos hs
    exact (Outcome.forM_cons_of_error hscheme).symm
  | some s =>
    have hscheme : Need.scheme.check p h method url m = .ok () := if_neg (by simp [hs])
    rw [Outcome.forM_cons_of_ok hscheme]
    cases hh : url.host.filter (· ≠ "") with
    | none =>
      have hhost : Need.host.check p h method url m = .error (Failure.of (.noHost url.text)) :=
        if_pos hh
      exact (Outcome.forM_cons_of_error hhost).symm
    | some host =>
      have hhost : Need.host.check p h method url m = .ok () := if_neg (by rw [hh]; simp)
      rw [Outcome.forM_cons_of_ok hhost]
      rfl

/-- The draft of a request is complete as soon as nonce and method are not blank: a credential that
passes its own check makes the checks of its two texts idle, and the address is there. -/
theorem check_requestDraft (time : Option Instant) {c : Credential} (hc : c.isValid = true) :
    (p.requestDraft method url m time c).check =
      (Need.nonce.check p h method url m).bind fun _ =>
        (Need.method.check p h method url m).bind fun _ => .ok url := by
  obtain ⟨hkey, hsecret⟩ :
      Text.isBlank c.consumerKey = false ∧ Text.isBlank c.consumerSecret = false := by
    simpa [Credential.isValid] using hc
  have hfields : (p.requestDraft method url m time c).consumerKey = c.consumerKey ∧
      (p.requestDraft method url m time c).consumerSecret = c.consumerSecret ∧
      (p.requestDraft method url m time c).method = method ∧
      (p.requestDraft method url m time c).url = some url := by
    cases time <;> exact ⟨rfl, rfl, rfl, rfl⟩
  obtain ⟨hkey', hsecret', hmethod, hurl⟩ := hfields
  rw [Draft.check, hkey', hsecret', hmethod, hurl, nonce_requestDraft,
    Required.check_of_not_blank _ hkey, Required.check_of_not_blank _ hsecret]
  rfl

/-- There are parameters exactly if all needs are met, and otherwise the first failure counts. -/
theorem map_paramsFor (time : Option Instant) (now : Instant) :
    (p.paramsFor h method url m time now).map (fun _ => ()) =
      Need.all.forM (Need.check p h method url m) := by
  rw [paramsFor, Need.all]
  cases hc : (p.credential h m).result with
  | error f =>
    have hcheck : Need.credential.check p h method url m = .error f := by
      rw [Need.check, hc]
      rfl
    exact (Outcome.forM_cons_of_error hcheck).symm
  | ok c =>
    have hcheck : Need.credential.check p h method url m = .ok () := by
      rw [Need.check, hc]
      rfl
    have hparams (d : Draft) (timestamp : String) :
        ((d.baseText timestamp).map (d.headerParams timestamp)).map (fun _ => ()) =
          d.check.bind fun u => u.baseText.map fun _ => () := by
      rw [Draft.baseText]
      cases d.check with
      | error f => rfl
      | ok u =>
        show (Except.map _ (Draft.baseTextAt d u timestamp)).map _ = u.baseText.map _
        rw [Draft.baseTextAt]
        cases u.baseText <;> rfl
    rw [Outcome.forM_cons_of_ok hcheck]
    show Except.map _ (Except.map _ _) = _
    rw [hparams, check_requestDraft p h method url m time (isValid_of_credential hc)]
    cases hnonce : Need.nonce.check p h method url m with
    | error f => exact (Outcome.forM_cons_of_error hnonce).symm
    | ok u =>
      rw [Outcome.forM_cons_of_ok hnonce]
      cases hmethod : Need.method.check p h method url m with
      | error f => exact (Outcome.forM_cons_of_error hmethod).symm
      | ok u =>
        rw [Outcome.forM_cons_of_ok hmethod]
        exact map_baseText p h method url m

/-! ### When there is a header -/

/-- A message and its request have a header exactly if all needs are met. -/
theorem exists_headerFor_iff (time : Option Instant) (now : Instant) :
    (∃ header, (p.headerFor h method url m time now).result = .ok header) ↔
      ∀ n : Need, n.Met p h method url m := by
  have hchecks : (∃ header, (p.headerFor h method url m time now).result = .ok header) ↔
      Need.all.forM (Need.check p h method url m) = .ok () := by
    rw [result_headerFor, ← map_paramsFor p h method url m time now]
    cases p.paramsFor h method url m time now with
    | error f => simp [Except.map]
    | ok params => simp [Except.map]
  rw [hchecks, Outcome.forM_eq_ok_iff]
  simp only [Need.check_eq_ok_iff]
  exact ⟨fun hall n => hall n n.mem_all, fun hall n _ => hall n⟩

/-- If there is no header, then it is for the first need that is not met. -/
theorem headerFor_eq_error_iff (time : Option Instant) (now : Instant) (f : Failure) :
    (p.headerFor h method url m time now).result = .error f ↔
      ∃ earlier n later, Need.all = earlier ++ n :: later ∧
        (∀ e ∈ earlier, Need.Met p h method url m e) ∧
        ¬ n.Met p h method url m ∧ n.Fault p h url m f := by
  have hchecks : (p.headerFor h method url m time now).result = .error f ↔
      Need.all.forM (Need.check p h method url m) = .error f := by
    rw [result_headerFor, Outcome.map_eq_error_iff, ← map_paramsFor p h method url m time now,
      Outcome.map_eq_error_iff]
  rw [hchecks, Outcome.forM_eq_error_iff]
  simp only [Need.check_eq_ok_iff, Need.check_eq_error_iff]

/-- The texts of a profile without references are its credential, whatever the message. -/
theorem credential_plainProfile (m : Message) :
    (plainProfile.credential {} m).result = .ok ⟨"k", "s", none, none⟩ := by
  have hkey : m.fill "k" = "k" := m.fill_of_not_opens (by decide)
  have hsecret : m.fill "s" = "s" := m.fill_of_not_opens (by decide)
  have hvariables : Host.fillVariables {} "s" = "s" :=
    Template.expand_of_not_infix _ (by decide)
  have hstored : (readSecret {} m (some "s")).result = .ok "s" := by
    show Except.ok (m.fill (Host.fillVariables {} "s")) = _
    rw [hvariables, hsecret]
  refine (credential_eq_ok_iff _ _ _ _).mpr
    ⟨"s", "", hstored, rfl, ?_, by decide, ?_⟩
  · show Text.isBlank (m.fill "k") = false
    rw [hkey]
    decide
  · show _ = (⟨m.fill "k", "s", none, unlessBlank ""⟩ : Credential)
    rw [hkey]
    rfl

/-! ### What is never reported -/

/-- The messages of drafts that lack what a draft with a credential and an address has. -/
def idleMessages : List String :=
  ["consumer_key must not be blank", "consumer_secret must not be blank", "url is required"]

variable {p h url m}

theorem message_not_mem_idleMessages {n : Need} (hn : n ≠ .credential) {f : Failure}
    (hf : n.Fault p h url m f) : f.message ∉ idleMessages := by
  -- the messages that name an address are told apart by their last character
  have hlast (start last : String) (c : Char) (hc : last.toList.getLast? = some c)
      (hidle : ∀ s ∈ idleMessages, s.toList.getLast? ≠ some c) :
      start ++ last ∉ idleMessages := by
    intro hmem
    refine hidle _ hmem ?_
    rw [String.toList_append, List.getLast?_append, hc]
    rfl
  cases n with
  | credential => exact absurd rfl hn
  | nonce => rw [hf]; decide
  | method => rw [hf]; decide
  | scheme => rw [hf]; exact hlast _ " has no scheme" 'e' (by decide) (by decide)
  | host => rw [hf]; exact hlast _ " has no host" 't' (by decide) (by decide)

/-- A profile has a header for a message and a request exactly if it has a credential, neither the
nonce nor the method is blank, and the address has a scheme and a host. Otherwise it is the first
of these that decides the failure and its kind. With a credential no failure is an unexpected one,
and none is about the texts of the credential or about a missing address. -/
theorem headerFor_iff (p : Profile) (h : Host) (method : String) (url : Uri) (m : MessageView)
    (time : Option Instant) (now : Instant) :
    let result := (p.headerFor h method url m time now).result
    ((∃ header, result = .ok header) ↔ ∀ n : Need, n.Met p h method url m) ∧
      (∀ f, result = .error f ↔ ∃ earlier n later, Need.all = earlier ++ n :: later ∧
        (∀ e ∈ earlier, Need.Met p h method url m e) ∧
        ¬ n.Met p h method url m ∧ n.Fault p h url m f) ∧
      (∀ n f, Need.Fault p h url m n f → f.kind = n.faultKind) ∧
      ∀ c f, (p.credential h m).result = .ok c → result = .error f →
        f.kind ≠ .unexpected ∧ f.message ∉ idleMessages := by
  intro result
  refine ⟨exists_headerFor_iff p h method url m time now,
    headerFor_eq_error_iff p h method url m time now, fun n f => Need.kind_of_fault, ?_⟩
  intro c f hc hf
  obtain ⟨-, n, -, -, -, hmet, hfault⟩ :=
    (headerFor_eq_error_iff p h method url m time now f).mp hf
  refine ⟨?_, message_not_mem_idleMessages ?_ hfault⟩
  · rw [Need.kind_of_fault hfault]
    cases n <;> decide
  · rintro rfl
    exact hmet ⟨c, hc⟩

/-- A message whose identifier is made of separators only. -/
def separatorsMessage : Message :=
  ⟨":-:", Table.empty⟩

/-- Such an identifier leaves the nonce blank, and this is found before the blank method and the
missing host are. -/
theorem headerFor_iff_separators :
    ∃ c, (plainProfile.credential {} separatorsMessage).result = .ok c ∧
      (plainProfile.headerFor {} " " ⟨some "http", none, "/", none⟩ separatorsMessage
        (some ⟨1, 0⟩) ⟨2, 0⟩).result = .error (Failure.blank .nonce) ∧
      (Failure.blank .nonce).kind ≠ .unexpected ∧
      (Failure.blank .nonce).message ∉ idleMessages := by
  obtain ⟨-, herror, -, hidle⟩ := headerFor_iff plainProfile {} " "
    ⟨some "http", none, "/", none⟩ separatorsMessage (some ⟨1, 0⟩) ⟨2, 0⟩
  have hc := credential_plainProfile separatorsMessage
  have hnonce : Text.isBlank (plainProfile.effectiveNonce separatorsMessage) = true := by
    decide +kernel
  have hfirst := (herror (Failure.blank .nonce)).mpr
    ⟨[.credential], .nonce, [.method, .scheme, .host], rfl,
      List.forall_mem_singleton.mpr ⟨_, hc⟩, by simp [Need.Met, hnonce], rfl⟩
  obtain ⟨hkind, hmessage⟩ := hidle _ _ hc hfirst
  exact ⟨_, hc, hfirst, hkind, hmessage⟩

end Profile

end RequestSigning
