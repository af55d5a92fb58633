import RequestSigning.Proofs.Signer.Failures
import RequestSigning.Proofs.Template

/-!
# Runs of signers

Several signers may work on one message or on one request, one after the other, and some of them
may fail. A call that fails leaves no trace, so what is found in the end is told by the successful
calls alone.

* `InPlace.runAll_last`: a part of the state that each computation overwrites or leaves holds what
  was written last.
* `MessageSigner.run_inPlace_cases`, `HttpSigner.run_inPlace_cases`: all that one call can do.
* `MessageSigner.lastHeader?`, `HttpSigner.lastField?`: what the last successful call stores.
* `MessageSigner.get?_runAll`, `HttpSigner.named_runAll`: messages and requests after any run.
* `signing_atomic`: these results together with the kinds of failure.
-/

namespace RequestSigning

/-! ### Runs in general -/

namespace InPlace

variable {σ α β γ : Type} {run : γ → InPlace σ α}

/-- A part of the state holds what the last computation that wrote to it has written. The claim is
made for states with an invariant that all computations keep. -/
theorem runAll_last (holds : σ → Prop) (part : σ → Option β)
    (written : γ × Except Failure α → Option β)
    (keeps : ∀ c s, holds s → holds ((run c).run s).2)
    (step : ∀ c s, holds s →
      part ((run c).run s).2 = (written (c, ((run c).run s).1.result)).or (part s))
    (calls : List γ) {s : σ} (hs : holds s) :
    part (runAll (calls.map run) s).2 =
      ((calls.zip (runAll (calls.map run) s).1).reverse.findSome? written).or (part s) := by
  induction calls generalizing s with
  | nil => rfl
  | cons c rest ih =>
    rw [List.map_cons, runAll_cons, List.zip_cons_cons, List.reverse_cons, List.findSome?_append,
      ih (keeps c s hs), step c s hs, Option.or_assoc]
    congr 1
    cases hwritten : written (c, ((run c).run s).1.result) <;> simp [hwritten]

end InPlace

/-! ### Messages -/

namespace MessageSigner

/-- All that a call does to a message: it stores the header it answers, or it fails and leaves the
message alone. -/
theorem run_inPlace_cases (c : Call) (m : Message) :
    (∃ f, (c.inPlace.run m).1.result = .error f ∧ (c.inPlace.run m).2 = m ∧
      f.kind ∈ [Failure.Kind.configuration, .encoding]) ∨
    ∃ header, (c.inPlace.run m).1.result = .ok header ∧
      (c.inPlace.run m).2 = m.insert c.signer.targetKey header := by
  obtain ⟨hresult, -, hstate⟩ := c.signer.run_signInPlace c.host c.now m
  rw [result_sign] at hresult hstate
  cases hheader : (c.signer.header c.host c.now m).result with
  | error f =>
    rw [hheader] at hresult hstate
    exact .inl ⟨f, hresult, hstate, c.signer.failsWith_header c.host c.now m f hheader⟩
  | ok header =>
    rw [hheader] at hresult hstate
    exact .inr ⟨header, hresult, hstate⟩

/-- The header of the last call with a target key that has one. -/
def lastHeader? (key : String) (answered : List (Call × Except Failure String)) :
    Option String :=
  answered.reverse.findSome? fun p =>
    if p.1.signer.targetKey = key then p.2.toOption else none

theorem uniqueId_inPlace (c : Call) (m : Message) : (c.inPlace.run m).2.uniqueId = m.uniqueId := by
  rcases run_inPlace_cases c m with ⟨f, -, hstate, -⟩ | ⟨header, -, hstate⟩
  · rw [hstate]
  · rw [hstate, Message.uniqueId_insert]

/-- A call writes to its target key, and only if it is successful. -/
theorem get?_inPlace (c : Call) (m : Message) (key : String) :
    (c.inPlace.run m).2.metadata.get? key =
      (if c.signer.targetKey = key then (c.inPlace.run m).1.result.toOption else none).or
        (m.metadata.get? key) := by
  rcases run_inPlace_cases c m with ⟨f, hresult, hstate, -⟩ | ⟨header, hresult, hstate⟩
  · rw [hresult, hstate]
    split <;> rfl
  · rw [hresult, hstate, Message.insert, Dictionary.get?_insert]
    split <;> rfl

theorem uniqueId_runAll (calls : List Call) (m : Message) :
    (InPlace.runAll (calls.map Call.inPlace) m).2.uniqueId = m.uniqueId := by
  refine InPlace.runAll_keeps (P := fun m' : Message => m'.uniqueId = m.uniqueId) ?_ rfl
  intro x hx m' hm'
  obtain ⟨c, -, rfl⟩ := List.mem_map.mp hx
  rw [uniqueId_inPlace, hm']

/-- The metadata after a run of calls: under each key the header of the last successful call with
that key, or else what was there before. -/
theorem get?_runAll (calls : List Call) (m : Message) (key : String) :
    (InPlace.runAll (calls.map Call.inPlace) m).2.metadata.get? key =
      (lastHeader? key (calls.zip (InPlace.runAll (calls.map Call.inPlace) m).1)).or
        (m.metadata.get? key) :=
  InPlace.runAll_last (fun _ => True) (fun m => m.metadata.get? key)
    (fun p => if p.1.signer.targetKey = key then p.2.toOption else none) (fun _ _ _ => trivial)
    (fun c m _ => get?_inPlace c m key) calls trivial

end MessageSigner

/-! ### Requests -/

namespace HttpSigner

/-- All that a call does to a request: it stores the header it makes as the authorization field, or
it fails and leaves the request alone. -/
theorem run_inPlace_cases (c : Call) (r : Http.Request) :
    (∃ f, (c.inPlace.run r).1.result = .error f ∧ (c.inPlace.run r).2 = r ∧
      f.kind ∈ [Failure.Kind.configuration, .encoding, .request]) ∨
    ∃ header, (c.inPlace.run r).1.result = .ok () ∧ (c.header r).result = .ok header ∧
      (c.inPlace.run r).2 = r.replace ⟨fieldName, header, true⟩ := by
  obtain ⟨hresult, hstate⟩ := c.signer.run_signInPlace c.host c.fresh c.now c.override r
  cases hsign : (c.signer.sign c.host c.fresh c.now r c.override).result with
  | error f =>
    rw [hsign] at hresult hstate
    exact .inl ⟨f, hresult, hstate,
      c.signer.failsWith_sign c.host c.fresh c.now r c.override f hsign⟩
  | ok signed =>
    rw [hsign] at hresult hstate
    obtain ⟨header, hheader, -, rfl⟩ := exists_header_of_sign hsign
    exact .inr ⟨header, hresult, hheader, hstate⟩

/-- The header of a request depends on its method and its address only. -/
theorem header_congr (c : Call) {r r' : Http.Request} (hmethod : r'.method = r.method)
    (huri : r'.uri = r.uri) : c.header r' = c.header r := by
  have hsettings : c.signer.settings r' = c.signer.settings r := by
    rw [settings, settings, hmethod, huri]
  simp only [Call.header, header, hsettings]

/-- The authorization field that a call stores in a request, if its answer is that it did. -/
def storedField? (r : Http.Request) (answered : Call × Except Failure Unit) : Option Http.Field :=
  match answered.2, (answered.1.header r).result with
  | .ok (), .ok header => some ⟨fieldName, header, true⟩
  | _, _ => none

/-- The authorization field that the last successful call stores. -/
def lastField? (r : Http.Request) (answered : List (Call × Except Failure Unit)) :
    Option Http.Field :=
  answered.reverse.findSome? (storedField? r)

/-- What all calls on a request keep: its method, its address, and its other fields. -/
structure Kept (r r' : Http.Request) : Prop where
  method : r'.method = r.method
  uri : r'.uri = r.uri
  others : r'.fields.filter (·.name ≠ fieldName) = r.fields.filter (·.name ≠ fieldName)

theorem Kept.inPlace {r r' : Http.Request} (hr : Kept r r') (c : Call) :
    Kept r (c.inPlace.run r').2 := by
  rcases run_inPlace_cases c r' with ⟨f, -, hstate, -⟩ | ⟨header, -, -, hstate⟩
  · rw [hstate]
    exact hr
  · rw [hstate]
    refine ⟨hr.method, hr.uri, ?_⟩
    rw [← hr.others]
    simp [Http.Request.replace, List.filter_append, List.filter_filter]

theorem kept_runAll (calls : List Call) (r : Http.Request) :
    Kept r (InPlace.runAll (calls.map Call.inPlace) r).2 := by
  refine InPlace.runAll_keeps (P := Kept r) ?_ ⟨rfl, rfl, rfl⟩
  intro x hx r' hr'
  obtain ⟨c, -, rfl⟩ := List.mem_map.mp hx
  exact hr'.inPlace c

/-- A call writes the authorization field, and only if it is successful. -/
theorem named_inPlace {r r' : Http.Request} (hr : Kept r r') (c : Call) :
    some ((c.inPlace.run r').2.named fieldName) =
      ((storedField? r (c, (c.inPlace.run r').1.result)).map ([·])).or
        (some (r'.named fieldName)) := by
  rcases run_inPlace_cases c r' with ⟨f, hresult, hstate, -⟩ | ⟨header, hresult, hheader, hstate⟩
  · rw [hresult, hstate]
    rfl
  · rw [header_congr c hr.method hr.uri] at hheader
    rw [hresult, hstate, storedField?, hheader]
    exact congrArg some (r'.named_replace _)

/-- The authorization fields after a run of calls: the one that the last successful call stores, or
else those that were there before. -/
theorem named_runAll (calls : List Call) (r : Http.Request) :
    (InPlace.runAll (calls.map Call.inPlace) r).2.named fieldName =
      ((lastField? r (calls.zip (InPlace.runAll (calls.map Call.inPlace) r).1)).map ([·])).getD
        (r.named fieldName) := by
  have hlast := InPlace.runAll_last (Kept r) (fun r' => some (r'.named fieldName))
    (fun p => (storedField? r p).map ([·])) (fun c _ hr => hr.inPlace c)
    (fun c _ hr => named_inPlace hr c) calls ⟨rfl, rfl, rfl⟩
  rw [Option.or_some, Option.some_inj] at hlast
  rw [hlast, lastField?, List.map_findSome?]
  rfl

end HttpSigner

/-! ### Both together -/

/-- Signers leave nothing behind but headers of successful calls, whatever calls are made on a
message or on a request and whichever of them fail. In a message the header of the last successful
call stays under its target key. In a request it is the only authorization field, and a sensitive
one. A failure is of a few kinds, and if the decoder refuses a secret it is one of configuration;
only a message without an address fails before the decoder is asked. -/
theorem signing_atomic :
    (∀ (calls : List MessageSigner.Call) (m : Message),
      let run := InPlace.runAll (calls.map MessageSigner.Call.inPlace) m
      run.1.length = calls.length ∧ run.2.uniqueId = m.uniqueId ∧
        ∀ key, run.2.metadata.get? key =
          (MessageSigner.lastHeader? key (calls.zip run.1)).or (m.metadata.get? key)) ∧
    (∀ (c : MessageSigner.Call) (m : Message) (f : Failure),
      (c.inPlace.run m).1.result = .error f →
        (c.inPlace.run m).2 = m ∧ (f.kind = .configuration ∨ f.kind = .encoding)) ∧
    (∀ (calls : List HttpSigner.Call) (r : Http.Request),
      let run := InPlace.runAll (calls.map HttpSigner.Call.inPlace) r
      run.1.length = calls.length ∧ HttpSigner.Kept r run.2 ∧
        run.2.named HttpSigner.fieldName =
          ((HttpSigner.lastField? r (calls.zip run.1)).map ([·])).getD
            (r.named HttpSigner.fieldName)) ∧
    (∀ (c : HttpSigner.Call) (r : Http.Request) (f : Failure),
      (c.inPlace.run r).1.result = .error f →
        (c.inPlace.run r).2 = r ∧
          (f.kind = .configuration ∨ f.kind = .encoding ∨ f.kind = .request)) ∧
    (∀ (c : HttpSigner.Call) (r : Http.Request),
      (c.inPlace.run r).1.result = .ok () →
        ∃ header, (c.header r).result = .ok header ∧
          (c.inPlace.run r).2.named HttpSigner.fieldName =
            [⟨HttpSigner.fieldName, header, true⟩]) ∧
    (∀ (c : MessageSigner.Call) (m : Message),
      c.signer.profile.Undecodable c.host m →
        ∃ f, (c.inPlace.run m).1.result = .error f ∧
          (f.kind = .configuration ∨
            MessageSigner.address (m.fill c.signer.url) = .error f)) ∧
    (∀ (c : HttpSigner.Call) (r : Http.Request),
      c.signer.profile.Undecodable c.host (c.signer.message.getD c.fresh) →
      c.override = none →
        ∃ f, (c.inPlace.run r).1.result = .error f ∧ f.kind = .configuration) := by
  refine ⟨fun calls m => ⟨by simp, MessageSigner.uniqueId_runAll calls m,
      MessageSigner.get?_runAll calls m⟩,
    ?_, fun calls r => ⟨by simp, HttpSigner.kept_runAll calls r, HttpSigner.named_runAll calls r⟩,
    ?_, ?_, ?_, ?_⟩
  · intro c m f hf
    rcases MessageSigner.run_inPlace_cases c m with ⟨f', hf', hstate, hkind⟩ | ⟨header, hok, -⟩
    · obtain rfl : f' = f := Except.error.inj (hf'.symm.trans hf)
      exact ⟨hstate, by simpa using hkind⟩
    · exact absurd (hok.symm.trans hf) (by simp)
  · intro c r f hf
    rcases HttpSigner.run_inPlace_cases c r with ⟨f', hf', hstate, hkind⟩ | ⟨header, hok, -⟩
    · obtain rfl : f' = f := Except.error.inj (hf'.symm.trans hf)
      exact ⟨hstate, by simpa using hkind⟩
    · exact absurd (hok.symm.trans hf) (by simp)
  · intro c r hok
    rcases HttpSigner.run_inPlace_cases c r with ⟨f, hf, -⟩ | ⟨header, -, hheader, hstate⟩
    · exact absurd (hok.symm.trans hf) (by simp)
    · refine ⟨header, hheader, ?_⟩
      rw [hstate]
      exact r.named_replace _
  · intro c m hp
    obtain ⟨f, hf, hkind⟩ := MessageSigner.header_of_undecodable hp c.now
    refine ⟨f, ?_, hkind⟩
    rw [MessageSigner.Call.inPlace, (c.signer.run_signInPlace c.host c.now m).1,
      MessageSigner.result_sign, hf]
    rfl
  · intro c r hp hoverride
    obtain ⟨f, hf, hkind⟩ := HttpSigner.header_of_undecodable hp c.now r
    rw [← hoverride] at hf
    refine ⟨f, ?_, hkind⟩
    rw [HttpSigner.Call.inPlace, (c.signer.run_signInPlace c.host c.fresh c.now c.override r).1,
      HttpSigner.result_sign_of_error hf]
    rfl

/-- A host that refuses every secret, with a fault of the credential. -/
def refusingHost : Host where
  decoder := ⟨fun _ => .error (Failure.of (.other .credential "refused")), "Refusing"⟩

/-- A profile whose signatures are short. -/
def plainProfile : Profile where
  text
    | .consumerKey => some "k"
    | .consumerSecret => some "s"
    | .signingMethod => some "PLAINTEXT"
    | _ => none

theorem undecodable_plainProfile (m : MessageView) : plainProfile.Undecodable refusingHost m :=
  ⟨.consumerSecret, "s", Failure.of (.other .credential "refused"), rfl, rfl, rfl⟩

def plainMessage : Message :=
  ⟨"id-1", Table.empty⟩

def plainMessageCall (h : Host) (now : Instant) : MessageSigner.Call where
  signer := { profile := plainProfile, url := "http://h/" }
  host := h
  now := now

def plainRequestCall (h : Host) (now : Instant) : HttpSigner.Call where
  signer := { profile := plainProfile }
  host := h
  fresh := plainMessage
  now := now

/-- A request that was signed before. -/
def signedRequest : Http.Request where
  method := "GET"
  uri := ⟨some "http", some "h", "/", none⟩
  fields := [⟨HttpSigner.fieldName, "OAuth", true⟩]

/-- The header of the plain message at the first second. -/
def plainHeader : String :=
  "OAuth oauth_consumer_key=\"k\", oauth_nonce=\"id1\", oauth_signature=\"cyY%3D\", " ++
    "oauth_signature_method=\"PLAINTEXT\", oauth_timestamp=\"1\", oauth_version=\"1.0\", " ++
    "realm=\"\""

/-- A host that takes secrets as they are, and then one that refuses them: the first call stores its
header, and the second fails and leaves it there. On the refusing host alone both the message and
the request stay as they are. -/
theorem signing_atomic_plain :
    let calls := [plainMessageCall {} ⟨1, 0⟩, plainMessageCall refusingHost ⟨2, 0⟩]
    let run := InPlace.runAll (calls.map MessageSigner.Call.inPlace) plainMessage
    (∃ f, run.1 = [.ok plainHeader, .error f] ∧ f.kind = .configuration ∧
      run.2.uniqueId = "id-1" ∧ run.2.metadata.get? "Authorization" = some plainHeader) ∧
    (∃ f, ((plainMessageCall refusingHost ⟨1, 0⟩).inPlace.run plainMessage).1.result = .error f ∧
      f.kind = .configuration ∧
        ((plainMessageCall refusingHost ⟨1, 0⟩).inPlace.run plainMessage).2 = plainMessage) ∧
    (∃ f, ((plainRequestCall refusingHost ⟨1, 0⟩).inPlace.run signedRequest).1.result = .error f ∧
      f.kind = .configuration ∧
        ((plainRequestCall refusingHost ⟨1, 0⟩).inPlace.run signedRequest).2 = signedRequest) ∧
    ∃ header, ((plainRequestCall {} ⟨1, 0⟩).header signedRequest).result = .ok header ∧
      ((plainRequestCall {} ⟨1, 0⟩).inPlace.run signedRequest).2.named HttpSigner.fieldName =
        [⟨HttpSigner.fieldName, header, true⟩] := by
  intro calls run
  obtain ⟨hrun, hmessage, -, hrequest, hsigned, hmessageRefused, hrequestRefused⟩ := signing_atomic
  have haddress (m : Message) : MessageSigner.address (m.fill "http://h/") =
      .ok ⟨some "http", some "h", "/", none⟩ := by
    rw [m.fill_of_not_opens (by decide +kernel)]
    exact Outcome.eq_ok_of_toOption (by decide +kernel)
  have hrefused (now : Instant) (m : Message) :
      ∃ f, ((plainMessageCall refusingHost now).inPlace.run m).1.result = .error f ∧
        f.kind = .configuration := by
    obtain ⟨f, hf, hkind | hfault⟩ := hmessageRefused (plainMessageCall refusingHost now) m
      (undecodable_plainProfile m)
    · exact ⟨f, hf, hkind⟩
    · exact absurd ((haddress m).symm.trans hfault) (by simp)
  have hfirst : ((plainMessageCall {} ⟨1, 0⟩).inPlace.run plainMessage).1.result =
      .ok plainHeader :=
    Outcome.eq_ok_of_toOption (by decide +kernel)
  have hok : ((plainRequestCall {} ⟨1, 0⟩).inPlace.run signedRequest).1.result = .ok () :=
    Outcome.eq_ok_of_toOption (by decide +kernel)
  refine ⟨?_, ?_, ?_, hsigned _ signedRequest hok⟩
  · obtain ⟨f, hsecond, hkind⟩ := hrefused ⟨2, 0⟩
      ((plainMessageCall {} ⟨1, 0⟩).inPlace.run plainMessage).2
    have hresults : run.1 = [.ok plainHeader, .error f] := by
      simp only [run, calls, List.map_cons, List.map_nil, InPlace.runAll_cons, InPlace.runAll_nil,
        hfirst, hsecond]
    obtain ⟨-, hid, hstored⟩ := hrun calls plainMessage
    refine ⟨f, hresults, hkind, hid, (hstored "Authorization").trans ?_⟩
    show (MessageSigner.lastHeader? _ (calls.zip run.1)).or _ = _
    rw [hresults]
    rfl
  · obtain ⟨f, hf, hkind⟩ := hrefused ⟨1, 0⟩ plainMessage
    exact ⟨f, hf, hkind, (hmessage _ plainMessage f hf).1⟩
  · obtain ⟨f, hf, hkind⟩ := hrequestRefused (plainRequestCall refusingHost ⟨1, 0⟩) signedRequest
      (undecodable_plainProfile plainMessage) rfl
    exact ⟨f, hf, hkind, (hrequest _ signedRequest f hf).1⟩

end RequestSigning
