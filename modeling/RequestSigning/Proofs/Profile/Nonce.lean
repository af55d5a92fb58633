import RequestSigning.Proofs.Draft.Supplied
import RequestSigning.Proofs.Profile.Header
import RequestSigning.Uuid

/-!
# Derived nonces

A message for which no nonce is configured is signed with its identifier, from which colons and
hyphens are taken. Two identifiers can become one nonce in this way, but only if they differ in
nothing else. Identifiers with their separators in the same places stay apart.

* `Message.isSeparator`, `Message.SameButSeparators`: identifiers that become one another when
  separators are inserted and removed.
* `Message.derivedNonce_eq_iff`: these have the same nonce, and no others have.
* `Message.layout`, `Message.eq_of_layout_eq`: the places of the separators.
* `Uuid.layout_version4`, `Uuid.derivedNonce_version4_inj`: random identifiers all have one layout.
* `Profile.exists_paramsFor`: the nonce that a header carries.
* `Profile.derivedNonce_collides`: two messages with one nonce.
* `Profile.derivedNonce_separates`: which messages have different nonces.
-/

namespace RequestSigning

namespace Message

/-! ### Identifiers without their separators -/

/-- What is taken from an identifier when a nonce is derived. -/
def isSeparator (c : Char) : Bool :=
  c = ':' || c = '-'

/-- Texts that become one another when separators are inserted and removed. -/
inductive SameButSeparators : List Char → List Char → Prop
  | nil : SameButSeparators [] []
  | left {c : Char} {s t : List Char} (hc : isSeparator c = true) (h : SameButSeparators s t) :
    SameButSeparators (c :: s) t
  | right {c : Char} {s t : List Char} (hc : isSeparator c = true) (h : SameButSeparators s t) :
    SameButSeparators s (c :: t)
  | both (c : Char) {s t : List Char} (h : SameButSeparators s t) :
    SameButSeparators (c :: s) (c :: t)

/-- The text without its separators. -/
def withoutSeparators (s : List Char) : List Char :=
  s.filter fun c => !isSeparator c

theorem withoutSeparators_cons_of_separator {c : Char} (hc : isSeparator c = true)
    (s : List Char) : withoutSeparators (c :: s) = withoutSeparators s :=
  List.filter_cons_of_neg (by simp [hc])

theorem withoutSeparators_cons {c : Char} (hc : isSeparator c = false) (s : List Char) :
    withoutSeparators (c :: s) = c :: withoutSeparators s :=
  List.filter_cons_of_pos (by simp [hc])

theorem derivedNonce_eq_ofList (m : MessageView) :
    m.derivedNonce = String.ofList (withoutSeparators m.uniqueId.toList) := by
  simp [MessageView.derivedNonce, withoutSeparators, isSeparator]

theorem SameButSeparators.withoutSeparators_eq {s t : List Char} (h : SameButSeparators s t) :
    withoutSeparators s = withoutSeparators t := by
  induction h with
  | nil => rfl
  | left hc _ ih => rw [withoutSeparators_cons_of_separator hc, ih]
  | right hc _ ih => rw [withoutSeparators_cons_of_separator hc, ih]
  | both c _ ih =>
    cases hc : isSeparator c with
    | true =>
      rw [withoutSeparators_cons_of_separator hc, withoutSeparators_cons_of_separator hc, ih]
    | false => rw [withoutSeparators_cons hc, withoutSeparators_cons hc, ih]

theorem sameButSeparators_of_eq {s t : List Char}
    (h : withoutSeparators s = withoutSeparators t) : SameButSeparators s t := by
  induction s generalizing t with
  | nil =>
    -- nothing is left of `t`, so it consists of separators
    induction t with
    | nil => exact .nil
    | cons d t ih =>
      cases hd : isSeparator d with
      | true => exact .right hd (ih (by rwa [withoutSeparators_cons_of_separator hd] at h))
      | false =>
        rw [withoutSeparators_cons hd] at h
        exact absurd h.symm (List.cons_ne_nil _ _)
  | cons c s ih =>
    cases hc : isSeparator c with
    | true => exact .left hc (ih (by rwa [withoutSeparators_cons_of_separator hc] at h))
    | false =>
      -- the first character of `t` that is left is `c`
      rw [withoutSeparators_cons hc] at h
      induction t with
      | nil => exact absurd h (List.cons_ne_nil _ _)
      | cons d t ih' =>
        cases hd : isSeparator d with
        | true => exact .right hd (ih' (by rwa [withoutSeparators_cons_of_separator hd] at h))
        | false =>
          rw [withoutSeparators_cons hd] at h
          obtain ⟨rfl, hrest⟩ := List.cons.inj h
          exact .both c (ih hrest)

/-- Two messages have the same derived nonce exactly if their identifiers differ in separators at
most. -/
theorem derivedNonce_eq_iff (m₁ m₂ : MessageView) :
    m₁.derivedNonce = m₂.derivedNonce ↔
      SameButSeparators m₁.uniqueId.toList m₂.uniqueId.toList := by
  rw [derivedNonce_eq_ofList, derivedNonce_eq_ofList, String.ofList_inj]
  exact ⟨sameButSeparators_of_eq, SameButSeparators.withoutSeparators_eq⟩

/-! ### Identifiers of one layout -/

/-- A separator stays, and any other character is blanked out. -/
def mark (c : Char) : Option Char :=
  if isSeparator c then some c else none

/-- The separators of a text at their places. -/
def layout (s : List Char) : List (Option Char) :=
  s.map mark

theorem mark_of_separator {c : Char} (hc : isSeparator c = true) : mark c = some c :=
  if_pos hc

theorem mark_of_not_separator {c : Char} (hc : isSeparator c = false) : mark c = none :=
  if_neg (by simp [hc])

theorem isSome_mark (c : Char) : (mark c).isSome = isSeparator c := by
  cases hc : isSeparator c with
  | true => rw [mark_of_separator hc]; rfl
  | false => rw [mark_of_not_separator hc]; rfl

/-- Texts with their separators in the same places are not confused. -/
theorem eq_of_layout_eq {s t : List Char} (hlayout : layout s = layout t)
    (h : withoutSeparators s = withoutSeparators t) : s = t := by
  induction s generalizing t with
  | nil =>
    cases t with
    | nil => rfl
    | cons d t => exact absurd hlayout.symm (List.cons_ne_nil _ _)
  | cons c s ih =>
    cases t with
    | nil => exact absurd hlayout (List.cons_ne_nil _ _)
    | cons d t =>
      obtain ⟨hmark, htail⟩ : mark c = mark d ∧ layout s = layout t := List.cons.inj hlayout
      have hsame : isSeparator d = isSeparator c := by rw [← isSome_mark, ← hmark, isSome_mark]
      cases hc : isSeparator c with
      | true =>
        have hd : isSeparator d = true := hsame.trans hc
        rw [mark_of_separator hc, mark_of_separator hd] at hmark
        rw [withoutSeparators_cons_of_separator hc, withoutSeparators_cons_of_separator hd] at h
        rw [Option.some.inj hmark, ih htail h]
      | false =>
        have hd : isSeparator d = false := hsame.trans hc
        rw [withoutSeparators_cons hc, withoutSeparators_cons hd] at h
        obtain ⟨rfl, hrest⟩ := List.cons.inj h
        rw [ih htail hrest]

/-- Among identifiers of one layout only equal ones have the same nonce. -/
theorem derivedNonce_eq_iff_of_layout {m₁ m₂ : MessageView}
    (hlayout : layout m₁.uniqueId.toList = layout m₂.uniqueId.toList) :
    m₁.derivedNonce = m₂.derivedNonce ↔ m₁.uniqueId = m₂.uniqueId := by
  constructor
  · intro h
    have hsame := ((derivedNonce_eq_iff m₁ m₂).mp h).withoutSeparators_eq
    exact String.toList_inj.mp (eq_of_layout_eq hlayout hsame)
  · intro h
    rw [MessageView.derivedNonce, MessageView.derivedNonce, h]

end Message

/-! ### Random identifiers -/

namespace Uuid

open Message

theorem isSeparator_lower_fin : ∀ n : Fin 16, isSeparator (Hex.lower n) = false := by decide

theorem isSeparator_lower (n : Nat) : isSeparator (Hex.lower n) = false := by
  rw [← isSeparator_lower_fin ⟨n % 16, Nat.mod_lt _ (by decide)⟩]
  simp [Hex.lower]

theorem isSeparator_of_mem_ofBytes {bytes : List UInt8} {c : Char} (hc : c ∈ Hex.ofBytes bytes) :
    isSeparator c = false := by
  obtain ⟨b, -, hb⟩ := List.mem_flatMap.mp hc
  rcases List.mem_cons.mp hb with rfl | hb
  · exact isSeparator_lower _
  · rw [List.mem_singleton.mp hb]
    exact isSeparator_lower _

/-- Digits are blanked out, however many of them are taken from wherever. -/
theorem layout_slice {digits : List Char} (h : ∀ c ∈ digits, isSeparator c = false) (start : Nat)
    {n : Nat} (hn : start + n ≤ digits.length) :
    layout ((digits.drop start).take n) = List.replicate n none := by
  refine List.eq_replicate_iff.mpr ⟨?_, ?_⟩
  · simp only [layout, List.length_map, List.length_take, List.length_drop]
    omega
  · intro o ho
    obtain ⟨c, hc, rfl⟩ := List.mem_map.mp ho
    exact mark_of_not_separator (h c (List.mem_of_mem_drop (List.mem_of_mem_take hc)))

/-- The layout of all random identifiers: hyphens behind 8, 12, 16 and 20 digits. -/
def standardLayout : List (Option Char) :=
  List.replicate 8 none ++ some '-' :: List.replicate 4 none ++ some '-' ::
    List.replicate 4 none ++ some '-' :: List.replicate 4 none ++ some '-' ::
    List.replicate 12 none

theorem layout_version4 (random : Vector UInt8 16) :
    layout (version4 random).toList = standardLayout := by
  have hlength : (Hex.ofBytes (marked random)).length = 32 := by
    rw [Hex.length_ofBytes, marked, List.length_mapIdx, Vector.length_toList]
  have hslice (start n : Nat) (hn : start + n ≤ 32) :
      ((Hex.ofBytes (marked random)).drop start |>.take n).map mark = List.replicate n none :=
    layout_slice (fun c hc => isSeparator_of_mem_ofBytes hc) start (by omega)
  have hlast : (Hex.ofBytes (marked random)).drop 20 =
      ((Hex.ofBytes (marked random)).drop 20).take 12 :=
    (List.take_of_length_le (by simp [hlength])).symm
  have hfirst := hslice 0 8 (by decide)
  rw [List.drop_zero] at hfirst
  have hhyphen : mark '-' = some '-' := mark_of_separator (by decide)
  rw [version4, String.toList_ofList, hlast, layout]
  simp only [List.map_append, List.map_cons, hhyphen, hfirst, hslice 8 4 (by decide),
    hslice 12 4 (by decide), hslice 16 4 (by decide), hslice 20 12 (by decide)]
  rfl

/-- Messages with random identifiers have different nonces unless the identifiers are equal. -/
theorem derivedNonce_version4_inj (r₁ r₂ : Vector UInt8 16) (metadata₁ metadata₂ : Dictionary) :
    (Message.mk (version4 r₁) metadata₁).view.derivedNonce =
        (Message.mk (version4 r₂) metadata₂).view.derivedNonce ↔
      version4 r₁ = version4 r₂ :=
  derivedNonce_eq_iff_of_layout ((layout_version4 r₁).trans (layout_version4 r₂).symm)

end Uuid

/-! ### The nonces of headers -/

namespace Profile

section Carried

variable {p : Profile} {h : Host} {method : String} {url : Uri} {m : MessageView}
  {time : Option Instant} {now : Instant}

/-- A header is written from parameters that hold the effective nonce, and they are read back from
it exactly if no value holds a quote. -/
theorem exists_paramsFor {header : String}
    (hheader : (p.headerFor h method url m time now).result = .ok header) :
    ∃ params, p.paramsFor h method url m time now = .ok params ∧
      header = Header.write params ∧
      params.get? Protocol.nonce = some (p.effectiveNonce m) ∧
      (Header.read header = .ok params ↔ ∀ e ∈ params.entries, '"' ∉ e.2.toList) := by
  rw [result_headerFor, Outcome.map_eq_ok_iff] at hheader
  obtain ⟨params, hparams, rfl⟩ := hheader
  refine ⟨params, hparams, rfl, ?_⟩
  obtain ⟨c, -, hc⟩ := Outcome.bind_eq_ok_iff.mp hparams
  obtain ⟨base, hbase, rfl⟩ := Outcome.map_eq_ok_iff.mp hc
  obtain ⟨u, hcheck, -⟩ := (Draft.baseText_eq_ok_iff _ _ base).mp hbase
  generalize hd : p.requestDraft method url m time c = d at hcheck
  have hnonce : d.nonce = p.effectiveNonce m := by rw [← hd, nonce_requestDraft]
  have hentries : (d.headerParams (d.instant now).unixText base).entries =
      d.headerEntries (d.instant now).unixText (d.signature base) :=
    Draft.entries_headerParams hcheck (Draft.isBlank_unixText (d.instant now))
  have hmem : (Protocol.nonce, d.nonce) ∈
      (d.headerParams (d.instant now).unixText base).entries := by
    rw [hentries]
    simp [Draft.headerEntries]
  refine ⟨?_, ?_⟩
  · rw [← hnonce]
    exact ((Table.mem_entries_iff _ _).mp hmem).2
  · exact Header.read_write_iff (Draft.named_headerParams hcheck (d.instant now) base)
      (List.ne_nil_of_mem hmem)

theorem effectiveNonce_of_blank (hblank : Text.isBlank (m.fillSetting (p.text .nonce)) = true) :
    p.effectiveNonce m = m.derivedNonce :=
  if_pos hblank

end Carried

/-- A message as it comes from a broker. -/
def brokerMessage (id : String) : Message :=
  ⟨id, Table.empty⟩

/-- The address it is sent to. -/
def brokerAddress : Uri :=
  ⟨some "http", some "h", "/", none⟩

/-- The header of such a message. -/
def brokerHeader (id : String) : Outcome String :=
  plainProfile.headerFor {} "GET" brokerAddress (brokerMessage id) (some ⟨1, 0⟩) ⟨0, 0⟩

/-- It is there as soon as something is left of the identifier. -/
theorem exists_brokerHeader {id : String}
    (hid : Text.isBlank (brokerMessage id).view.derivedNonce = false) :
    ∃ header, (brokerHeader id).result = .ok header := by
  refine (exists_headerFor_iff _ _ _ _ _ _ _).mpr fun n => ?_
  cases n with
  | credential => exact ⟨_, credential_plainProfile _⟩
  | nonce => exact hid
  | method => exact (by decide : Text.isBlank "GET" = false)
  | scheme => exact Option.some_ne_none _
  | host => exact ⟨"h", rfl, by decide⟩

/-- The parameters of a message whose identifier becomes `IDhost142`. -/
def collidingParams : Dictionary :=
  Table.ofList
    [(Protocol.consumerKey, "k"), (Protocol.nonce, "IDhost142"), (Protocol.signature, "cyY%3D"),
      (Protocol.signatureMethod, "PLAINTEXT"), (Protocol.timestamp, "1"),
      (Protocol.version, "1.0"), (Protocol.realm, "")]

/-- Two messages have different identifiers, no nonce is configured, and both are sent with the
same nonce. -/
theorem derivedNonce_collides :
    ∃ header₁ header₂ params₁ params₂,
      plainProfile.text .nonce = none ∧
      (brokerMessage "ID:host-1:42").uniqueId ≠ (brokerMessage "ID:host-14:2").uniqueId ∧
      (brokerHeader "ID:host-1:42").result = .ok header₁ ∧
      (brokerHeader "ID:host-14:2").result = .ok header₂ ∧
      Header.read header₁ = .ok params₁ ∧ Header.read header₂ = .ok params₂ ∧
      params₁.get? Protocol.nonce = some "IDhost142" ∧
      params₂.get? Protocol.nonce = some "IDhost142" := by
  have hheader (id : String) (hparams : (plainProfile.paramsFor {} "GET" brokerAddress
      (brokerMessage id) (some ⟨1, 0⟩) ⟨0, 0⟩).toOption = some collidingParams) :
      (brokerHeader id).result = .ok (Header.write collidingParams) := by
    rw [brokerHeader, result_headerFor, Outcome.eq_ok_of_toOption hparams]
    rfl
  have hheader₁ := hheader "ID:host-1:42" (by decide +kernel)
  have hheader₂ := hheader "ID:host-14:2" (by decide +kernel)
  have hread : Header.read (Header.write collidingParams) = .ok collidingParams :=
    (Header.read_write_iff (by decide +kernel) (by decide +kernel)).mpr (by decide +kernel)
  have hnonce : collidingParams.get? Protocol.nonce = some "IDhost142" := by decide +kernel
  exact ⟨_, _, _, _, rfl, by decide, hheader₁, hheader₂, hread, hread, hnonce, hnonce⟩

/-- Messages whose nonces are derived are sent with the same nonce exactly if their identifiers
differ in colons and hyphens at most. If these are at the same places in both, then the nonces are
as different as the identifiers are. -/
theorem derivedNonce_separates {p : Profile} {m₁ m₂ : MessageView}
    (hblank₁ : Text.isBlank (m₁.fillSetting (p.text .nonce)) = true)
    (hblank₂ : Text.isBlank (m₂.fillSetting (p.text .nonce)) = true)
    {h₁ h₂ : Host} {method₁ method₂ : String} {url₁ url₂ : Uri} {time₁ time₂ : Option Instant}
    {now₁ now₂ : Instant} {header₁ header₂ : String}
    (hheader₁ : (p.headerFor h₁ method₁ url₁ m₁ time₁ now₁).result = .ok header₁)
    (hheader₂ : (p.headerFor h₂ method₂ url₂ m₂ time₂ now₂).result = .ok header₂) :
    ∃ params₁ params₂ nonce₁ nonce₂,
      (p.paramsFor h₁ method₁ url₁ m₁ time₁ now₁ = .ok params₁ ∧ header₁ = Header.write params₁ ∧
        params₁.get? Protocol.nonce = some nonce₁ ∧
        (Header.read header₁ = .ok params₁ ↔ ∀ e ∈ params₁.entries, '"' ∉ e.2.toList)) ∧
      (p.paramsFor h₂ method₂ url₂ m₂ time₂ now₂ = .ok params₂ ∧ header₂ = Header.write params₂ ∧
        params₂.get? Protocol.nonce = some nonce₂ ∧
        (Header.read header₂ = .ok params₂ ↔ ∀ e ∈ params₂.entries, '"' ∉ e.2.toList)) ∧
      (nonce₁ = nonce₂ ↔
        Message.SameButSeparators m₁.uniqueId.toList m₂.uniqueId.toList) ∧
      (Message.layout m₁.uniqueId.toList = Message.layout m₂.uniqueId.toList →
        (nonce₁ = nonce₂ ↔ m₁.uniqueId = m₂.uniqueId)) := by
  obtain ⟨params₁, hparams₁, hwrite₁, hnonce₁, hread₁⟩ := exists_paramsFor hheader₁
  obtain ⟨params₂, hparams₂, hwrite₂, hnonce₂, hread₂⟩ := exists_paramsFor hheader₂
  rw [effectiveNonce_of_blank hblank₁] at hnonce₁
  rw [effectiveNonce_of_blank hblank₂] at hnonce₂
  exact ⟨params₁, params₂, m₁.derivedNonce, m₂.derivedNonce,
    ⟨hparams₁, hwrite₁, hnonce₁, hread₁⟩, ⟨hparams₂, hwrite₂, hnonce₂, hread₂⟩,
    Message.derivedNonce_eq_iff m₁ m₂, Message.derivedNonce_eq_iff_of_layout⟩

/-- The numbers of two messages of one host end up in different nonces. -/
theorem derivedNonce_separates_numbers :
    ∃ header₁ header₂ params₁ params₂ nonce₁ nonce₂,
      (brokerHeader "ID:host-1:42").result = .ok header₁ ∧ header₁ = Header.write params₁ ∧
      params₁.get? Protocol.nonce = some nonce₁ ∧
      (brokerHeader "ID:host-1:43").result = .ok header₂ ∧ header₂ = Header.write params₂ ∧
      params₂.get? Protocol.nonce = some nonce₂ ∧ nonce₁ ≠ nonce₂ := by
  have hblank (id : String) :
      Text.isBlank ((brokerMessage id).view.fillSetting (plainProfile.text .nonce)) = true := rfl
  obtain ⟨header₁, hheader₁⟩ : ∃ header, (brokerHeader "ID:host-1:42").result = .ok header :=
    exists_brokerHeader (by decide +kernel)
  obtain ⟨header₂, hheader₂⟩ : ∃ header, (brokerHeader "ID:host-1:43").result = .ok header :=
    exists_brokerHeader (by decide +kernel)
  obtain ⟨params₁, params₂, nonce₁, nonce₂, ⟨-, hwrite₁, hnonce₁, -⟩, ⟨-, hwrite₂, hnonce₂, -⟩, -,
    hlayout⟩ := derivedNonce_separates (hblank _) (hblank _) hheader₁ hheader₂
  have hne : nonce₁ ≠ nonce₂ := fun h => absurd ((hlayout (by decide)).mp h) (by decide)
  exact ⟨header₁, header₂, params₁, params₂, nonce₁, nonce₂, hheader₁, hwrite₁, hnonce₁, hheader₂,
    hwrite₂, hnonce₂, hne⟩

end Profile

end RequestSigning
