import RequestSigning.Draft
import RequestSigning.Proofs.Table

/-!
# The parameters of a draft, written out

The protocol parameters of a draft and the parameters of its header are tables that are built by
insertion and filtered. Here they are written out as lists, in the order of their names.

* `Draft.protocolEntries`, `Draft.entries_protocolParams`: all protocol parameters.
* `Draft.entries_sentParams`: those that are left after blank ones are dropped.
* `Draft.headerEntries`, `Draft.entries_headerParams`: the parameters of the header.
* `Draft.isBlank_unixText`: a timestamp is never blank, so the filter keeps it.
-/

namespace RequestSigning

/-! ### Texts that are never blank -/

/-- A text with a character that is not white space is not blank. -/
theorem Text.isBlank_eq_false {s : String} {c : Char} (hc : c ∈ s.toList)
    (hs : Text.isSpace c = false) : Text.isBlank s = false := by
  rw [Text.isBlank, List.all_eq_false]
  exact ⟨c, hc, by simp [hs]⟩

theorem Text.isSpace_of_isDigit {c : Char} (h : c.isDigit = true) : Text.isSpace c = false := by
  simp only [Char.isDigit, Bool.and_eq_true, decide_eq_true_eq, ge_iff_le,
    UInt32.le_iff_toNat_le] at h
  have hd : 48 ≤ c.toNat ∧ c.toNat ≤ 57 := h
  simp only [Text.isSpace, Bool.or_eq_false_iff, Bool.and_eq_false_iff, decide_eq_false_iff_not,
    beq_eq_false_iff_ne]
  omega

theorem Text.toList_natText (n : Nat) : (toString n).toList = Nat.toDigits 10 n :=
  Nat.toList_repr

theorem Text.toList_negText (n : Nat) :
    (toString (Int.negSucc n)).toList = '-' :: (toString (n + 1)).toList := by
  simp [toString, Int.repr]

theorem Text.isBlank_natText (n : Nat) : Text.isBlank (toString n) = false := by
  obtain ⟨c, hc⟩ := List.exists_mem_of_ne_nil _ (Nat.toDigits_ne_nil (n := n) (b := 10))
  refine Text.isBlank_eq_false (c := c) (by rw [toList_natText]; exact hc) ?_
  exact Text.isSpace_of_isDigit (Nat.isDigit_of_mem_toDigits (by decide) (by decide) hc)

namespace Draft

theorem isBlank_unixText (t : Instant) : Text.isBlank t.unixText = false := by
  rw [Instant.unixText]
  cases t.seconds with
  | ofNat n => exact Text.isBlank_natText n
  | negSucc n =>
    exact Text.isBlank_eq_false (c := '-') (by rw [Text.toList_negText]; simp) (by decide)

theorem isBlank_wireName (m : SigningMethod) : Text.isBlank m.wireName = false := by
  cases m <;> decide

theorem isBlank_standardVersion : Text.isBlank Protocol.standardVersion = false := by
  decide

/-! ### The protocol parameters -/

/-- The names of all parameters of a header, in order. -/
def headerNames : List String :=
  [Protocol.consumerKey, Protocol.nonce, Protocol.signature, Protocol.signatureMethod,
    Protocol.timestamp, Protocol.token, Protocol.verifier, Protocol.version, Protocol.realm]

theorem headerNames_ascending :
    headerNames.Pairwise fun a b => Text.before a.toList b.toList = true := by
  decide

/-- The names of the protocol parameters, in order: those of a header without the signature and the
realm. -/
def protocolNames : List String :=
  [Protocol.consumerKey, Protocol.nonce, Protocol.signatureMethod, Protocol.timestamp,
    Protocol.token, Protocol.verifier, Protocol.version]

theorem protocolNames_sublist : protocolNames.Sublist headerNames := by
  decide

/-- Pairs are ascending if their names are among those of a header, in the order of those. -/
theorem ascending_of_names {l : List (String × String)} (h : (l.map (·.1)).Sublist headerNames) :
    l.Pairwise fun a b => Text.before a.1.toList b.1.toList = true :=
  List.pairwise_map.mp (headerNames_ascending.sublist h)

/-- All protocol parameters of a draft, in the order of their names. -/
def protocolEntries (d : Draft) (timestamp : String) : List (String × String) :=
  [(Protocol.consumerKey, d.consumerKey),
    (Protocol.nonce, d.nonce),
    (Protocol.signatureMethod, d.signingMethod.wireName),
    (Protocol.timestamp, timestamp),
    (Protocol.token, d.accessToken),
    (Protocol.verifier, d.verifier),
    (Protocol.version, d.version)]

theorem map_protocolEntries (d : Draft) (timestamp : String) :
    (d.protocolEntries timestamp).map (·.1) = protocolNames := rfl

theorem entries_protocolParams (d : Draft) (timestamp : String) :
    (d.protocolParams timestamp).entries = d.protocolEntries timestamp := by
  refine Table.entries_ofList_of_mem_iff (ascending_of_names ?_) fun e => ?_
  · rw [map_protocolEntries]
    exact protocolNames_sublist
  · simp only [protocolEntries, List.mem_cons, List.not_mem_nil, or_false]
    grind

theorem entries_sentParams (d : Draft) (timestamp : String) :
    (d.sentParams timestamp).entries =
      (d.protocolEntries timestamp).filter fun e => d.keepBlank || !Text.isBlank e.2 := by
  rw [sentParams, Header.dropBlank]
  cases d.keepBlank with
  | true =>
    rw [if_pos rfl, entries_protocolParams]
    exact (List.filter_eq_self.mpr fun _ _ => rfl).symm
  | false =>
    rw [if_neg Bool.false_ne_true, Table.entries_filter, entries_protocolParams]
    rfl

/-- A parameter that is sent if it is not blank, or if blank ones are kept. -/
def optionalEntry (d : Draft) (name value : String) : List (String × String) :=
  if d.keepBlank = true ∨ Text.isBlank value = false then [(name, value)] else []

/-- Of the parameters of a complete draft only token and verifier can be dropped. -/
theorem entries_sentParams_of_check {d : Draft} {url : Uri} {timestamp : String}
    (hd : d.check = .ok url) (ht : Text.isBlank timestamp = false) :
    (d.sentParams timestamp).entries =
      [(Protocol.consumerKey, d.consumerKey), (Protocol.nonce, d.nonce),
          (Protocol.signatureMethod, d.signingMethod.wireName), (Protocol.timestamp, timestamp)] ++
        d.optionalEntry Protocol.token d.accessToken ++
        d.optionalEntry Protocol.verifier d.verifier ++ [(Protocol.version, d.version)] := by
  obtain ⟨hkey, -, hnonce, -, -⟩ := (d.check_eq_ok_iff url).mp hd
  rw [entries_sentParams]
  unfold optionalEntry protocolEntries
  cases hk : d.keepBlank with
  | true => simp
  | false =>
    cases htok : Text.isBlank d.accessToken <;> cases hver : Text.isBlank d.verifier <;>
      simp [hkey, hnonce, ht, htok, hver, isBlank_wireName, d.version_stated]

/-! ### The parameters of the header -/

/-- The parameters of the header of a draft, in the order of their names. -/
def headerEntries (d : Draft) (timestamp signature : String) : List (String × String) :=
  [(Protocol.consumerKey, d.consumerKey),
      (Protocol.nonce, d.nonce),
      (Protocol.signature, signature),
      (Protocol.signatureMethod, d.signingMethod.wireName),
      (Protocol.timestamp, timestamp)] ++
    d.optionalEntry Protocol.token d.accessToken ++
    d.optionalEntry Protocol.verifier d.verifier ++
    [(Protocol.version, d.version), (Protocol.realm, d.realm)]

theorem map_optionalEntry_sublist (d : Draft) (name value : String) :
    ((d.optionalEntry name value).map (·.1)).Sublist [name] := by
  unfold optionalEntry
  split
  · exact List.Sublist.refl _
  · exact List.nil_sublist _

/-- Only token and verifier can be missing among the names of a header. -/
theorem map_headerEntries_sublist (d : Draft) (timestamp signature : String) :
    ((d.headerEntries timestamp signature).map (·.1)).Sublist headerNames := by
  rw [headerEntries, List.map_append, List.map_append, List.map_append]
  exact (((List.Sublist.refl _).append (d.map_optionalEntry_sublist _ _)).append
    (d.map_optionalEntry_sublist _ _)).append (List.Sublist.refl _)

theorem headerEntries_ascending (d : Draft) (timestamp signature : String) :
    (d.headerEntries timestamp signature).Pairwise fun a b =>
      Text.before a.1.toList b.1.toList = true :=
  ascending_of_names (d.map_headerEntries_sublist timestamp signature)

/-- The header of a complete draft has exactly these parameters. -/
theorem entries_headerParams {d : Draft} {url : Uri} {timestamp base : String}
    (hd : d.check = .ok url) (ht : Text.isBlank timestamp = false) :
    (d.headerParams timestamp base).entries =
      d.headerEntries timestamp (d.signature base) := by
  have hinsert : d.headerParams timestamp base =
      (d.sentParams timestamp).insertAll
        [(Protocol.signature, d.signature base), (Protocol.realm, d.realm)] := rfl
  rw [hinsert, Table.insertAll_eq_ofList]
  refine Table.entries_ofList_of_mem_iff (d.headerEntries_ascending _ _) fun e => ?_
  rw [entries_sentParams_of_check hd ht, headerEntries]
  simp only [List.mem_append, List.mem_cons, List.not_mem_nil, or_false]
  grind

end Draft

end RequestSigning
