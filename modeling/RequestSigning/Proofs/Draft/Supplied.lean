import RequestSigning.Proofs.Draft.Header
import RequestSigning.Proofs.Header.Reading

/-!
# Values that are supplied to a header

Signature, signing method and timestamp of a header are made by the draft, out of harmless
characters. The other values are supplied from outside and may hold anything, and it is them that
decide whether the header is allowed as the value of a field and whether it is read back.

* `Draft.suppliedEntries`: the parameters of a header whose values are supplied.
* `Draft.forall_headerEntries_iff`: what encoded text is known to satisfy needs to be asked of these
  only.
* `Draft.isFieldValue_write_iff`, `Draft.read_write_iff`: the two questions about the header.
-/

namespace RequestSigning

/-! ### What the draft makes itself -/

theorem SigningMethod.isEncoded_wireName (m : SigningMethod) :
    Percent.isEncoded m.wireName = true := by
  cases m <;> decide

theorem Percent.isEncodedChar_of_isDigit {c : Char} (h : c.isDigit = true) :
    isEncodedChar c = true := by
  simp [isEncodedChar, Char.isAlphanum, h]

theorem Instant.isEncoded_natText (n : Nat) : Percent.isEncoded (toString n) = true := by
  rw [Percent.isEncoded, Text.toList_natText, List.all_eq_true]
  intro c hc
  exact Percent.isEncodedChar_of_isDigit
    (Nat.isDigit_of_mem_toDigits (by decide) (by decide) hc)

theorem Instant.isEncoded_unixText (t : Instant) : Percent.isEncoded t.unixText = true := by
  rw [unixText]
  cases t.seconds with
  | ofNat n => exact isEncoded_natText n
  | negSucc n =>
    rw [Percent.isEncoded, Text.toList_negText, List.all_cons]
    exact (Bool.true_and _).trans (isEncoded_natText (n + 1))

namespace Draft

theorem isEncoded_signature (d : Draft) (base : String) :
    Percent.isEncoded (d.signature base) = true :=
  Percent.isEncoded_encode _

theorem named_headerNames : ∀ n ∈ headerNames, Percent.isEncoded n = true ∧ n ≠ "" := by
  decide

theorem mem_headerNames {d : Draft} {timestamp signature : String} {e : String × String}
    (he : e ∈ d.headerEntries timestamp signature) : e.1 ∈ headerNames :=
  (d.map_headerEntries_sublist timestamp signature).subset (List.mem_map_of_mem he)

theorem named_headerEntries (d : Draft) (timestamp signature : String) :
    Header.Named (d.headerEntries timestamp signature) :=
  fun _ he => named_headerNames _ (mem_headerNames he)

/-! ### What is supplied to it -/

/-- The parameters of a header whose values are supplied to the draft. -/
def suppliedEntries (d : Draft) : List (String × String) :=
  [(Protocol.consumerKey, d.consumerKey), (Protocol.nonce, d.nonce)] ++
    d.optionalEntry Protocol.token d.accessToken ++
    d.optionalEntry Protocol.verifier d.verifier ++
    [(Protocol.version, d.version), (Protocol.realm, d.realm)]

theorem mem_headerEntries_iff (d : Draft) (timestamp signature : String) (e : String × String) :
    e ∈ d.headerEntries timestamp signature ↔
      e ∈ d.suppliedEntries ∨ e = (Protocol.signature, signature) ∨
        e = (Protocol.signatureMethod, d.signingMethod.wireName) ∨
        e = (Protocol.timestamp, timestamp) := by
  simp only [headerEntries, suppliedEntries, List.mem_append, List.mem_cons, List.not_mem_nil,
    or_false]
  tauto

variable {d : Draft} {timestamp base : String} {url : Uri}

/-- The values that a draft makes itself are encoded text, so what is known of such text needs to
be asked of the supplied values only. -/
theorem forall_headerEntries_iff {P : String → Prop}
    (hP : ∀ s, Percent.isEncoded s = true → P s) (ht : Percent.isEncoded timestamp = true) :
    (∀ e ∈ d.headerEntries timestamp (d.signature base), P e.2) ↔
      ∀ e ∈ d.suppliedEntries, P e.2 := by
  constructor
  · intro h e he
    exact h e ((d.mem_headerEntries_iff _ _ e).mpr (.inl he))
  · intro h e he
    rcases (d.mem_headerEntries_iff _ _ e).mp he with he | rfl | rfl | rfl
    · exact h e he
    · exact hP _ (d.isEncoded_signature base)
    · exact hP _ d.signingMethod.isEncoded_wireName
    · exact hP _ ht

/-! ### The header -/

theorem named_headerParams (hd : d.check = .ok url) (t : Instant) (base : String) :
    Header.Named (d.headerParams t.unixText base).entries := by
  rw [entries_headerParams hd (isBlank_unixText t)]
  exact d.named_headerEntries _ _

/-- The header of a complete draft is allowed as the value of a field exactly if the supplied values
are. -/
theorem isFieldValue_write_iff (hd : d.check = .ok url) (t : Instant) (base : String) :
    Http.isFieldValue (Header.write (d.headerParams t.unixText base)) = true ↔
      ∀ e ∈ d.suppliedEntries, Http.isFieldValue e.2 = true := by
  rw [Header.isFieldValue_write_iff (named_headerParams hd t base),
    entries_headerParams hd (isBlank_unixText t)]
  exact forall_headerEntries_iff (fun _ => Http.isFieldValue_of_isEncoded) t.isEncoded_unixText

/-- The header of a complete draft is read back exactly if no supplied value holds a quote. -/
theorem read_write_iff (hd : d.check = .ok url) (t : Instant) (base : String) :
    Header.read (Header.write (d.headerParams t.unixText base)) =
        .ok (d.headerParams t.unixText base) ↔
      ∀ e ∈ d.suppliedEntries, '"' ∉ e.2.toList := by
  have hentries : (d.headerParams t.unixText base).entries =
      d.headerEntries t.unixText (d.signature base) :=
    entries_headerParams hd (isBlank_unixText t)
  have hne : (d.headerParams t.unixText base).entries ≠ [] := by
    rw [hentries]
    exact List.cons_ne_nil _ _
  rw [Header.read_write_iff (named_headerParams hd t base) hne, hentries]
  exact forall_headerEntries_iff (fun _ hs => Percent.not_mem_of_isEncoded hs (by decide))
    t.isEncoded_unixText

end Draft

end RequestSigning
