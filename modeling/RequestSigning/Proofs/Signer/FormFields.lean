import RequestSigning.Proofs.Form
import RequestSigning.Proofs.Signer.Runs

/-!
# The form fields of a message signer

A message signer encodes the values of its form fields and leaves their names as they are. So the
form is read back only where the listed names need no encoding.

* `MessageSigner.heldFields`: the listed metadata that a message has.
* `MessageSigner.formPairs_eq_map`: the form fields are this metadata with encoded values.
* `MessageSigner.formPairs_read_back_iff`: the signers and messages whose form is read back.
* `MessageSigner.formPairs_name_split`: a name that is read as the names of two fields.
-/

namespace RequestSigning.MessageSigner

/-- The listed metadata that a message has, in the order of the list. -/
def heldFields (s : MessageSigner) (m : Message) : List (String × String) :=
  s.formFields.filterMap fun key => (m.metadata.get? key).map fun value => (key, value)

theorem formPairs_eq_map (s : MessageSigner) (m : Message) :
    s.formPairs m = (s.heldFields m).map Form.valueEncoded := by
  rw [heldFields, List.map_filterMap]
  show s.formFields.filterMap _ = s.formFields.filterMap _
  congr 1
  funext key
  rw [Option.map_map]
  rfl

/-- The names of the held fields are the listed names that the message has. -/
theorem forall_mem_heldFields_iff {s : MessageSigner} {m : Message} {P : String → Prop} :
    (∀ p ∈ s.heldFields m, P p.1) ↔
      ∀ key ∈ s.formFields, (m.metadata.get? key).isSome = true → P key := by
  constructor
  · intro h key hkey hsome
    obtain ⟨value, hvalue⟩ := Option.isSome_iff_exists.mp hsome
    exact h (key, value) (List.mem_filterMap.mpr ⟨key, hkey, by rw [hvalue]; rfl⟩)
  · intro h p hp
    obtain ⟨key, hkey, hheld⟩ := List.mem_filterMap.mp hp
    obtain ⟨value, hvalue, rfl⟩ := Option.map_eq_some_iff.mp hheld
    exact h key hkey (by rw [hvalue]; rfl)

/-- The body made of the form fields is decoded to the held fields, in order and with nothing added
or lost, exactly if every listed name that the message has stands for itself: `&`, `=`, `+` and
escapes do not occur in it. The fields themselves always have these names, and values that are
decoded to those of the message. -/
theorem formPairs_read_back_iff (s : MessageSigner) (m : Message) :
    (Form.decode? (Form.join (s.formPairs m)) = some (s.heldFields m) ↔
      ∀ key ∈ s.formFields, (m.metadata.get? key).isSome = true → Form.Verbatim key.toList) ∧
    (s.formPairs m).map (fun p => (p.1, Form.decodeText? p.2.toList)) =
      (s.heldFields m).map fun p => (p.1, some p.2) := by
  rw [formPairs_eq_map]
  constructor
  · rw [Form.decode?_join_iff]
    exact forall_mem_heldFields_iff (P := fun key => Form.Verbatim key.toList)
  · rw [List.map_map]
    refine List.map_congr_left fun p _ => ?_
    show (p.1, Form.decodeText? (Form.encodeText p.2).toList) = (p.1, some p.2)
    rw [Form.decodeText?_encodeText]

/-- A signer that sends one field, the name of which holds an ampersand. -/
def ampersandSigner : MessageSigner where
  profile := plainProfile
  url := "http://h/"
  formFields := ["a&b"]

/-- One field is read as two: the ampersand in its name is read as a separator. -/
theorem formPairs_name_split :
    ∃ m : Message, ampersandSigner.heldFields m = [("a&b", "v w")] ∧
      ampersandSigner.formPairs m = [("a&b", "v+w")] ∧
      Form.decode? (Form.join (ampersandSigner.formPairs m)) =
        some [("a", ""), ("b", "v w")] := by
  refine ⟨⟨"id-1", Table.ofList [("a&b", "v w")]⟩, ?_, ?_, ?_⟩
  · decide +kernel
  · decide +kernel
  · decide +kernel

end RequestSigning.MessageSigner
