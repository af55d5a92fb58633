import RequestSigning.Proofs.Header.Reading

/-!
# Writing and reading of headers

Nothing is escaped in a header, so not every dictionary is read back from the header that is written
of it. The dictionaries that are read back are those whose entries are legible, and a dictionary
that was read is one of them.

* `Header.read_of_nothing`: a header without parameters, in which the separating space is left over
  and trimmed.
* `Header.read_write_of_legible`: the header of a dictionary with legible entries.
* `Header.read_write_iff_legible`: exactly these dictionaries are read back.
-/

namespace RequestSigning.Header

/-- A scheme with nothing behind it is a header without parameters. -/
theorem read_of_nothing {text : String} (htext : text.toList = Protocol.scheme.toList ++ [' ']) :
    read text = .ok Table.empty := by
  have htrim : (Text.trim text).toList = Protocol.scheme.toList ++ [] := by
    rw [Text.toList_trim, htext]
    decide
  have hbehind : Text.behind? Protocol.scheme.toList (Text.trim text).toList = some [] := by
    rw [htrim, Text.behind?_append]
  have hstart : Text.trimStart [] = [] := rfl
  have hentries : readEntries [] = .ok [] := by
    rw [readEntries]
    rfl
  simp only [read, hbehind, hstart, hentries]
  rfl

theorem read_write_of_legible {params : Dictionary} (h : ∀ e ∈ params.entries, Legible e) :
    read (write params) = .ok params := by
  by_cases hne : params.entries = []
  · have hempty : params = Table.empty := Table.ext hne
    subst hempty
    exact read_of_nothing (toList_write Table.empty)
  · rw [read_of_legible (toList_write params) hne h]
    exact congrArg Except.ok params.ofList_entries

/-- A dictionary is read back from its header exactly if each of its keys is trimmed and does not
hold `="`, and none of its values holds a quote. What is read from any text is such a dictionary, so
it is read again from the header that is written of it. -/
theorem read_write_iff_legible :
    (∀ params : Dictionary, read (write params) = .ok params ↔
      ∀ e ∈ params.entries,
        Text.trim e.1 = e.1 ∧ ¬ ['=', '"'] <:+: e.1.toList ∧ '"' ∉ e.2.toList) ∧
    ∀ (text : String) (params : Dictionary), read text = .ok params →
      read (write params) = .ok params := by
  constructor
  · intro params
    constructor
    · intro hread e he
      obtain ⟨htrimmed, hunmarked, hunquoted⟩ := legible_of_read hread e he
      exact ⟨htrimmed, hunmarked, hunquoted⟩
    · intro h
      refine read_write_of_legible fun e he => ?_
      obtain ⟨htrimmed, hunmarked, hunquoted⟩ := h e he
      exact ⟨htrimmed, hunmarked, hunquoted⟩
  · intro text params hread
    exact read_write_of_legible (legible_of_read hread)

/-- Keys that are empty, begin with a comma, hold a quote or end with `=`, and values of white space
and separators. -/
def oddDictionary : Dictionary :=
  Table.ofList [("", ", "), (",a", "="), ("b\"", "\t"), ("c=", "")]

/-- They are read from a text in which they stand in another order, with other separators, and with
a value that is replaced by a later one; and from their own header. -/
theorem read_write_iff_legible_odd :
    read " OAuth c==\"1\"b\"=\"\t\",,,=\", \" ,c==\"\" ,\t,a=\"=\" " = .ok oddDictionary ∧
      read (write oddDictionary) = .ok oddDictionary ∧
      ∀ e ∈ oddDictionary.entries,
        Text.trim e.1 = e.1 ∧ ¬ ['=', '"'] <:+: e.1.toList ∧ '"' ∉ e.2.toList := by
  have hread : read " OAuth c==\"1\"b\"=\"\t\",,,=\", \" ,c==\"\" ,\t,a=\"=\" " =
      .ok oddDictionary :=
    Outcome.eq_ok_of_toOption (by decide +kernel)
  have hagain := read_write_iff_legible.2 _ _ hread
  exact ⟨hread, hagain, (read_write_iff_legible.1 oddDictionary).mp hagain⟩

end RequestSigning.Header
