import RequestSigning.Header.Authorization
import RequestSigning.Proofs.Blank
import RequestSigning.Proofs.Http.FieldValue
import RequestSigning.Proofs.Table

/-!
# Headers that are read back

Values are written between quotes as they are. A quote inside a value ends it, and then the rest of
the value is read as another parameter. A name ends at the first mark between name and value, and
white space around it is lost. Names of encoded characters never do any harm.

* `Header.Named`: parameters with such names.
* `Header.isFieldValue_write_iff`: a header is allowed as the value of a field exactly if all its
  values are.
* `Header.Legible`: entries that are read as they are written.
* `Header.readEntries_write`, `Header.read_of_legible`: what is written entry by entry is read back.
* `Header.legible_of_read`: whatever the text is, what is read from it is legible.
* `Header.read_write_iff`: with names of encoded characters, a header is read back exactly if no
  value in it holds a quote.
-/

namespace RequestSigning

/-! ### Joined texts -/

theorem Text.all_intercalate {p : Char → Bool} {sep : List Char} (hsep : sep.all p = true)
    (parts : List (List Char)) : (sep.intercalate parts).all p = parts.all (·.all p) := by
  induction parts with
  | nil => rfl
  | cons part rest ih =>
    cases rest with
    | nil => simp [List.intercalate_singleton]
    | cons next more =>
      rw [List.intercalate_cons_cons, List.all_append, List.all_append, hsep, ih, Bool.and_true]
      rfl

namespace Header

/-- Every name is a text of encoded characters, and none is empty. -/
def Named (entries : List (String × String)) : Prop :=
  ∀ e ∈ entries, Percent.isEncoded e.1 = true ∧ e.1 ≠ ""

instance (entries : List (String × String)) : Decidable (Named entries) :=
  inferInstanceAs (Decidable (∀ e ∈ entries, Percent.isEncoded e.1 = true ∧ e.1 ≠ ""))

/-! ### What is written -/

theorem isFieldValue_writeEntry {e : String × String} (he : Percent.isEncoded e.1 = true) :
    (writeEntry e).all Http.isFieldValueChar = Http.isFieldValue e.2 := by
  have hname : e.1.toList.all Http.isFieldValueChar = true := Http.isFieldValue_of_isEncoded he
  have hmarks : Http.isFieldValueChar '=' = true ∧ Http.isFieldValueChar '"' = true := by decide
  rw [writeEntry, List.all_append, List.all_append, List.all_cons, List.all_cons, List.all_cons,
    hname, hmarks.1, hmarks.2]
  simp [Http.isFieldValue]

/-- A header is allowed as the value of a field exactly if all its values are. -/
theorem isFieldValue_write_iff {params : Dictionary} (h : Named params.entries) :
    Http.isFieldValue (write params) = true ↔
      ∀ e ∈ params.entries, Http.isFieldValue e.2 = true := by
  have hscheme : Protocol.scheme.toList.all Http.isFieldValueChar = true := by decide
  have hspace : Http.isFieldValueChar ' ' = true := by decide
  rw [Http.isFieldValue, toList_write, List.all_append, List.all_cons,
    Text.all_intercalate (by decide), hscheme, hspace, List.all_map, Bool.true_and, Bool.true_and,
    List.all_eq_true]
  refine forall₂_congr fun e he => ?_
  rw [Function.comp_apply, isFieldValue_writeEntry (h e he).1]

/-! ### What can be read back -/

/-- An entry that is read back as it is written: its key is trimmed and does not hold the text that
ends a key, and its value holds no quote. -/
structure Legible (e : String × String) : Prop where
  trimmed : Text.trim e.1 = e.1
  unmarked : ¬ ['=', '"'] <:+: e.1.toList
  unquoted : '"' ∉ e.2.toList

theorem isSpace_of_isEncodedChar {c : Char} (hc : Percent.isEncodedChar c = true) :
    Text.isSpace c = false := by
  rw [Bool.eq_false_iff]
  intro hspace
  have hother := Text.forall_space (P := fun c => Percent.isEncodedChar c = false) (by decide)
    hspace
  rw [hc] at hother
  exact absurd hother (by simp)

theorem trimStart_of_forall {s : List Char} (h : ∀ c ∈ s, Text.isSpace c = false) :
    Text.trimStart s = s :=
  Text.trimStart_eq_self_of_head fun c hc => h c (List.mem_of_head? hc)

/-- A name has no white space, so it is trimmed to itself. -/
theorem trim_of_isEncoded {name : String} (hname : Percent.isEncoded name = true) :
    Text.trim name = name := by
  have hspace : ∀ c ∈ name.toList, Text.isSpace c = false := fun c hc =>
    isSpace_of_isEncodedChar (List.all_eq_true.mp hname c hc)
  have hreverse : ∀ c ∈ name.toList.reverse, Text.isSpace c = false := fun c hc =>
    hspace c (List.mem_reverse.mp hc)
  rw [← String.toList_inj, Text.toList_trim, trimStart_of_forall hspace, Text.trimEnd,
    trimStart_of_forall hreverse, List.reverse_reverse]

/-- Under a name of encoded characters every value without a quote is read back. -/
theorem legible_of_isEncoded {e : String × String} (hname : Percent.isEncoded e.1 = true)
    (hvalue : '"' ∉ e.2.toList) : Legible e := by
  have hequals : '=' ∉ e.1.toList := Percent.not_mem_of_isEncoded hname (by decide)
  exact ⟨trim_of_isEncoded hname, fun hmark => hequals (hmark.subset List.mem_cons_self), hvalue⟩

theorem Named.legible {entries : List (String × String)} (h : Named entries)
    (hvalues : ∀ e ∈ entries, '"' ∉ e.2.toList) : ∀ e ∈ entries, Legible e :=
  fun e he => legible_of_isEncoded (h e he).1 (hvalues e he)

/-! ### What is read -/

/-- A key that does not hold the text that ends a key is cut off where it ends. -/
theorem cutAt_append {key : List Char} (h : ¬ ['=', '"'] <:+: key) (after : List Char) :
    Text.cutAt ['=', '"'] (key ++ '=' :: '"' :: after) = some (key, after) := by
  induction key with
  | nil => simp [Text.cutAt, Text.behind?]
  | cons c rest ih =>
    have hrest : ¬ ['=', '"'] <:+: rest := fun hr => h (hr.trans (List.suffix_cons c rest).isInfix)
    have hnone : Text.behind? ['=', '"'] (c :: (rest ++ '=' :: '"' :: after)) = none := by
      rw [Option.eq_none_iff_forall_ne_some]
      intro behind hbehind
      have htext := Text.eq_append_of_behind? hbehind
      -- the key would hold the marker, or end with `=` before another one
      cases rest with
      | nil => simp at htext
      | cons d more =>
        obtain ⟨rfl, rfl, -⟩ : c = '=' ∧ d = '"' ∧ _ := by simpa using htext
        exact h ⟨[], more, rfl⟩
    rw [List.cons_append, Text.cutAt, hnone, ih hrest]
    rfl

/-- Text that neither begins nor ends with white space is trimmed to itself. -/
theorem trim_of_ends {first last : Char} {inner : List Char} {s : String}
    (hs : s.toList = first :: (inner ++ [last])) (hfirst : Text.isSpace first = false)
    (hlast : Text.isSpace last = false) : Text.trim s = s := by
  rw [← String.toList_inj, Text.toList_trim, hs, Text.trimStart_cons hfirst, Text.trimEnd]
  rw [show (first :: (inner ++ [last])).reverse = last :: (first :: inner).reverse by simp,
    Text.trimStart_cons hlast]
  simp

/-- White space in front of an entry would be in front of its key, and an empty key is followed by
the text that ends it. -/
theorem Legible.trimStart_append {e : String × String} (he : Legible e) (rest : List Char) :
    Text.trimStart (e.1.toList ++ '=' :: rest) = e.1.toList ++ '=' :: rest := by
  refine Text.trimStart_eq_self_of_head fun c hc => ?_
  cases hkey : e.1.toList with
  | nil =>
    rw [hkey, List.nil_append, List.head?_cons, Option.some_inj] at hc
    rw [← hc]
    decide
  | cons d more =>
    rw [hkey, List.cons_append, List.head?_cons, Option.some_inj] at hc
    refine Text.isSpace_head_trimStart (s := e.1.toList) ?_
    rw [Text.trimStart_of_trim he.trimmed, hkey, List.head?_cons, hc]

/-- What was written of one entry is read back, and what follows its separator is left. -/
theorem Legible.readEntry_append {e : String × String} (he : Legible e) (rest : List Char) :
    readEntry (writeEntry e ++ rest) = .ok (e, skipSeparator rest) := by
  have htext : writeEntry e ++ rest =
      e.1.toList ++ '=' :: '"' :: (e.2.toList ++ '"' :: rest) := by
    simp [writeEntry]
  rw [readEntry, htext, cutAt_append he.unmarked]
  simp only [Text.cut_append he.unquoted, String.ofList_toList, he.trimmed]

theorem readEntries_of_entry {s rest : List Char} {e : String × String}
    (h : readEntry s = .ok (e, rest)) : readEntries s = (readEntries rest).map (e :: ·) := by
  have hne : s ≠ [] := by
    rintro rfl
    exact absurd h (by simp [readEntry, Text.cutAt])
  rw [readEntries, if_neg hne]
  split
  · rename_i hfault
    rw [h] at hfault
    exact absurd hfault (by simp)
  · rename_i hentry
    rw [h] at hentry
    obtain ⟨rfl, rfl⟩ := Prod.mk.inj (Except.ok.inj hentry)
    rfl

/-- The text of several entries begins with the key of the first one and what ends it. -/
theorem intercalate_writeEntry (e : String × String) (rest : List (String × String)) :
    ∃ more, [',', ' '].intercalate ((e :: rest).map writeEntry) = e.1.toList ++ '=' :: more := by
  cases rest with
  | nil =>
    refine ⟨'"' :: e.2.toList ++ ['"'], ?_⟩
    simp [List.intercalate_singleton, writeEntry]
  | cons next rest =>
    rw [List.map_cons, List.map_cons, List.intercalate_cons_cons, writeEntry, List.append_assoc,
      List.append_assoc, List.append_assoc]
    exact ⟨_, rfl⟩

theorem trimStart_intercalate {e : String × String} (he : Legible e)
    (rest : List (String × String)) :
    Text.trimStart ([',', ' '].intercalate ((e :: rest).map writeEntry)) =
      [',', ' '].intercalate ((e :: rest).map writeEntry) := by
  obtain ⟨more, hmore⟩ := intercalate_writeEntry e rest
  rw [hmore, he.trimStart_append]

/-- What is written entry by entry is read back in order. -/
theorem readEntries_write {entries : List (String × String)} (h : ∀ e ∈ entries, Legible e) :
    readEntries ([',', ' '].intercalate (entries.map writeEntry)) = .ok entries := by
  induction entries with
  | nil =>
    rw [List.map_nil, List.intercalate_nil, readEntries]
    rfl
  | cons e rest ih =>
    obtain ⟨he, hlater⟩ := List.forall_mem_cons.mp h
    have hrest := ih hlater
    cases rest with
    | nil =>
      have hread := he.readEntry_append []
      rw [List.append_nil] at hread
      rw [List.map_cons, List.map_nil, List.intercalate_singleton, readEntries_of_entry hread]
      show (readEntries []).map (e :: ·) = .ok [e]
      rw [readEntries]
      rfl
    | cons next more =>
      -- the separator is skipped up to the key of the next entry
      have hskip : skipSeparator (',' :: ' ' ::
          [',', ' '].intercalate ((next :: more).map writeEntry)) =
            [',', ' '].intercalate ((next :: more).map writeEntry) :=
        trimStart_intercalate (hlater next List.mem_cons_self) more
      have hread := he.readEntry_append
        (',' :: ' ' :: [',', ' '].intercalate ((next :: more).map writeEntry))
      rw [hskip] at hread
      rw [List.map_cons, List.map_cons, List.intercalate_cons_cons, List.append_assoc]
      exact (readEntries_of_entry hread).trans (by rw [hrest]; rfl)

/-- The text before the first marker does not hold the marker. -/
theorem not_infix_of_cutAt {marker s before after : List Char} (hmarker : marker ≠ [])
    (h : Text.cutAt marker s = some (before, after)) : ¬ marker <:+: before := by
  induction s generalizing before with
  | nil => simp [Text.cutAt] at h
  | cons c rest ih =>
    rw [Text.cutAt] at h
    cases hb : Text.behind? marker (c :: rest) with
    | some behind =>
      simp only [hb, Option.some.injEq, Prod.mk.injEq] at h
      rw [← h.1]
      exact fun hmark => hmarker (List.infix_nil.mp hmark)
    | none =>
      simp only [hb] at h
      obtain ⟨⟨before', after'⟩, hcut, hpair⟩ := Option.map_eq_some_iff.mp h
      obtain ⟨rfl, rfl⟩ := Prod.mk.inj hpair
      intro hmark
      rcases List.infix_cons_iff.mp hmark with hstart | hlater
      · -- then the text would begin with the marker
        have htext : c :: before' <+: c :: rest := by
          rw [Text.eq_of_cutAt hcut]
          exact ⟨marker ++ after', by simp⟩
        obtain ⟨more, hmore⟩ := hstart.trans htext
        rw [← hmore, Text.behind?_append] at hb
        exact absurd hb (by simp)
      · exact ih hcut hlater

/-- Whatever a text is, an entry read from it can be written and read back. -/
theorem legible_of_readEntry {s rest : List Char} {e : String × String}
    (h : readEntry s = .ok (e, rest)) : Legible e := by
  unfold readEntry at h
  split at h
  · exact absurd h (by simp)
  · rename_i key behind hkey
    split at h
    · exact absurd h (by simp)
    · rename_i hvalue
      obtain ⟨rfl, -⟩ := Prod.mk.inj (Except.ok.inj h)
      refine ⟨Text.trim_trim _, fun hmark => ?_, ?_⟩
      · have hinfix := hmark.trans (Text.trim_infix (String.ofList key))
        rw [String.toList_ofList] at hinfix
        exact not_infix_of_cutAt (by decide) hkey hinfix
      · rw [String.toList_ofList]
        exact Text.not_mem_of_cut hvalue

theorem legible_of_readEntries {s : List Char} {entries : List (String × String)}
    (h : readEntries s = .ok entries) : ∀ e ∈ entries, Legible e := by
  fun_induction readEntries s generalizing entries with
  | case1 =>
    rw [← Except.ok.inj h]
    exact fun e he => absurd he List.not_mem_nil
  | case2 s hs fault hfault => exact absurd h (by simp)
  | case3 s hs e rest hentry ih =>
    obtain ⟨more, hmore, rfl⟩ := Outcome.map_eq_ok_iff.mp h
    exact List.forall_mem_cons.mpr ⟨legible_of_readEntry hentry, ih hmore⟩

/-! ### Headers -/

theorem intercalate_writeEntry_ends {entries : List (String × String)} (hne : entries ≠ []) :
    ∃ inner, [',', ' '].intercalate (entries.map writeEntry) = inner ++ ['"'] := by
  induction entries with
  | nil => exact absurd rfl hne
  | cons e rest ih =>
    cases rest with
    | nil =>
      rw [List.map_cons, List.map_nil, List.intercalate_singleton]
      exact ⟨_, rfl⟩
    | cons next more =>
      obtain ⟨inner, hinner⟩ := ih (List.cons_ne_nil next more)
      rw [List.map_cons] at hinner
      rw [List.map_cons, List.map_cons, List.intercalate_cons_cons, hinner, ← List.append_assoc]
      exact ⟨_, rfl⟩

/-- The text in which entries are written in their order is not changed by trimming, so a space and
the entries follow the name of the scheme. -/
theorem behind?_trim {text : String} {entries : List (String × String)}
    (htext : text.toList =
      Protocol.scheme.toList ++ ' ' :: [',', ' '].intercalate (entries.map writeEntry))
    (hne : entries ≠ []) :
    Text.behind? Protocol.scheme.toList (Text.trim text).toList =
      some (' ' :: [',', ' '].intercalate (entries.map writeEntry)) := by
  obtain ⟨inner, hinner⟩ := intercalate_writeEntry_ends hne
  have hends : text.toList = 'O' :: (['A', 'u', 't', 'h', ' '] ++ inner ++ ['"']) := by
    rw [htext, hinner]
    rfl
  rw [trim_of_ends hends (by decide) (by decide), htext, Text.behind?_append]

/-- Entries that can be read back are read back as a dictionary, in whatever order they are
written. -/
theorem read_of_legible {text : String} {entries : List (String × String)}
    (htext : text.toList =
      Protocol.scheme.toList ++ ' ' :: [',', ' '].intercalate (entries.map writeEntry))
    (hne : entries ≠ []) (h : ∀ e ∈ entries, Legible e) :
    read text = .ok (Table.ofList entries) := by
  have hstart : Text.trimStart (' ' :: [',', ' '].intercalate (entries.map writeEntry)) =
      [',', ' '].intercalate (entries.map writeEntry) := by
    obtain ⟨e, rest, rfl⟩ := List.exists_cons_of_ne_nil hne
    exact trimStart_intercalate (h e List.mem_cons_self) rest
  simp only [read, behind?_trim htext hne, hstart, readEntries_write h]

/-- Entries whose values hold no quote are read back as a dictionary, in whatever order they are
written. -/
theorem read_of_written {text : String} {entries : List (String × String)}
    (htext : text.toList =
      Protocol.scheme.toList ++ ' ' :: [',', ' '].intercalate (entries.map writeEntry))
    (h : Named entries) (hne : entries ≠ []) (hvalues : ∀ e ∈ entries, '"' ∉ e.2.toList) :
    read text = .ok (Table.ofList entries) :=
  read_of_legible htext hne (h.legible hvalues)

/-- Whatever is read from a text can be written and read back. -/
theorem legible_of_read {text : String} {params : Dictionary} (h : read text = .ok params) :
    ∀ e ∈ params.entries, Legible e := by
  unfold read at h
  split at h
  · exact absurd h (by simp)
  · split at h
    · exact absurd h (by simp)
    · rename_i entries hentries
      obtain rfl : Table.ofList entries = params := Except.ok.inj h
      intro e he
      -- a table takes the key from one of the entries that were read, and the value from another
      obtain ⟨hfirst, hlast⟩ := (Table.mem_entries_ofList entries e).mp he
      obtain ⟨-, d, hd, hkey⟩ := Table.of_firstSpelling? hfirst
      obtain ⟨d', hd', -, hvalue⟩ := Table.of_lastValue? hlast
      have hfirstRead := legible_of_readEntries hentries d hd
      have hlastRead := legible_of_readEntries hentries d' hd'
      exact ⟨hkey ▸ hfirstRead.trimmed, hkey ▸ hfirstRead.unmarked, hvalue ▸ hlastRead.unquoted⟩

/-- A header with at least one parameter is read back exactly if no value in it holds a quote. -/
theorem read_write_iff {params : Dictionary} (h : Named params.entries)
    (hne : params.entries ≠ []) :
    read (write params) = .ok params ↔ ∀ e ∈ params.entries, '"' ∉ e.2.toList := by
  constructor
  · intro hread e he
    exact (legible_of_read hread e he).unquoted
  · intro hvalues
    rw [read_of_written (toList_write params) h hne hvalues]
    exact congrArg Except.ok params.ofList_entries

end Header

end RequestSigning
