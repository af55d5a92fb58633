import RequestSigning.Proofs.Header.Reading

/-!
# The grammar of headers

The reader of headers looks for one marker after the other. What it accepts is said here without the
reader: a header is the name of the scheme and a run of parameters, each a key, a quoted value and a
gap. The gap is taken as long as it can be, so there is one way to take a text apart.

* `Header.Run`: characters of one kind up to where they end.
* `Header.Gap`: what may stand behind a value, with `Header.gap_iff`.
* `Header.Parameters`: the texts of parameters, with `Header.readEntries_eq_ok_iff`: the reader
  takes them apart in this way.
* `Header.Spells`: the texts of headers, with `Header.spells_unique`.
* `Header.read_accepts_grammar`: these texts are read, each key has its last value, and every other
  text is refused as a bad request.
-/

namespace RequestSigning

namespace Dictionary

/-- In a dictionary the entries are told by the values alone. -/
theorem mem_entries_iff_get? (d : Dictionary) (e : String × String) :
    e ∈ Table.entries d ↔ Table.get? d e.1 = some e.2 := by
  constructor
  · intro he
    exact ((Table.mem_entries_iff d e).mp he).2
  · intro hvalue
    obtain ⟨found, hfound, hsecond⟩ := Option.map_eq_some_iff.mp hvalue
    have hname : found.1.toList = e.1.toList := by simpa using List.find?_some hfound
    have hsame : found = e := Prod.ext (String.toList_inj.mp hname) hsecond
    rw [← hsame]
    exact List.mem_of_find?_eq_some hfound

theorem eq_of_get?_eq {d d' : Dictionary} (h : ∀ name, Table.get? d name = Table.get? d' name) :
    d = d' := by
  refine Table.ext (Table.entries_eq_of_mem_iff d d'.ascending fun e => ?_)
  rw [mem_entries_iff_get?, mem_entries_iff_get?, h]

end Dictionary

namespace Header

/-! ### Gaps -/

/-- A run of characters of one kind. It is not continued by what follows. -/
structure Run (p : Char → Bool) (run rest : List Char) : Prop where
  kind : ∀ c ∈ run, p c = true
  ended : ∀ c, rest.head? = some c → p c = false

theorem Run.dropWhile_append {p : Char → Bool} {run rest : List Char} (h : Run p run rest) :
    (run ++ rest).dropWhile p = rest := by
  rw [List.dropWhile_append_of_pos h.kind]
  cases rest with
  | nil => rfl
  | cons c more =>
    have hc : p c = false := h.ended c rfl
    rw [List.dropWhile_cons_of_neg (by simp [hc])]

/-- Every text begins with a run, which may be empty. -/
theorem exists_run (p : Char → Bool) (s : List Char) :
    ∃ run rest, s = run ++ rest ∧ Run p run rest := by
  refine ⟨s.takeWhile p, s.dropWhile p, List.takeWhile_append_dropWhile.symm, ?_, ?_⟩
  · intro c hc
    exact List.all_eq_true.mp List.all_takeWhile c hc
  · intro c hc
    have hhead := List.head?_dropWhile_not p s
    rw [hc] at hhead
    exact hhead

/-- What may stand behind a value and in front of `rest`: white space, commas, white space. -/
inductive Gap : List Char → List Char → Prop
  | spaced {before commas after rest : List Char}
      (hbefore : Run Text.isSpace before (commas ++ (after ++ rest)))
      (hcommas : Run (· = ',') commas (after ++ rest)) (hafter : Run Text.isSpace after rest) :
      Gap (before ++ (commas ++ (after ++ rest))) rest

theorem Gap.eq_skipSeparator {s rest : List Char} (h : Gap s rest) : rest = skipSeparator s := by
  obtain ⟨hbefore, hcommas, hafter⟩ := h
  rw [skipSeparator, Text.trimStart, Text.trimStart, hbefore.dropWhile_append,
    hcommas.dropWhile_append, hafter.dropWhile_append]

theorem exists_gap (s : List Char) : ∃ rest, Gap s rest := by
  obtain ⟨before, s₁, rfl, hbefore⟩ := exists_run Text.isSpace s
  obtain ⟨commas, s₂, rfl, hcommas⟩ := exists_run (· = ',') s₁
  obtain ⟨after, rest, rfl, hafter⟩ := exists_run Text.isSpace s₂
  exact ⟨rest, .spaced hbefore hcommas hafter⟩

/-- There is a gap at the start of every text, and one way to end it. -/
theorem gap_iff {s rest : List Char} : Gap s rest ↔ rest = skipSeparator s := by
  constructor
  · intro h
    exact h.eq_skipSeparator
  · intro h
    obtain ⟨found, hfound⟩ := exists_gap s
    rw [h, ← hfound.eq_skipSeparator]
    exact hfound

/-! ### Parameters -/

/-- The texts of parameters. A key reaches up to the first `="`, a value up to the next quote, and
after the gap there is another parameter or nothing. Keys are trimmed, and nothing is decoded. -/
inductive Parameters : List Char → List (String × String) → Prop
  | done : Parameters [] []
  | more {key value behind rest : List Char} {entries : List (String × String)}
      (hkey : ¬ ['=', '"'] <:+: key) (hvalue : '"' ∉ value) (hgap : Gap behind rest)
      (hrest : Parameters rest entries) :
      Parameters (key ++ '=' :: '"' :: (value ++ '"' :: behind))
        ((Text.trim (String.ofList key), String.ofList value) :: entries)

/-- One step of the reader: a key, a value and a gap. -/
theorem readEntry_eq_ok_iff {s rest : List Char} {e : String × String} :
    readEntry s = .ok (e, rest) ↔
      ∃ key value behind, s = key ++ '=' :: '"' :: (value ++ '"' :: behind) ∧
        ¬ ['=', '"'] <:+: key ∧ '"' ∉ value ∧ Gap behind rest ∧
        e = (Text.trim (String.ofList key), String.ofList value) := by
  constructor
  · intro h
    unfold readEntry at h
    split at h
    · exact absurd h (by simp)
    · rename_i key after hkey
      split at h
      · exact absurd h (by simp)
      · rename_i value behind hvalue
        obtain ⟨rfl, rfl⟩ := Prod.mk.inj (Except.ok.inj h)
        refine ⟨key, value, behind, ?_, not_infix_of_cutAt (by decide) hkey,
          Text.not_mem_of_cut hvalue, gap_iff.mpr rfl, rfl⟩
        rw [Text.eq_of_cutAt hkey, Text.eq_of_cut hvalue, List.append_assoc]
        rfl
  · rintro ⟨key, value, behind, rfl, hkey, hvalue, hgap, rfl⟩
    rw [readEntry, cutAt_append hkey]
    simp only [Text.cut_append hvalue, gap_iff.mp hgap]

/-- All steps of the reader together: a text is read exactly if it is the text of parameters. -/
theorem readEntries_eq_ok_iff {s : List Char} {entries : List (String × String)} :
    readEntries s = .ok entries ↔ Parameters s entries := by
  -- from left to right the induction follows the reader, and from right to left the grammar
  constructor
  · intro h
    fun_induction readEntries s generalizing entries with
    | case1 =>
      obtain rfl := Except.ok.inj h
      exact .done
    | case2 s hs fault hfault => exact absurd h (by simp)
    | case3 s hs e rest hentry ih =>
      obtain ⟨more, hmore, rfl⟩ := Outcome.map_eq_ok_iff.mp h
      obtain ⟨key, value, behind, rfl, hkey, hvalue, hgap, rfl⟩ := readEntry_eq_ok_iff.mp hentry
      exact .more hkey hvalue hgap (ih hmore)
  · intro h
    induction h with
    | done =>
      rw [readEntries]
      rfl
    | more hkey hvalue hgap hrest ih =>
      have hentry := readEntry_eq_ok_iff.mpr ⟨_, _, _, rfl, hkey, hvalue, hgap, rfl⟩
      rw [readEntries_of_entry hentry, ih]
      rfl

/-! ### Headers -/

/-- The texts of headers. Without the white space around it, such a text is the name of the scheme,
white space and the text of its parameters. -/
def Spells (text : String) (entries : List (String × String)) : Prop :=
  ∃ remainder, (Text.trim text).toList = Protocol.scheme.toList ++ remainder ∧
    Parameters (Text.trimStart remainder) entries

theorem read_eq_ok_iff_spells {text : String} {params : Dictionary} :
    read text = .ok params ↔ ∃ entries, Spells text entries ∧ Table.ofList entries = params := by
  constructor
  · intro h
    unfold read at h
    split at h
    · exact absurd h (by simp)
    · rename_i remainder hscheme
      split at h
      · exact absurd h (by simp)
      · rename_i entries hentries
        exact ⟨entries, ⟨remainder, Text.eq_append_of_behind? hscheme,
          readEntries_eq_ok_iff.mp hentries⟩, Except.ok.inj h⟩
  · rintro ⟨entries, ⟨remainder, htext, hparameters⟩, rfl⟩
    simp only [read, htext, Text.behind?_append, readEntries_eq_ok_iff.mpr hparameters]

/-- A text is the header of one list of parameters. -/
theorem spells_unique {text : String} {entries entries' : List (String × String)}
    (h : Spells text entries) (h' : Spells text entries') : entries = entries' := by
  obtain ⟨remainder, htext, hparameters⟩ := h
  obtain ⟨remainder', htext', hparameters'⟩ := h'
  obtain rfl : remainder = remainder' := List.append_cancel_left (htext.symm.trans htext')
  have hread := readEntries_eq_ok_iff.mpr hparameters
  rw [readEntries_eq_ok_iff.mpr hparameters'] at hread
  exact (Except.ok.inj hread).symm

/-- Whatever makes a header unreadable is a fault of the request. -/
theorem kind_of_read_error {text : String} {f : Failure} (h : read text = .error f) :
    f.kind = .request := by
  unfold read at h
  split at h
  · rw [← Except.error.inj h]
    rfl
  · split at h
    · rw [← Except.error.inj h]
      rfl
    · exact absurd h (by simp)

/-- A text is read exactly if it is the text of a header, and then each key has the last value that
the text gives it, as it is written and free of quotes. Every other text is refused, always as a bad
request. -/
theorem read_accepts_grammar (text : String) :
    (∀ params, read text = .ok params ↔
      ∃ entries, Spells text entries ∧
        ∀ key, params.get? key = Table.lastValue? String.toList entries key) ∧
    (∀ params key value, read text = .ok params → params.get? key = some value →
      '"' ∉ value.toList) ∧
    ((∃ f, read text = .error f) ↔ ¬ ∃ entries, Spells text entries) ∧
    ∀ f, read text = .error f → f.kind = .request := by
  refine ⟨?_, ?_, ?_, fun f => kind_of_read_error⟩
  · intro params
    rw [read_eq_ok_iff_spells]
    constructor
    · rintro ⟨entries, hspells, rfl⟩
      exact ⟨entries, hspells, Table.get?_ofList entries⟩
    · rintro ⟨entries, hspells, hvalues⟩
      refine ⟨entries, hspells, Dictionary.eq_of_get?_eq fun name => ?_⟩
      rw [Table.get?_ofList, hvalues]
  · intro params key value hread hvalue
    have hentry : (key, value) ∈ params.entries :=
      (Dictionary.mem_entries_iff_get? params (key, value)).mpr hvalue
    exact (legible_of_read hread _ hentry).unquoted
  · constructor
    · rintro ⟨f, hf⟩ ⟨entries, hspells⟩
      rw [read_eq_ok_iff_spells.mpr ⟨entries, hspells, rfl⟩] at hf
      exact absurd hf (by simp)
    · intro hnone
      cases hread : read text with
      | error f => exact ⟨f, rfl⟩
      | ok params =>
        obtain ⟨entries, hspells, -⟩ := read_eq_ok_iff_spells.mp hread
        exact absurd ⟨entries, hspells⟩ hnone

/-- A header with a key that swallows a word and a comma, an empty key, a key that is written twice
and gaps of all kinds; and a header that ends behind a second comma. -/
theorem read_accepts_grammar_odd :
    (∃ params entries,
      read "\tOAuth,x y =\"1\"=\"=\" , k=\"a,\",,\n,k =\"b\"k=\"%\", " = .ok params ∧
      Spells "\tOAuth,x y =\"1\"=\"=\" , k=\"a,\",,\n,k =\"b\"k=\"%\", " entries ∧
      params.get? "k" = some "%" ∧ '"' ∉ "%".toList ∧
      params.get? ",x y" = Table.lastValue? String.toList entries ",x y") ∧
    ∃ f, read "OAuth a=\"1\", ," = .error f ∧ f.kind = .request ∧
      ¬ ∃ entries, Spells "OAuth a=\"1\", ," entries := by
  constructor
  · obtain ⟨hok, hunquoted, -, -⟩ :=
      read_accepts_grammar "\tOAuth,x y =\"1\"=\"=\" , k=\"a,\",,\n,k =\"b\"k=\"%\", "
    have hread : read "\tOAuth,x y =\"1\"=\"=\" , k=\"a,\",,\n,k =\"b\"k=\"%\", " =
        .ok (Table.ofList [(",x y", "1"), ("", "="), ("k", "a,"), (",k", "b"), ("k", "%")]) :=
      Outcome.eq_ok_of_toOption (by decide +kernel)
    have hvalue : Table.get? (Table.ofList
        [(",x y", "1"), ("", "="), ("k", "a,"), (",k", "b"), ("k", "%")] : Dictionary) "k" =
          some "%" := by decide +kernel
    obtain ⟨entries, hspells, hvalues⟩ := (hok _).mp hread
    exact ⟨_, entries, hread, hspells, hvalue, hunquoted _ _ _ hread hvalue, hvalues ",x y"⟩
  · obtain ⟨-, -, hrefused, hkind⟩ := read_accepts_grammar "OAuth a=\"1\", ,"
    have hnone : (read "OAuth a=\"1\", ,").toOption = none := by decide +kernel
    cases hread : read "OAuth a=\"1\", ," with
    | ok params =>
      rw [hread] at hnone
      exact absurd hnone (by simp [Except.toOption])
    | error f => exact ⟨f, rfl, hkind f hread, hrefused.mp ⟨f, hread⟩⟩

end Header

end RequestSigning
