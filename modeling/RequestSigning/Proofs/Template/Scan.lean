import RequestSigning.Host
import RequestSigning.Proofs.Template

/-!
# Templates read from left to right

A template can be told without its pieces: look for the first opening, take the key up to the first
closing brace behind it, and go on behind that brace. The search ends where no opening is left, or
where the opening found has no closing brace behind it. Only the text of the template is searched,
so a value that is put in is never searched itself.

* `Template.FirstAt`: the first place of a text in another one.
* `Template.Scans`: the tokens of a text, each with the text in front of it, and what is left behind
  the last one.
* `Template.exists_scans`, `Template.Scans.unique`: every text is scanned in exactly one way.
* `Template.Scans.pieces_eq`: the pieces of a text are those of its scan.
* `Template.expand_scans`: what an expansion is, in terms of the scan, and what follows for messages
  and hosts.
-/

namespace RequestSigning.Template

variable {start s before after : List Char} {tokens : List (List Char × List Char)}
  {rest : List Char}

/-! ### The first opening -/

/-- `start` stands in `s` between `before` and `after`, and nowhere further to the left. -/
structure FirstAt (start s before after : List Char) : Prop where
  eq : s = before ++ start ++ after
  first : ∀ before' after', s = before' ++ start ++ after' → before.length ≤ before'.length

/-- What stands somewhere stands somewhere first. -/
theorem exists_firstAt (h : start <:+: s) : ∃ before after, FirstAt start s before after := by
  induction s with
  | nil =>
    obtain rfl := List.eq_nil_of_infix_nil h
    exact ⟨[], [], rfl, fun _ _ _ => Nat.zero_le _⟩
  | cons c s ih =>
    by_cases hhere : start <+: c :: s
    · obtain ⟨after, hafter⟩ := hhere
      exact ⟨[], after, hafter.symm, fun _ _ _ => Nat.zero_le _⟩
    · obtain ⟨before, after, heq, hfirst⟩ := ih ((List.infix_cons_iff.mp h).resolve_left hhere)
      refine ⟨c :: before, after, by rw [heq]; rfl, ?_⟩
      intro before' after' h'
      cases before' with
      | nil => exact absurd ⟨after', h'.symm⟩ hhere
      | cons d before' =>
        obtain ⟨-, htail⟩ := List.cons.inj h'
        exact Nat.succ_le_succ (hfirst before' after' htail)

theorem FirstAt.unique {before' after' : List Char} (h : FirstAt start s before after)
    (h' : FirstAt start s before' after') : before = before' ∧ after = after' := by
  have hlength : before.length = before'.length :=
    Nat.le_antisymm (h.first _ _ h'.eq) (h'.first _ _ h.eq)
  have heq : before ++ (start ++ after) = before' ++ (start ++ after') := by
    rw [← List.append_assoc, ← List.append_assoc, ← h.eq, ← h'.eq]
  obtain ⟨hbefore, hrest⟩ := List.append_inj heq hlength
  exact ⟨hbefore, List.append_cancel_left hrest⟩

/-- Behind a character with which `start` does not begin, the first place is the same one. -/
theorem FirstAt.of_cons {c : Char} (h : FirstAt start (c :: s) (c :: before) after) :
    FirstAt start s before after := by
  refine ⟨(List.cons.inj h.eq).2, ?_⟩
  intro before' after' h'
  have hle := h.first (c :: before') after' (by rw [h']; rfl)
  simpa using hle

/-- No token begins in front of the first opening. -/
theorem FirstAt.token?_eq_none {c : Char} (h : FirstAt start s (c :: before) after) :
    token? start s = none := by
  have hnone : Text.behind? start s = none := by
    cases hb : Text.behind? start s with
    | none => rfl
    | some after' =>
      have hle := h.first [] after' (Text.eq_append_of_behind? hb)
      exact absurd hle (by simp)
  rw [token?, hnone, Option.bind_none]

/-- Up to its first opening a text is copied. -/
theorem FirstAt.pieces_eq (h : FirstAt start s before after) :
    pieces start s = before.map .copied ++ pieces start (start ++ after) := by
  induction before generalizing s with
  | nil =>
    rw [h.eq]
    rfl
  | cons c before ih =>
    cases s with
    | nil => exact absurd h.eq (by simp)
    | cons d s =>
      obtain ⟨rfl, -⟩ := List.cons.inj h.eq
      rw [pieces_of_no_token h.token?_eq_none, ih h.of_cons, List.map_cons, List.cons_append]

/-! ### The scan of a text -/

/-- Reading a text from left to right yields its tokens, each as the text in front of it and its
key, and what is left behind the last token. -/
inductive Scans (start : List Char) :
    List Char → List (List Char × List Char) → List Char → Prop
  /-- Nothing opens a token. -/
  | plain {s : List Char} (h : ¬ start <:+: s) : Scans start s [] s
  /-- The first opening has no closing brace behind it. -/
  | unclosed {s before after : List Char} (h : FirstAt start s before after)
      (hbrace : '}' ∉ after) : Scans start s [] s
  /-- The key of the first opening ends at the first closing brace, and reading goes on behind
  it. -/
  | token {s before key after : List Char} {tokens : List (List Char × List Char)}
      {rest : List Char} (h : FirstAt start s before (key ++ '}' :: after)) (hkey : '}' ∉ key)
      (hafter : Scans start after tokens rest) : Scans start s ((before, key) :: tokens) rest

/-- Reading comes to an end on every text, since each token leaves a shorter one. -/
theorem exists_scans (start s : List Char) : ∃ tokens rest, Scans start s tokens rest := by
  induction hn : s.length using Nat.strongRecOn generalizing s with
  | ind n ih =>
    by_cases hopen : start <:+: s
    · obtain ⟨before, inner, hfirst⟩ := exists_firstAt hopen
      cases hcut : Text.cut '}' inner with
      | none => exact ⟨[], s, .unclosed hfirst (Text.cut_eq_none_iff.mp hcut)⟩
      | some parts =>
        obtain ⟨key, after⟩ := parts
        have hlt : after.length < n := by
          have hshort := Text.length_of_cut hcut
          rw [← hn, hfirst.eq, List.length_append]
          omega
        obtain ⟨tokens, rest, hscan⟩ := ih after.length hlt after rfl
        rw [Text.eq_of_cut hcut] at hfirst
        exact ⟨(before, key) :: tokens, rest, .token hfirst (Text.not_mem_of_cut hcut) hscan⟩
    · exact ⟨[], s, .plain hopen⟩

/-- A text is read in one way only. -/
theorem Scans.unique {tokens' : List (List Char × List Char)} {rest' : List Char}
    (h : Scans start s tokens rest) (h' : Scans start s tokens' rest') :
    tokens' = tokens ∧ rest' = rest := by
  have hoccurs {s before after : List Char} (hf : FirstAt start s before after) :
      start <:+: s := ⟨before, after, hf.eq.symm⟩
  induction h generalizing tokens' rest' with
  | plain hplain =>
    cases h' with
    | plain _ => exact ⟨rfl, rfl⟩
    | unclosed _ _ => exact ⟨rfl, rfl⟩
    | token hf _ _ => exact absurd (hoccurs hf) hplain
  | unclosed hf hbrace =>
    cases h' with
    | plain _ => exact ⟨rfl, rfl⟩
    | unclosed _ _ => exact ⟨rfl, rfl⟩
    | token hf' _ _ =>
      rw [(hf.unique hf').2] at hbrace
      exact absurd (by simp) hbrace
  | token hf hkey _ ih =>
    cases h' with
    | plain hplain => exact absurd (hoccurs hf) hplain
    | unclosed hf' hbrace =>
      rw [← (hf.unique hf').2] at hbrace
      exact absurd (by simp) hbrace
    | token hf' hkey' hafter' =>
      obtain ⟨rfl, heq⟩ := hf.unique hf'
      -- both keys end at the first closing brace of one text
      obtain ⟨rfl, rfl⟩ := Text.cut_inj hkey hkey' heq
      obtain ⟨rfl, rfl⟩ := ih hafter'
      exact ⟨rfl, rfl⟩

/-- No key holds a closing brace. -/
theorem Scans.brace_not_mem (h : Scans start s tokens rest) : ∀ t ∈ tokens, '}' ∉ t.2 := by
  induction h with
  | plain _ | unclosed _ _ => simp
  | token _ hkey _ ih => exact List.forall_mem_cons.mpr ⟨hkey, ih⟩

/-! ### Pieces, keys and expansions -/

/-- The pieces of a scan: what is in front of a token is copied, and so is the rest. -/
def scannedPieces (tokens : List (List Char × List Char)) (rest : List Char) : List Piece :=
  tokens.flatMap (fun t => t.1.map .copied ++ [.token t.2]) ++ rest.map .copied

/-- The pieces of a text are those of its scan. -/
theorem Scans.pieces_eq (h : Scans start s tokens rest) :
    pieces start s = scannedPieces tokens rest := by
  induction h with
  | plain hplain => exact pieces_of_not_infix hplain
  | @unclosed s before after hf hbrace =>
    have hall : pieces start (start ++ after) = (start ++ after).map .copied :=
      pieces_of_not_mem (by rwa [List.drop_left])
    rw [hf.pieces_eq, hall, ← List.map_append, ← List.append_assoc, ← hf.eq]
    rfl
  | @token s before key after tokens rest hf hkey _ ih =>
    have htoken : token? start (start ++ (key ++ '}' :: after)) = some (key, after) := by
      rw [token?, Text.behind?_append, Option.bind_some, Text.cut_append hkey]
    rw [hf.pieces_eq, pieces_of_token htoken, ih]
    simp only [scannedPieces, List.flatMap_cons, List.append_assoc, List.cons_append,
      List.nil_append]

/-- The keys of a text are those of its scan, in order. -/
theorem Scans.keys_eq {scheme text : String}
    (h : Scans (opening scheme.toList) text.toList tokens rest) :
    keys scheme text = tokens.map fun t => String.ofList t.2 := by
  have hcopied : ∀ s : List Char, (s.map Piece.copied).filterMap Piece.key? = [] := by
    intro s
    simp [Piece.key?]
  rw [keys, h.pieces_eq, scannedPieces, List.filterMap_append, hcopied, List.append_nil]
  clear h
  induction tokens with
  | nil => rfl
  | cons t tokens ih =>
    rw [List.flatMap_cons, List.filterMap_append, List.filterMap_append, hcopied, ih]
    rfl

/-- The text of a scan with a value for each key. A token whose key has no value stays as it is
written. -/
def substituted (start : List Char) (lookup : String → Option String)
    (tokens : List (List Char × List Char)) (rest : List Char) : List Char :=
  tokens.flatMap (fun t =>
    t.1 ++ ((lookup (String.ofList t.2)).map String.toList).getD (start ++ t.2 ++ ['}'])) ++ rest

/-- An expansion puts the values of the keys into the scan of the text. -/
theorem Scans.toList_expand {scheme text : String}
    (h : Scans (opening scheme.toList) text.toList tokens rest)
    (lookup : String → Option String) :
    (expand scheme lookup text).toList =
      substituted (opening scheme.toList) lookup tokens rest := by
  have htoken : ∀ t : List Char × List Char,
      (t.1.map Piece.copied ++ [Piece.token t.2]).flatMap
          (Piece.value (opening scheme.toList) lookup) =
        t.1 ++ ((lookup (String.ofList t.2)).map String.toList).getD
          (opening scheme.toList ++ t.2 ++ ['}']) := by
    intro t
    rw [List.flatMap_append, flatMap_value_copied, List.flatMap_singleton]
    show t.1 ++ Piece.value (opening scheme.toList) lookup (.token t.2) = _
    rw [Piece.value]
    cases lookup (String.ofList t.2) <;> rfl
  rw [expand, h.pieces_eq, scannedPieces, substituted, List.flatMap_append, flatMap_value_copied,
    String.toList_ofList, List.flatMap_assoc]
  simp only [htoken]

/-- A text whose keys have no values is left as it is. -/
theorem Scans.expand_eq_self {scheme text : String}
    (h : Scans (opening scheme.toList) text.toList tokens rest)
    {lookup : String → Option String}
    (hnone : ∀ t ∈ tokens, lookup (String.ofList t.2) = none) :
    expand scheme lookup text = text := by
  have hkeys : ∀ key ∈ keys scheme text, lookup key = none := by
    intro key hkey
    rw [h.keys_eq] at hkey
    obtain ⟨t, ht, rfl⟩ := List.mem_map.mp hkey
    exact hnone t ht
  calc expand scheme lookup text = expand scheme (fun _ => none) text := expand_congr hkeys
    _ = text := expand_none scheme text

/-! ### Messages and hosts -/

/-- The keys of a scan that a message has no value for, one for each token, in order. -/
def missing (m : Message) (tokens : List (List Char × List Char)) : List String :=
  (tokens.map fun t => String.ofList t.2).filter fun key =>
    key ≠ Message.uniqueIdKey && (m.metadata.get? key).isNone

theorem Scans.log_read {m : Message} {text : String}
    (h : Scans (opening Message.scheme.toList) text.toList tokens rest) :
    (m.read text).log =
      (missing m tokens).map fun key => .missingMetadata key m.uniqueId := by
  have hfilter : m.missingKeys text = missing m tokens := by
    rw [Message.missingKeys, h.keys_eq, missing]
    refine List.filter_congr fun key _ => ?_
    rw [Message.lookup]
    by_cases hkey : key = Message.uniqueIdKey <;> simp [hkey]
  rw [Message.log_read, hfilter]

/-- What a message reads a text as, in terms of the scan of the text. -/
theorem Scans.result_read {m : Message} {text : String}
    (h : Scans (opening Message.scheme.toList) text.toList tokens rest) :
    (m.read text).result =
      .ok (String.ofList (substituted (opening Message.scheme.toList) m.lookup tokens rest)) := by
  rw [Message.result_read, Message.fill, ← h.toList_expand, String.ofList_toList]

/-- The reference to the identifier of a message. -/
theorem fill_uniqueId (m : Message) :
    m.fill "%message\x7b%uniqueId\x7d" = m.uniqueId := by
  have hscan : Scans (opening Message.scheme.toList) "%message\x7b%uniqueId\x7d".toList
      [([], Message.uniqueIdKey.toList)] [] := by
    refine .token ⟨by decide, fun _ _ _ => Nat.zero_le _⟩ (by decide) (.plain (by decide))
  rw [← String.toList_inj, Message.fill, hscan.toList_expand, substituted]
  simp

/-- Every text is scanned in one way, and an expansion is made from the scan in one pass: the values
are put in and are not searched. -/
theorem expand_scans :
    (∀ scheme text : String, ∃ tokens rest,
      Scans (opening scheme.toList) text.toList tokens rest ∧
        (∀ tokens' rest', Scans (opening scheme.toList) text.toList tokens' rest' →
          tokens' = tokens ∧ rest' = rest) ∧
        (∀ t ∈ tokens, '}' ∉ t.2) ∧
        (∀ lookup, (expand scheme lookup text).toList =
          substituted (opening scheme.toList) lookup tokens rest) ∧
        ∀ lookup, (∀ t ∈ tokens, lookup (String.ofList t.2) = none) →
          expand scheme lookup text = text) ∧
    (∀ (m : Message) (text : String) (tokens : List (List Char × List Char)) (rest : List Char),
      Scans (opening Message.scheme.toList) text.toList tokens rest →
        (m.read text).result =
            .ok (String.ofList
              (substituted (opening Message.scheme.toList) m.lookup tokens rest)) ∧
          (m.read text).log =
            (missing m tokens).map fun key => .missingMetadata key m.uniqueId) ∧
    (∀ (m : Message) (text : String),
      ¬ opening Message.scheme.toList <:+: text.toList →
        (m.read text).result = .ok text ∧ m.fill text = text) ∧
    (∀ (h : Host) (text : String),
      ¬ opening Host.scheme.toList <:+: text.toList → h.fillVariables text = text) ∧
    ∀ m : Message, (m.read "%message\x7b%uniqueId\x7d").result = .ok m.uniqueId ∧
      m.fill "%message\x7b%uniqueId\x7d" = m.uniqueId := by
  refine ⟨?_, fun m text tokens rest h => ⟨h.result_read, h.log_read⟩,
    fun m _ h => ⟨congrArg Except.ok (m.fill_of_not_opens h), m.fill_of_not_opens h⟩,
    fun h _ hopen => expand_of_not_infix h.environment.lookup hopen,
    fun m => ⟨congrArg Except.ok (fill_uniqueId m), fill_uniqueId m⟩⟩
  intro scheme text
  obtain ⟨tokens, rest, hscan⟩ := exists_scans (opening scheme.toList) text.toList
  exact ⟨tokens, rest, hscan, fun _ _ h' => hscan.unique h', hscan.brace_not_mem,
    hscan.toList_expand, fun _ hnone => hscan.expand_eq_self hnone⟩

/-- A text whose third opening stands in the key of the second, and whose fourth is not closed. -/
def nestedText : String :=
  "%message\x7bb\x7d%message\x7b%message\x7ba\x7d%message\x7b%uniqueId"

/-- A message that has a reference as a value. -/
def nestedMessage : Message :=
  ⟨"id-1", Table.ofList [("b", "%message\x7b%uniqueId\x7d")]⟩

theorem scans_nestedText :
    Scans (opening Message.scheme.toList) nestedText.toList
      [([], ['b']), ([], "%message\x7ba".toList)] "%message\x7b%uniqueId".toList := by
  have hfirst {s after : List Char} (h : s = opening Message.scheme.toList ++ after) :
      FirstAt (opening Message.scheme.toList) s [] after := ⟨h, fun _ _ _ => Nat.zero_le _⟩
  have hrest : Scans (opening Message.scheme.toList) "%message\x7b%uniqueId".toList []
      "%message\x7b%uniqueId".toList :=
    .unclosed (@hfirst _ "%uniqueId".toList (by decide)) (by decide)
  have hsecond : Scans (opening Message.scheme.toList)
      "%message\x7b%message\x7ba\x7d%message\x7b%uniqueId".toList
      [([], "%message\x7ba".toList)] "%message\x7b%uniqueId".toList :=
    .token (hfirst (by decide)) (by decide) hrest
  exact .token (hfirst (by decide)) (by decide) hsecond

/-- The reference that is put in for the first token is not followed, and only the key of the second
token is missed. -/
theorem expand_scans_nested :
    nestedMessage.read nestedText =
        ⟨.ok "%message\x7b%uniqueId\x7d%message\x7b%message\x7ba\x7d%message\x7b%uniqueId",
          [.missingMetadata "%message\x7ba" "id-1"]⟩ ∧
      nestedMessage.fill nestedText =
        "%message\x7b%uniqueId\x7d%message\x7b%message\x7ba\x7d%message\x7b%uniqueId" ∧
      (nestedMessage.read "%env\x7bb\x7d").result = .ok "%env\x7bb\x7d" := by
  obtain ⟨hexpand, hread, hplain, -⟩ := expand_scans
  obtain ⟨tokens, rest, -, hunique, -, hvalue, -⟩ := hexpand Message.scheme nestedText
  obtain ⟨rfl, rfl⟩ := hunique _ _ scans_nestedText
  obtain ⟨hresult, hlog⟩ := hread nestedMessage nestedText _ _ scans_nestedText
  refine ⟨Outcome.ext ?_ ?_, ?_, (hplain nestedMessage _ (by decide +kernel)).1⟩
  · rw [hresult]
    refine congrArg Except.ok ?_
    decide +kernel
  · rw [hlog]
    decide +kernel
  · rw [← String.toList_inj, Message.fill, hvalue]
    decide +kernel

end RequestSigning.Template
