import RequestSigning.Encoding.Form
import RequestSigning.Proofs.Joined

/-!
# What a form says

A form is read segment by segment, and a segment at its first `=`. Decoding never adds bytes, and it
takes two away for each escape. So a name that is put into a form without being encoded is read back
only if nothing in it is a separator and nothing in it is decoded. An encoded value is always read
back.

* `Percent.Escapes`, `Percent.decode_of_not_escapes`, `Percent.length_decode_lt`: text without an
  escape is left as it is, and text with one loses bytes.
* `Form.Verbatim`, `Form.verbatim_of_decodeText?`: the names that stand for themselves.
* `Form.segments`, `Form.segments_join`: the segments of a joined form, pair by pair.
* `Form.valueEncoded`, `Form.decode?_join_iff`: pairs with encoded values are read back exactly if
  their names stand for themselves.
-/

namespace RequestSigning

/-! ### Bytes -/

namespace Utf8

/-- A text that is read from bytes has these bytes. -/
theorem bytes_of_text? {bs : List UInt8} {s : List Char} (h : text? bs = some s) :
    bytes s = bs := by
  obtain ⟨chars, hchars, rfl⟩ := Option.map_eq_some_iff.mp h
  have hsome : bs.toByteArray.utf8Decode?.isSome = true := by rw [hchars]; rfl
  have hencode : (bs.toByteArray.utf8Decode?.get hsome).toList.utf8Encode = bs.toByteArray :=
    ByteArray.utf8Encode_get_utf8Decode?
  rw [Option.get_of_eq_some hsome hchars] at hencode
  have hbytes : (bytes chars.toList).toByteArray = bs.toByteArray := hencode
  have hdata := congrArg ByteArray.data hbytes
  simpa using hdata

theorem length_utf8EncodeChar_pos (c : Char) : 0 < (String.utf8EncodeChar c).length := by
  rw [String.length_utf8EncodeChar]
  exact c.utf8Size_pos

/-- A part of a text that has as many bytes is the whole text. -/
theorem eq_of_infix {s t : List Char} (h : s <:+: t)
    (hlength : (bytes t).length ≤ (bytes s).length) :
    s = t := by
  have hempty : ∀ u : List Char, (bytes u).length = 0 → u = [] := by
    intro u hu
    cases u with
    | nil => rfl
    | cons c u =>
      have hpos := length_utf8EncodeChar_pos c
      rw [bytes_cons, List.length_append] at hu
      omega
  obtain ⟨before, after, rfl⟩ := h
  simp only [bytes_append, List.length_append] at hlength
  obtain rfl := hempty before (by omega)
  obtain rfl := hempty after (by omega)
  simp

end Utf8

/-! ### Escapes -/

namespace Percent

/-- Somewhere in the text a percent sign is followed by two hexadecimal digits. -/
def Escapes (s : List Char) : Prop :=
  ∃ a b, (Hex.value? a).isSome = true ∧ (Hex.value? b).isSome = true ∧ ['%', a, b] <:+: s

theorem escapes_cons_iff {c : Char} {s : List Char} :
    Escapes (c :: s) ↔
      (∃ a b rest, c = '%' ∧ s = a :: b :: rest ∧ (Hex.value? a).isSome = true ∧
        (Hex.value? b).isSome = true) ∨ Escapes s := by
  constructor
  · rintro ⟨a, b, ha, hb, hwithin⟩
    rcases List.infix_cons_iff.mp hwithin with ⟨rest, hrest⟩ | hlater
    · obtain ⟨hc, hs⟩ := List.cons.inj hrest
      exact .inl ⟨a, b, rest, hc.symm, hs.symm, ha, hb⟩
    · exact .inr ⟨a, b, ha, hb, hlater⟩
  · rintro (⟨a, b, rest, rfl, rfl, ha, hb⟩ | ⟨a, b, ha, hb, hlater⟩)
    · exact ⟨a, b, ha, hb, ⟨[], rest, rfl⟩⟩
    · exact ⟨a, b, ha, hb, hlater.trans (List.suffix_cons c s).isInfix⟩

/-- Text without an escape is left as it is. -/
theorem decode_of_not_escapes {s : List Char} (h : ¬ Escapes s) : decode s = Utf8.bytes s := by
  fun_induction decode s with
  | case1 => rfl
  | case2 a b rest hi lo hb ha ih =>
    have hescape : Escapes ('%' :: a :: b :: rest) :=
      escapes_cons_iff.mpr (.inl ⟨a, b, rest, rfl, rfl, by rw [ha]; rfl, by rw [hb]; rfl⟩)
    exact absurd hescape h
  | case3 a b rest hne ih =>
    rw [ih fun he => h (escapes_cons_iff.mpr (.inr he))]
    rfl
  | case4 c rest hne ih =>
    rw [ih fun he => h (escapes_cons_iff.mpr (.inr he))]
    rfl

/-- Text with an escape loses bytes. -/
theorem length_decode_lt {s : List Char} (h : Escapes s) :
    (decode s).length < (Utf8.bytes s).length := by
  fun_induction decode s with
  | case1 =>
    obtain ⟨a, b, -, -, hwithin⟩ := h
    exact absurd (List.eq_nil_of_infix_nil hwithin) (by simp)
  | case2 a b rest hi lo hb ha ih =>
    have hrest : (decode rest).length ≤ (Utf8.bytes rest).length := by
      by_cases he : Escapes rest
      · exact Nat.le_of_lt (ih he)
      · exact Nat.le_of_eq (congrArg List.length (decode_of_not_escapes he))
    have hpercent := Utf8.length_utf8EncodeChar_pos '%'
    have hdigit := Utf8.length_utf8EncodeChar_pos a
    simp only [Utf8.bytes_cons, List.length_append, List.length_cons]
    omega
  | case3 a b rest hne ih =>
    rcases escapes_cons_iff.mp h with ⟨a', b', rest', -, hs, ha, hb⟩ | he
    · obtain ⟨rfl, htail⟩ := List.cons.inj hs
      obtain ⟨rfl, -⟩ := List.cons.inj htail
      obtain ⟨hi, hhi⟩ := Option.isSome_iff_exists.mp ha
      obtain ⟨lo, hlo⟩ := Option.isSome_iff_exists.mp hb
      exact (hne hi lo hhi hlo).elim
    · have := ih he
      rw [List.length_append, Utf8.bytes_cons, List.length_append]
      omega
  | case4 c rest hne ih =>
    rcases escapes_cons_iff.mp h with ⟨a, b, rest', hc, hs, -, -⟩ | he
    · exact (hne a b rest' hc hs).elim
    · have := ih he
      rw [List.length_append, Utf8.bytes_cons, List.length_append]
      omega

/-- Decoding adds no bytes. -/
theorem length_decode_le (s : List Char) : (decode s).length ≤ (Utf8.bytes s).length := by
  by_cases h : Escapes s
  · exact Nat.le_of_lt (length_decode_lt h)
  · exact Nat.le_of_eq (congrArg List.length (decode_of_not_escapes h))

end Percent

namespace Form

/-! ### Names that stand for themselves -/

/-- A text in which nothing is read as a separator, as a space or as an escape. -/
structure Verbatim (s : List Char) : Prop where
  ampersand : '&' ∉ s
  equals : '=' ∉ s
  plus : '+' ∉ s
  escape : ¬ Percent.Escapes s

/-- The text with a space for each plus sign. -/
def spaced (s : List Char) : List Char :=
  s.map fun c => if c = '+' then ' ' else c

theorem length_bytes_spaced (s : List Char) :
    (Utf8.bytes (spaced s)).length = (Utf8.bytes s).length := by
  induction s with
  | nil => rfl
  | cons c s ih =>
    have hc : (String.utf8EncodeChar (if c = '+' then ' ' else c)).length =
        (String.utf8EncodeChar c).length := by
      split
      · rename_i h
        subst h
        rfl
      · rfl
    rw [spaced, List.map_cons, Utf8.bytes_cons, Utf8.bytes_cons, List.length_append,
      List.length_append, hc]
    exact congrArg _ ih

theorem decode_of_decodeText? {s : List Char} {t : String} (h : decodeText? s = some t) :
    Percent.decode (spaced s) = Utf8.bytes t.toList := by
  obtain ⟨chars, hchars, rfl⟩ := Option.map_eq_some_iff.mp h
  rw [String.toList_ofList]
  exact (Utf8.bytes_of_text? hchars).symm

/-- A decoded text has no more bytes than what it was decoded from. -/
theorem length_of_decodeText? {s : List Char} {t : String} (h : decodeText? s = some t) :
    (Utf8.bytes t.toList).length ≤ (Utf8.bytes s).length := by
  rw [← decode_of_decodeText? h, ← length_bytes_spaced]
  exact Percent.length_decode_le (spaced s)

theorem spaced_of_not_mem {s : List Char} (h : '+' ∉ s) : spaced s = s := by
  induction s with
  | nil => rfl
  | cons c s ih =>
    rw [List.mem_cons, not_or] at h
    rw [spaced, List.map_cons, if_neg (Ne.symm h.1)]
    exact congrArg _ (ih h.2)

/-- Without plus signs and escapes there is nothing to decode. -/
theorem decodeText?_of_plain {s : List Char} (hplus : '+' ∉ s) (hescape : ¬ Percent.Escapes s) :
    decodeText? s = some (String.ofList s) := by
  show (Utf8.text? (Percent.decode (spaced s))).map String.ofList = _
  rw [spaced_of_not_mem hplus, Percent.decode_of_not_escapes hescape, Utf8.text?_bytes,
    Option.map_some]

/-- A text that is decoded to itself has neither plus signs nor escapes. -/
theorem plain_of_decodeText? {s : List Char} (h : decodeText? s = some (String.ofList s)) :
    '+' ∉ s ∧ ¬ Percent.Escapes s := by
  have hdecode := decode_of_decodeText? h
  rw [String.toList_ofList] at hdecode
  have hescape : ¬ Percent.Escapes (spaced s) := by
    intro he
    have hlt := Percent.length_decode_lt he
    rw [hdecode, length_bytes_spaced] at hlt
    exact Nat.lt_irrefl _ hlt
  rw [Percent.decode_of_not_escapes hescape] at hdecode
  have hspaced : spaced s = s := Utf8.bytes_injective hdecode
  have hplus : '+' ∉ s := by
    intro hmem
    rw [← hspaced] at hmem
    obtain ⟨c, -, hc⟩ := List.mem_map.mp hmem
    split at hc
    · exact absurd hc (by decide)
    · exact absurd hc ‹_›
  rw [hspaced] at hescape
  exact ⟨hplus, hescape⟩

/-- A part of a name is only decoded to the whole name if it is all of it and stands for itself. -/
theorem verbatim_of_decodeText? {part : List Char} {name : String} (hpart : part <:+: name.toList)
    (hamp : '&' ∉ part) (hequals : '=' ∉ part) (h : decodeText? part = some name) :
    Verbatim name.toList := by
  obtain rfl : part = name.toList := Utf8.eq_of_infix hpart (length_of_decodeText? h)
  obtain ⟨hplus, hescape⟩ := plain_of_decodeText? (s := name.toList)
    (by rw [h, String.ofList_toList])
  exact ⟨hamp, hequals, hplus, hescape⟩

/-! ### Segments -/

/-- The segments of a form that are read. -/
def segments (body : List Char) : List (List Char) :=
  (Text.pieces '&' body).filter (· ≠ [])

theorem decode?_eq (body : List Char) : decode? body = (segments body).mapM decodeSegment? := rfl

/-- The segments of a joined form are those of its pairs, in order. -/
theorem segments_join (pairs : List (String × String)) :
    segments (join pairs) = pairs.flatMap fun p => segments (Params.pairText p) := by
  induction pairs with
  | nil => rfl
  | cons p rest ih =>
    cases rest with
    | nil =>
      rw [List.flatMap_singleton]
      show segments (['&'].intercalate [Params.pairText p]) = _
      rw [List.intercalate_singleton]
    | cons q more =>
      have hcut : join (p :: q :: more) = Params.pairText p ++ '&' :: join (q :: more) := by
        show ['&'].intercalate
          (Params.pairText p :: Params.pairText q :: more.map Params.pairText) = _
        rw [List.intercalate_cons_cons, List.append_assoc]
        rfl
      rw [List.flatMap_cons, ← ih, hcut, segments, Text.pieces_append_cons, List.filter_append]
      rfl

/-- The name that is read from a segment is decoded from what stands before its first `=`. -/
theorem decodeText?_of_decodeSegment? {segment : List Char} {name value : String}
    (h : decodeSegment? segment = some (name, value)) :
    ∃ part, part <+: segment ∧ '=' ∉ part ∧ decodeText? part = some name := by
  rw [decodeSegment?] at h
  cases hc : Text.cut '=' segment with
  | none =>
    rw [hc] at h
    obtain ⟨n, hn, hnv⟩ := Option.map_eq_some_iff.mp h
    obtain ⟨rfl, -⟩ := Prod.mk.inj hnv
    exact ⟨segment, List.prefix_rfl, Text.cut_eq_none_iff.mp hc, hn⟩
  | some cut =>
    obtain ⟨part, rest⟩ := cut
    rw [hc] at h
    have hpart : part <+: segment := by
      rw [Text.eq_of_cut hc]
      exact List.prefix_append part ('=' :: rest)
    cases hn : decodeText? part with
    | none => simp [hn] at h
    | some n =>
      cases hv : decodeText? rest with
      | none => simp [hn, hv] at h
      | some v =>
        simp only [hn, hv, Option.some.injEq, Prod.mk.injEq] at h
        obtain ⟨rfl, -⟩ := h
        exact ⟨part, hpart, Text.not_mem_of_cut hc, hn⟩

/-! ### Encoded values -/

theorem amp_not_mem_encodeByte_fin : ∀ n : Fin 256, '&' ∉ encodeByte (UInt8.ofNat n) := by
  decide +kernel

theorem amp_not_mem_encodeText (value : String) : '&' ∉ (encodeText value).toList := by
  rw [toList_encodeText]
  intro h
  obtain ⟨b, -, hb⟩ := List.mem_flatMap.mp h
  have hfree := amp_not_mem_encodeByte_fin ⟨b.toNat, b.toNat_lt⟩
  rw [UInt8.ofNat_toNat] at hfree
  exact hfree hb

/-- The pair of a name as it is and an encoded value. -/
def valueEncoded (p : String × String) : String × String :=
  (p.1, encodeText p.2)

/-- A pair whose name has no `&` is one segment. -/
theorem segments_pairText_of_not_mem {p : String × String} (h : '&' ∉ p.1.toList) :
    segments (Params.pairText (valueEncoded p)) = [Params.pairText (valueEncoded p)] := by
  have hpair : '&' ∉ Params.pairText (valueEncoded p) :=
    Params.amp_not_mem_pairText h (amp_not_mem_encodeText p.2)
  rw [segments, Text.pieces_of_not_mem hpair]
  exact List.filter_eq_self.mpr fun s hs =>
    decide_eq_true (List.mem_singleton.mp hs ▸ Params.pairText_ne_nil _)

/-- A name that stands for itself is read back with its value. -/
theorem decodeSegment?_pairText {p : String × String} (h : Verbatim p.1.toList) :
    decodeSegment? (Params.pairText (valueEncoded p)) = some p := by
  have hname := decodeText?_of_plain h.plus h.escape
  rw [String.ofList_toList] at hname
  rw [decodeSegment?, Params.pairText, valueEncoded, Text.cut_append h.equals]
  simp only [hname, decodeText?_encodeText]

/-- The segments of a pair end in a part of its name with the value; the others, if any, are parts
of its name. -/
theorem exists_segments_pairText (p : String × String) :
    ∃ first last, segments (Params.pairText (valueEncoded p)) =
        first ++ [last ++ '=' :: (encodeText p.2).toList] ∧
      last <:+: p.1.toList ∧ ∀ s ∈ first, s <:+: p.1.toList := by
  have hvalue : '&' ∉ '=' :: (encodeText p.2).toList := by
    rw [List.mem_cons, not_or]
    exact ⟨by decide, amp_not_mem_encodeText p.2⟩
  obtain ⟨first, last, hname, hpair⟩ := Text.exists_pieces_append p.1.toList hvalue
  refine ⟨first.filter (· ≠ []), last, ?_, ?_, ?_⟩
  · show (Text.pieces '&' (p.1.toList ++ '=' :: (encodeText p.2).toList)).filter (· ≠ []) = _
    rw [hpair, List.filter_append]
    simp
  · exact Text.infix_of_mem_pieces (by rw [hname]; simp)
  · intro s hs
    exact Text.infix_of_mem_pieces (by
      rw [hname]
      exact List.mem_append_left _ (List.mem_filter.mp hs).1)

/-- If a segment of a pair is read as its name, then the name stands for itself: what is decoded is
a part of the name. -/
theorem verbatim_of_decodeSegment? {p : String × String} {segment : List Char} {value : String}
    (hmem : segment ∈ segments (Params.pairText (valueEncoded p)))
    (h : decodeSegment? segment = some (p.1, value)) : Verbatim p.1.toList := by
  obtain ⟨part, hbegins, hequals, hdecode⟩ := decodeText?_of_decodeSegment? h
  have hamp : '&' ∉ part := fun hc =>
    Text.not_mem_of_mem_pieces (List.mem_filter.mp hmem).1 (hbegins.subset hc)
  obtain ⟨first, last, hsegments, hlast, hfirst⟩ := exists_segments_pairText p
  rw [hsegments, List.mem_append, List.mem_singleton] at hmem
  refine verbatim_of_decodeText? ?_ hamp hequals hdecode
  rcases hmem with hmem | rfl
  · exact hbegins.isInfix.trans (hfirst segment hmem)
  · exact (Text.prefix_of_prefix_append_cons hequals hbegins).isInfix.trans hlast

/-! ### Reading a form back -/

theorem mapM_cons_eq_some_iff {α β : Type} {f : α → Option β} {a : α} {l : List α} {bs : List β} :
    (a :: l).mapM f = some bs ↔ ∃ b rest, f a = some b ∧ l.mapM f = some rest ∧ b :: rest = bs := by
  simp only [List.mapM_cons, Option.bind_eq_bind, Option.bind_eq_some_iff, Option.pure_def,
    Option.some.injEq]
  constructor
  · rintro ⟨b, hb, rest, hrest, h⟩
    exact ⟨b, rest, hb, hrest, h⟩
  · rintro ⟨b, rest, hb, hrest, h⟩
    exact ⟨b, hb, rest, hrest, h⟩

/-- Pairs with encoded values are read back from the form that they make, in order and with nothing
added or lost, exactly if every name stands for itself. -/
theorem decode?_join_iff (pairs : List (String × String)) :
    decode? (join (pairs.map valueEncoded)) = some pairs ↔ ∀ p ∈ pairs, Verbatim p.1.toList := by
  rw [decode?_eq, segments_join, List.flatMap_map]
  induction pairs with
  | nil => exact iff_of_true rfl (by simp)
  | cons p pairs ih =>
    rw [List.flatMap_cons, List.forall_mem_cons, ← ih]
    constructor
    · intro h
      -- the first segment of the first pair is what its name is read from
      obtain ⟨segment, more, hsegments⟩ : ∃ segment more,
          segments (Params.pairText (valueEncoded p)) = segment :: more := by
        obtain ⟨first, last, hsegments, -, -⟩ := exists_segments_pairText p
        exact List.exists_cons_of_ne_nil (by rw [hsegments]; simp)
      have hverbatim : Verbatim p.1.toList := by
        rw [hsegments, List.cons_append, mapM_cons_eq_some_iff] at h
        obtain ⟨b, rest, hread, -, hb⟩ := h
        obtain ⟨rfl, -⟩ := List.cons.inj hb
        exact verbatim_of_decodeSegment? (by rw [hsegments]; exact List.mem_cons_self) hread
      rw [segments_pairText_of_not_mem hverbatim.ampersand, List.singleton_append,
        mapM_cons_eq_some_iff] at h
      obtain ⟨b, rest, -, hrest, hb⟩ := h
      obtain ⟨-, rfl⟩ := List.cons.inj hb
      exact ⟨hverbatim, hrest⟩
    · rintro ⟨hverbatim, hrest⟩
      rw [segments_pairText_of_not_mem hverbatim.ampersand, List.singleton_append,
        mapM_cons_eq_some_iff]
      exact ⟨p, pairs, decodeSegment?_pairText hverbatim, hrest, rfl⟩

end Form

end RequestSigning
