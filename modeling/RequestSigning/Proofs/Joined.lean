import RequestSigning.Params
import RequestSigning.Proofs.Table

/-!
# Joined texts and their parts

Parts that are free of a separator can be found again in the text that joins them with it.

* `Text.pieces_eq_splitOn`, `Text.pieces_intercalate`: the pieces of a joined text are its parts.
* `Text.pieces_append_cons`, `Text.exists_pieces_append`: the pieces of a text that goes on.
* `Text.append_cons_inj`: a text is cut at its last separator in one way.
* `Params.Separated`: pairs in which the separators of a query do not occur where they would be
  read as such.
* `Params.queryPairs_joinPairs`: such pairs are read back from the query that they make.
* `Params.separated_queryPairs`: all pairs that are read from a query are of this kind.
* `Params.normalized`, `Params.entries_insertQuery_queryText_iff`: the parameters that are read back
  from their own query, and the queries that are written as they are read.
-/

namespace RequestSigning

namespace Text

variable {sep : Char}

/-- The pieces of a text are the parts of the list operation of that name. -/
theorem pieces_eq_splitOn (sep : Char) (s : List Char) : pieces sep s = s.splitOn sep := by
  induction s with
  | nil => rfl
  | cons c rest ih =>
    rw [pieces, List.splitOn_cons_eq_if_modifyHead, ih]
    by_cases hc : c = sep
    · rw [if_pos hc, if_pos (beq_iff_eq.mpr hc)]
    · rw [if_neg hc, if_neg (by rwa [beq_iff_eq])]
      cases hs : rest.splitOn sep with
      | nil => exact absurd hs (List.splitOn_ne_nil sep rest)
      | cons first more => rfl

/-- The pieces of a joined text are the parts that were joined. -/
theorem pieces_intercalate {parts : List (List Char)} (hne : parts ≠ [])
    (h : ∀ p ∈ parts, sep ∉ p) : pieces sep ([sep].intercalate parts) = parts := by
  rw [pieces_eq_splitOn]
  exact List.splitOn_intercalate sep h hne

/-- Text without a separator is one piece. -/
theorem pieces_of_not_mem {s : List Char} (h : sep ∉ s) : pieces sep s = [s] := by
  have hone : pieces sep ([sep].intercalate [s]) = [s] :=
    pieces_intercalate (by simp) (by simpa using h)
  rwa [List.intercalate_singleton] at hone

/-- Around a separator the pieces are those of both sides. -/
theorem pieces_append_cons (s t : List Char) :
    pieces sep (s ++ sep :: t) = pieces sep s ++ pieces sep t := by
  rw [pieces_eq_splitOn, pieces_eq_splitOn, pieces_eq_splitOn, List.splitOn_append_cons_self]

/-- Text without a separator makes the last piece longer. -/
theorem exists_pieces_append (s : List Char) {t : List Char} (h : sep ∉ t) :
    ∃ first last, pieces sep s = first ++ [last] ∧ pieces sep (s ++ t) = first ++ [last ++ t] := by
  induction s with
  | nil => exact ⟨[], [], rfl, pieces_of_not_mem h⟩
  | cons c s ih =>
    obtain ⟨first, last, hs, hst⟩ := ih
    rw [List.cons_append, pieces, pieces, hs, hst]
    split
    · exact ⟨[] :: first, last, rfl, rfl⟩
    · cases first with
      | nil => exact ⟨[], c :: last, rfl, rfl⟩
      | cons piece more => exact ⟨(c :: piece) :: more, last, rfl, rfl⟩

/-- A piece stands in the text. -/
theorem infix_of_mem_pieces {s piece : List Char} (h : piece ∈ pieces sep s) : piece <:+: s := by
  have hjoined : ∀ parts : List (List Char), piece ∈ parts →
      piece <:+: [sep].intercalate parts := by
    intro parts
    induction parts with
    | nil => exact fun hp => absurd hp List.not_mem_nil
    | cons first rest ih =>
      intro hp
      cases rest with
      | nil =>
        obtain rfl := List.mem_singleton.mp hp
        simp only [List.intercalate_singleton, List.infix_rfl]
      | cons second more =>
        rw [List.intercalate_cons_cons]
        rcases List.mem_cons.mp hp with rfl | hp
        · exact ⟨[], _, by rw [List.nil_append, List.append_assoc]⟩
        · exact (ih hp).trans (List.suffix_append _ _).isInfix
  have hwithin := hjoined _ h
  rwa [intercalate_pieces] at hwithin

/-- A text without the separator that begins a text begins what stands before the separator. -/
theorem prefix_of_prefix_append_cons {part s t : List Char} (hfree : sep ∉ part)
    (h : part <+: s ++ sep :: t) : part <+: s := by
  have hbefore : s ++ [sep] <+: s ++ sep :: t :=
    ⟨t, by rw [List.append_assoc, List.singleton_append]⟩
  rcases List.prefix_or_prefix_of_prefix h hbefore with hpart | hpart
  · rcases List.prefix_concat_iff.mp hpart with rfl | hpart
    · exact absurd (by simp) hfree
    · exact hpart
  · exact absurd (hpart.subset (by simp)) hfree

/-- What stands before and after the last separator of a text is determined. -/
theorem append_cons_inj {s t u v : List Char} (hu : sep ∉ u) (hv : sep ∉ v)
    (h : s ++ sep :: u = t ++ sep :: v) : s = t ∧ u = v := by
  have hcut : ∀ a b : List Char, sep ∉ b →
      cut sep (a ++ sep :: b).reverse = some (b.reverse, a.reverse) := by
    intro a b hb
    rw [List.reverse_append, List.reverse_cons, List.append_assoc, List.singleton_append]
    exact cut_append (by rwa [List.mem_reverse]) a.reverse
  have heq := hcut s u hu
  rw [h, hcut t v hv, Option.some.injEq, Prod.mk.injEq, List.reverse_inj, List.reverse_inj] at heq
  exact ⟨heq.2.symm, heq.1.symm⟩

end Text

namespace Params

/-- The query of a list of pairs. -/
def joinPairs (pairs : List (String × String)) : String :=
  String.ofList (['&'].intercalate (pairs.map pairText))

theorem queryText_eq_joinPairs (p : Params) : p.queryText = joinPairs p.entries := rfl

/-- No name holds `&` or `=`, and no value holds `&`. -/
def Separated (pairs : List (String × String)) : Prop :=
  ∀ p ∈ pairs, '&' ∉ p.1.toList ∧ '=' ∉ p.1.toList ∧ '&' ∉ p.2.toList

theorem separated_append {ps qs : List (String × String)} :
    Separated (ps ++ qs) ↔ Separated ps ∧ Separated qs :=
  List.forall_mem_append

/-- A pair is read back from its text. -/
theorem segmentPair_pairText {p : String × String} (h : '=' ∉ p.1.toList) :
    segmentPair (pairText p) = p := by
  rw [segmentPair, pairText, Text.cut_append h]
  simp only [String.ofList_toList]

theorem amp_not_mem_pairText {p : String × String} (hn : '&' ∉ p.1.toList)
    (hv : '&' ∉ p.2.toList) : '&' ∉ pairText p := by
  rw [pairText, List.mem_append, List.mem_cons]
  rintro (h | h | h)
  · exact hn h
  · exact absurd h (by decide)
  · exact hv h

theorem pairText_ne_nil (p : String × String) : pairText p ≠ [] := by
  simp [pairText]

/-- Separated pairs are read back from their query, in order. -/
theorem queryPairs_joinPairs {pairs : List (String × String)} (h : Separated pairs) :
    queryPairs (joinPairs pairs) = pairs := by
  rw [queryPairs, joinPairs, String.toList_ofList]
  by_cases hne : pairs = []
  · subst hne
    rfl
  · have hparts : ∀ s ∈ pairs.map pairText, '&' ∉ s := by
      intro s hs
      obtain ⟨p, hp, rfl⟩ := List.mem_map.mp hs
      obtain ⟨hn, -, hv⟩ := h p hp
      exact amp_not_mem_pairText hn hv
    have hfull : ∀ s ∈ pairs.map pairText, decide (s ≠ []) = true := by
      intro s hs
      obtain ⟨p, -, rfl⟩ := List.mem_map.mp hs
      exact decide_eq_true (pairText_ne_nil p)
    have hread : pairs.map (segmentPair ∘ pairText) = pairs.map id :=
      List.map_congr_left fun p hp => segmentPair_pairText (h p hp).2.1
    rw [Text.pieces_intercalate (by simpa using hne) hparts, List.filter_eq_self.mpr hfull,
      List.map_map, hread, List.map_id]

/-- Whatever the query is, the pairs that are read from it are separated. -/
theorem separated_queryPairs (query : String) : Separated (queryPairs query) := by
  intro p hp
  obtain ⟨segment, hs, rfl⟩ := List.mem_map.mp hp
  have hamp : '&' ∉ segment := Text.not_mem_of_mem_pieces (List.mem_filter.mp hs).1
  rw [segmentPair]
  cases hc : Text.cut '=' segment with
  | none =>
    simp only [String.toList_ofList]
    exact ⟨hamp, Text.cut_eq_none_iff.mp hc, by simp⟩
  | some parts =>
    obtain ⟨name, value⟩ := parts
    rw [Text.eq_of_cut hc, List.mem_append, List.mem_cons, not_or, not_or] at hamp
    simp only [String.toList_ofList]
    exact ⟨hamp.1, Text.not_mem_of_cut hc, hamp.2.2⟩

/-- The entries of a table made from separated pairs are separated. -/
theorem separated_entries_ofList {pairs : List (String × String)} (h : Separated pairs) :
    Separated (Table.ofList pairs : Params).entries := by
  intro e he
  obtain ⟨hs, hv⟩ := (Table.mem_entries_ofList pairs e).mp he
  obtain ⟨-, p, hp, hpe⟩ := Table.of_firstSpelling? hs
  obtain ⟨q, hq, -, hqe⟩ := Table.of_lastValue? hv
  rw [← hpe, ← hqe]
  exact ⟨(h p hp).1, (h p hp).2.1, (h q hq).2.2⟩

/-! ### Parameters and their query -/

/-- The query of the parameters that a query says. -/
def normalized (query : String) : String :=
  (insertQuery Table.empty query).queryText

theorem separated_insertQuery (query : String) :
    Separated (insertQuery Table.empty query).entries :=
  separated_entries_ofList (separated_queryPairs query)

/-- Separated parameters are read back from their query. -/
theorem insertQuery_queryText {p : Params} (h : Separated p.entries) :
    insertQuery Table.empty p.queryText = p := by
  rw [insertQuery, queryText_eq_joinPairs, queryPairs_joinPairs h]
  exact p.ofList_entries

/-- Parameters are read back from their query exactly if no name holds a separator and no value
holds an ampersand. What is read from a query is of this kind, so a query that was read and written
says the same as before and is not changed again. -/
theorem entries_insertQuery_queryText_iff :
    (∀ p : Params, (insertQuery Table.empty p.queryText).entries = p.entries ↔
      ∀ e ∈ p.entries, '&' ∉ e.1.toList ∧ '=' ∉ e.1.toList ∧ '&' ∉ e.2.toList) ∧
    ∀ query : String,
      insertQuery Table.empty (normalized query) = insertQuery Table.empty query ∧
        normalized (normalized query) = normalized query := by
  have hread (query : String) :
      insertQuery Table.empty (normalized query) = insertQuery Table.empty query :=
    insertQuery_queryText (separated_insertQuery query)
  constructor
  · intro p
    constructor
    · intro h
      have hseparated : Separated (insertQuery Table.empty p.queryText).entries :=
        separated_insertQuery p.queryText
      rw [h] at hseparated
      exact hseparated
    · intro h
      rw [insertQuery_queryText h]
  · intro query
    refine ⟨hread query, ?_⟩
    show (insertQuery Table.empty (normalized query)).queryText = normalized query
    rw [hread query]
    rfl

/-- A value may hold `=`, names and values may be empty, and a name keeps its first spelling. -/
example : normalized "b=1&&=&B=x=y&a" = "=&a=&b=x=y" := by
  decide +kernel

end Params

end RequestSigning
