import Mathlib.Data.Finset.Card
import RequestSigning.Proofs.Joined
import RequestSigning.Proofs.Letters

/-!
# Signed parameters and the pairs written to them

Parameters are written to pair by pair, by lists of pairs and by queries, in any mixture. What they
hold in the end is said by the list of all written pairs. Names are compared by their folded texts,
and the order of these is the order of signing.

* `Params.compareNames`, `Params.SameName`: the order of names and the names it does not tell apart,
  with the laws of an order (`Std.TransCmp`) and of an equivalence (`Params.equivalence_sameName`).
* `Params.QuerySays`: the pairs of a query, described by its segments.
* `Params.Write`, `Params.write`, `Params.writeAll`: one write and any number of them.
* `Params.Reflects`: what it means that parameters hold the pairs of a list, with
  `Params.reflects_iff`, `Params.Reflects.write` and `Params.Reflects.writeAll`.
* `Params.writeAll_refines`: all this for parameters that begin empty.
-/

namespace RequestSigning

/-! ### The order of texts as a comparison -/

namespace Text

theorem order_eq_lt_iff {s t : List Char} : order s t = .lt ↔ before s t = true := by
  refine ⟨before_of_order_lt, fun h => ?_⟩
  rcases order_cases s t with ⟨hlt, -⟩ | ⟨-, heq⟩ | ⟨-, hafter⟩
  · exact hlt
  · exact absurd heq (ne_of_before h)
  · exact absurd rfl (ne_of_before (before_trans h hafter))

theorem order_eq_gt_iff {s t : List Char} : order s t = .gt ↔ before t s = true := by
  refine ⟨before_of_order_gt, fun h => ?_⟩
  rcases order_cases s t with ⟨-, hbefore⟩ | ⟨-, heq⟩ | ⟨hgt, -⟩
  · exact absurd rfl (ne_of_before (before_trans h hbefore))
  · exact absurd heq.symm (ne_of_before h)
  · exact hgt

theorem order_eq_eq_iff {s t : List Char} : order s t = .eq ↔ s = t := by
  refine ⟨eq_of_order_eq, ?_⟩
  rintro rfl
  rcases order_cases s s with ⟨-, h⟩ | ⟨h, -⟩ | ⟨-, h⟩
  · exact absurd rfl (ne_of_before h)
  · exact h
  · exact absurd rfl (ne_of_before h)

theorem order_swap (s t : List Char) : order s t = (order t s).swap := by
  rcases order_cases t s with ⟨h, hbefore⟩ | ⟨h, heq⟩ | ⟨h, hafter⟩
  · rw [h, order_eq_gt_iff.mpr hbefore, Ordering.swap_lt]
  · rw [h, order_eq_eq_iff.mpr heq.symm, Ordering.swap_eq]
  · rw [h, order_eq_lt_iff.mpr hafter, Ordering.swap_gt]

theorem isLE_order_iff {s t : List Char} : (order s t).isLE = true ↔ before t s = false := by
  rw [← Bool.not_eq_true, ← order_eq_gt_iff]
  cases order s t <;> simp

/-- Orientation and transitivity: texts stand in one line, and equal answers mean equal texts. -/
instance : Std.TransCmp order where
  eq_swap {s t} := order_swap s t
  isLE_trans {s t u} hst htu := by
    rw [isLE_order_iff] at hst htu ⊢
    rw [Bool.eq_false_iff]
    intro hus
    -- `u` comes before `s`, and `t` can stand neither behind `u` nor before `s`
    rcases order_cases s t with ⟨-, h⟩ | ⟨-, rfl⟩ | ⟨-, h⟩
    · rw [before_trans hus h] at htu
      exact absurd htu (by simp)
    · rw [hus] at htu
      exact absurd htu (by simp)
    · rw [h] at hst
      exact absurd hst (by simp)

end Text

/-! ### How many names a table has -/

namespace Table

variable {fold : String → List Char}

/-- A table made from pairs has as many entries as the pairs have different names. -/
theorem size_ofList (pairs : List (String × String)) :
    (ofList pairs : Table fold).size = (pairs.map fun p => fold p.1).toFinset.card := by
  let t : Table fold := ofList pairs
  have hdistinct : (t.entries.map fun e => fold e.1).Nodup :=
    List.pairwise_map.mpr (t.ascending.imp Text.ne_of_before)
  have hnames : (t.entries.map fun e => fold e.1).toFinset =
      (pairs.map fun p => fold p.1).toFinset := by
    ext key
    simp only [List.mem_toFinset, List.mem_map]
    constructor
    · rintro ⟨e, he, rfl⟩
      obtain ⟨hs, -⟩ := (mem_entries_ofList pairs e).mp he
      obtain ⟨-, p, hp, hpe⟩ := of_firstSpelling? hs
      exact ⟨p, hp, by rw [hpe]⟩
    · rintro ⟨p, hp, rfl⟩
      exact exists_mem_ofList hp
  calc t.size = (t.entries.map fun e => fold e.1).length := (List.length_map _).symm
    _ = (t.entries.map fun e => fold e.1).toFinset.card :=
      (List.toFinset_card_of_nodup hdistinct).symm
    _ = (pairs.map fun p => fold p.1).toFinset.card := by rw [hnames]

end Table

namespace Params

/-! ### Names -/

/-- How two names stand to each other in signing order. -/
def compareNames (a b : String) : Ordering :=
  Text.order (Text.folded a) (Text.folded b)

/-- Names that differ in the case of their letters at most. -/
def SameName (a b : String) : Prop :=
  Text.folded a = Text.folded b

theorem equivalence_sameName : Equivalence SameName :=
  eq_equivalence.comap Text.folded

instance : Std.TransCmp compareNames where
  eq_swap := Text.order_swap _ _
  isLE_trans {a b c} hab hbc := by
    have htrans : (Text.order (Text.folded a) (Text.folded c)).isLE = true :=
      Std.TransCmp.isLE_trans hab hbc
    exact htrans

/-- The order does not tell two names apart exactly if they are the same name. -/
theorem compareNames_eq_iff (a b : String) : compareNames a b = .eq ↔ SameName a b :=
  Text.order_eq_eq_iff

/-! ### Queries -/

/-- What a segment says: name and value around its first `=`, or a name with an empty value. -/
inductive SegmentSays : List Char → String × String → Prop
  | pair {name : List Char} (value : List Char) (h : '=' ∉ name) :
    SegmentSays (name ++ '=' :: value) (String.ofList name, String.ofList value)
  | bare {name : List Char} (h : '=' ∉ name) : SegmentSays name (String.ofList name, "")

theorem segmentSays_iff {segment : List Char} {p : String × String} :
    SegmentSays segment p ↔ p = segmentPair segment := by
  constructor
  · intro h
    cases h with
    | pair value h => rw [segmentPair, Text.cut_append h]
    | bare h => rw [segmentPair, Text.cut_eq_none_iff.mpr h]
  · rintro rfl
    rw [segmentPair]
    cases hc : Text.cut '=' segment with
    | none => exact .bare (Text.cut_eq_none_iff.mp hc)
    | some parts =>
      rw [Text.eq_of_cut hc]
      exact .pair parts.2 (Text.not_mem_of_cut hc)

/-- What a query says: it is joined by `&` from segments without `&`, and each segment that is not
empty says one pair, in order. -/
def QuerySays (query : String) (pairs : List (String × String)) : Prop :=
  ∃ segments : List (List Char), segments ≠ [] ∧ (∀ s ∈ segments, '&' ∉ s) ∧
    query.toList = ['&'].intercalate segments ∧
    List.Forall₂ SegmentSays (segments.filter (· ≠ [])) pairs

theorem forall₂_segmentSays_iff {segments : List (List Char)} {pairs : List (String × String)} :
    List.Forall₂ SegmentSays segments pairs ↔ pairs = segments.map segmentPair := by
  induction segments generalizing pairs with
  | nil => simp
  | cons s rest ih =>
    cases pairs with
    | nil => simp
    | cons p more => simp [ih, segmentSays_iff]

/-- A query says one list of pairs: those that are read from it. -/
theorem querySays_iff {query : String} {pairs : List (String × String)} :
    QuerySays query pairs ↔ pairs = queryPairs query := by
  constructor
  · rintro ⟨segments, hne, hfree, hquery, hpairs⟩
    rw [queryPairs, hquery, Text.pieces_intercalate hne hfree]
    exact forall₂_segmentSays_iff.mp hpairs
  · rintro rfl
    exact ⟨Text.pieces '&' query.toList, Text.pieces_ne_nil _ _,
      fun _ hs => Text.not_mem_of_mem_pieces hs, (Text.intercalate_pieces _ _).symm,
      forall₂_segmentSays_iff.mpr rfl⟩

/-! ### Writes -/

/-- One write to the parameters: a pair, a list of pairs, or all pairs of a query. -/
inductive Write where
  | insert (name value : String)
  | insertAll (pairs : List (String × String))
  | insertQuery (query : String)

def write (p : Params) : Write → Params
  | .insert name value => p.insert name value
  | .insertAll pairs => p.insertAll pairs
  | .insertQuery query => p.insertQuery query

def writeAll (p : Params) (writes : List Write) : Params :=
  writes.foldl write p

/-- The pairs that a write inserts, in order. -/
def Write.pairs : Write → List (String × String)
  | .insert name value => [(name, value)]
  | .insertAll pairs => pairs
  | .insertQuery query => queryPairs query

/-- Whatever its form, a write inserts its pairs from first to last. -/
theorem write_eq_insertAll (p : Params) (w : Write) : p.write w = p.insertAll w.pairs := by
  cases w <;> rfl

/-- Parameters that hold the pairs of a list: each name once, in signing order, as it was spelled
first and with the value it was given last. -/
structure Reflects (p : Params) (pairs : List (String × String)) : Prop where
  ascending : p.entries.Pairwise fun a b => compareNames a.1 b.1 = .lt
  entries : ∀ e, e ∈ p.entries ↔
    Table.firstSpelling? Text.folded pairs e.1 = some e.1 ∧
      Table.lastValue? Text.folded pairs e.1 = some e.2
  get? : ∀ name, p.get? name = Table.lastValue? Text.folded pairs name
  size : p.size = (pairs.map fun e => Text.folded e.1).toFinset.card

/-- Only the table that is made from the pairs holds them. -/
theorem reflects_iff {p : Params} {pairs : List (String × String)} :
    p.Reflects pairs ↔ p = Table.ofList pairs := by
  constructor
  · intro h
    refine Table.ext (Table.entries_eq_of_mem_iff p (Table.ascending _) fun e => ?_)
    rw [h.entries e, Table.mem_entries_ofList]
  · rintro rfl
    exact ⟨(Table.ascending _).imp Text.order_eq_lt_iff.mpr, Table.mem_entries_ofList pairs,
      Table.get?_ofList pairs, Table.size_ofList pairs⟩

theorem reflects_empty : Reflects Table.empty [] :=
  reflects_iff.mpr rfl

/-- A write adds its pairs to those that the parameters hold. -/
theorem Reflects.write {p : Params} {pairs : List (String × String)} (h : p.Reflects pairs)
    (w : Write) : (p.write w).Reflects (pairs ++ w.pairs) := by
  rw [reflects_iff] at h ⊢
  rw [write_eq_insertAll, h, Table.ofList, Table.ofList, Table.insertAll_append]

/-- Any number of writes add their pairs, in order. -/
theorem Reflects.writeAll {p : Params} {pairs : List (String × String)} (h : p.Reflects pairs)
    (writes : List Write) : (p.writeAll writes).Reflects (pairs ++ writes.flatMap Write.pairs) := by
  induction writes generalizing p pairs with
  | nil =>
    rw [List.flatMap_nil, List.append_nil]
    exact h
  | cons w rest ih =>
    rw [List.flatMap_cons, ← List.append_assoc]
    exact ih (h.write w)

/-- Parameters that begin empty hold the pairs that are written to them, whatever the writes are.
Names that differ in the case of their letters are one name, and this is what the order of names
orders; below 0x80 no other names are. The pairs of a query are those that its segments say. -/
theorem writeAll_refines (writes : List Write) :
    Equivalence SameName ∧ Std.TransCmp compareNames ∧
      (∀ a b, compareNames a b = .eq ↔ SameName a b) ∧
      (∀ a b, Text.SameLetters a b → SameName a b) ∧
      (∀ a b, (∀ c ∈ a.toList, c.toNat < 0x80) → (∀ c ∈ b.toList, c.toNat < 0x80) →
        (SameName a b ↔ Text.SameLetters a b)) ∧
      (writeAll Table.empty writes).Reflects (writes.flatMap Write.pairs) ∧
      ∀ (p : Params) (query : String) (pairs : List (String × String)),
        (QuerySays query pairs ↔ (Write.insertQuery query).pairs = pairs) ∧
          p.write (.insertQuery query) =
            (Write.insertQuery query).pairs.foldl (fun q e => q.write (.insert e.1 e.2)) p := by
  refine ⟨equivalence_sameName, inferInstance, compareNames_eq_iff,
    fun _ _ => Text.folded_eq_of_sameLetters, fun _ _ => Text.folded_eq_iff_sameLetters,
    reflects_empty.writeAll writes, fun p query pairs => ⟨?_, rfl⟩⟩
  rw [querySays_iff, eq_comm]
  rfl

/-- Two spellings of one name, and another name. The first spelling stays, with the value that the
second one is given in a query. -/
theorem writeAll_refines_spellings :
    let writes : List Write := [.insert "Key" "1", .insertQuery "a&&kEY=x=y"]
    Text.SameLetters "Key" "kEY" ∧ SameName "Key" "kEY" ∧ ¬ SameName "a" "Key" ∧
      (writeAll Table.empty writes).get? "KEY" = some "x=y" ∧
      (writeAll Table.empty writes).size = 2 ∧
      ("Key", "x=y") ∈ (writeAll Table.empty writes).entries ∧
      ("a", "") ∈ (writeAll Table.empty writes).entries := by
  intro writes
  obtain ⟨-, -, -, hsame, hascii, hholds, -⟩ := writeAll_refines writes
  have hletters : Text.SameLetters "Key" "kEY" :=
    (Text.sameAscii_iff_sameLetters _ _).mp (by decide)
  have hlt (s : String) (hs : s.toList.all (·.toNat < 0x80) = true) :
      ∀ c ∈ s.toList, c.toNat < 0x80 :=
    fun c hc => of_decide_eq_true (List.all_eq_true.mp hs c hc)
  have hother : ¬ SameName "a" "Key" := by
    rw [hascii "a" "Key" (hlt _ (by decide)) (hlt _ (by decide)), ← Text.sameAscii_iff_sameLetters]
    decide
  refine ⟨hletters, hsame _ _ hletters, hother, ?_, ?_, ?_, ?_⟩
  · rw [hholds.get?]
    decide +kernel
  · rw [hholds.size]
    decide +kernel
  · rw [hholds.entries]
    decide +kernel
  · rw [hholds.entries]
    decide +kernel

/-- Two spellings of one name, one of them longer: U+0130 folds to two characters. -/
example : (writeAll Table.empty [.insert "\u0130" "1", .insertQuery "b&&I\u0307=x=y"]).entries =
    [("b", ""), ("\u0130", "x=y")] := by
  decide +kernel

end Params

end RequestSigning
