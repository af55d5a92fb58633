import Mathlib.Data.List.Pairwise
import RequestSigning.Table

/-!
# Tables after any number of writes

A table is written to pair by pair. What it holds in the end is said here by the written pairs
alone, without the table: the spelling of a name is the one written first, and its value is the one
written last.

* `Table.firstSpelling?`, `Table.lastValue?`: what a list of pairs says about a name.
* `Table.Distinct`: pairs of which no two have the same name.
* `Table.spelling?`: the spelling of a name in a table, beside `Table.get?`, its value.
* `Table.mem_entries_iff`: an entry is the spelling and the value of its own name.
* `Table.get?_insertAll`, `Table.spelling?_insertAll`: both after a run of writes.
* `Table.mem_entries_ofList`: the entries of a table made from pairs.
* `Table.entries_eq_of_mem_iff`: a table is determined by what its entries are.
* `Table.Agree`: pairs that say the same, with `Table.Distinct.agree_of_perm` and
  `Table.Agree.ofList_eq`: writes to distinct names may come in any order.
-/

namespace RequestSigning.Table

variable {fold : String → List Char}

/-! ### What pairs say about a name -/

/-- The spelling of a name in the first pair that has it. -/
def firstSpelling? (fold : String → List Char) (pairs : List (String × String)) (name : String) :
    Option String :=
  (pairs.find? fun p => fold p.1 = fold name).map (·.1)

/-- The value of a name in the last pair that has it. -/
def lastValue? (fold : String → List Char) (pairs : List (String × String)) (name : String) :
    Option String :=
  (pairs.reverse.find? fun p => fold p.1 = fold name).map (·.2)

/-- The spelling of a name in a table. -/
def spelling? (t : Table fold) (name : String) : Option String :=
  (t.entries.find? fun e => fold e.1 = fold name).map (·.1)

@[simp] theorem firstSpelling?_nil (name : String) : firstSpelling? fold [] name = none := rfl

@[simp] theorem lastValue?_nil (name : String) : lastValue? fold [] name = none := rfl

theorem firstSpelling?_append (ps qs : List (String × String)) (name : String) :
    firstSpelling? fold (ps ++ qs) name =
      (firstSpelling? fold ps name).or (firstSpelling? fold qs name) := by
  simp only [firstSpelling?, List.find?_append, Option.map_or]

theorem lastValue?_append (ps qs : List (String × String)) (name : String) :
    lastValue? fold (ps ++ qs) name =
      (lastValue? fold qs name).or (lastValue? fold ps name) := by
  simp only [lastValue?, List.reverse_append, List.find?_append, Option.map_or]

theorem firstSpelling?_singleton (p : String × String) (name : String) :
    firstSpelling? fold [p] name = if fold p.1 = fold name then some p.1 else none := by
  by_cases h : fold p.1 = fold name <;> simp [firstSpelling?, h]

theorem lastValue?_singleton (p : String × String) (name : String) :
    lastValue? fold [p] name = if fold p.1 = fold name then some p.2 else none := by
  by_cases h : fold p.1 = fold name <;> simp [lastValue?, h]

/-- A name has a spelling as soon as one pair has it. -/
theorem exists_firstSpelling? {pairs : List (String × String)} {p : String × String}
    {name : String} (hp : p ∈ pairs) (hn : fold p.1 = fold name) :
    ∃ s, firstSpelling? fold pairs name = some s := by
  cases hf : pairs.find? fun q => decide (fold q.1 = fold name) with
  | none =>
    have := List.find?_eq_none.mp hf p hp
    simp [hn] at this
  | some q => exact ⟨q.1, by rw [firstSpelling?, hf]; rfl⟩

/-- The spelling of a name is written in one of the pairs, and it is that name. -/
theorem of_firstSpelling? {pairs : List (String × String)} {name s : String}
    (h : firstSpelling? fold pairs name = some s) :
    fold s = fold name ∧ ∃ p ∈ pairs, p.1 = s := by
  obtain ⟨p, hp, rfl⟩ := Option.map_eq_some_iff.mp h
  have hn := List.find?_some hp
  exact ⟨by simpa using hn, p, List.mem_of_find?_eq_some hp, rfl⟩

/-- The value of a name is written in one of the pairs that have it. -/
theorem of_lastValue? {pairs : List (String × String)} {name v : String}
    (h : lastValue? fold pairs name = some v) :
    ∃ p ∈ pairs, fold p.1 = fold name ∧ p.2 = v := by
  obtain ⟨p, hp, rfl⟩ := Option.map_eq_some_iff.mp h
  have hn := List.find?_some hp
  exact ⟨p, List.mem_reverse.mp (List.mem_of_find?_eq_some hp), by simpa using hn, rfl⟩

/-- Pairs that do not have a name give it no value. -/
theorem lastValue?_eq_none {pairs : List (String × String)} {name : String}
    (h : ∀ p ∈ pairs, fold p.1 ≠ fold name) : lastValue? fold pairs name = none := by
  cases hv : lastValue? fold pairs name with
  | none => rfl
  | some v =>
    obtain ⟨p, hp, hn, -⟩ := of_lastValue? hv
    exact absurd hn (h p hp)

/-! ### Distinct names -/

/-- Pairs of which no two have the same name. -/
def Distinct (fold : String → List Char) (pairs : List (String × String)) : Prop :=
  pairs.Pairwise fun p q => fold p.1 ≠ fold q.1

instance (pairs : List (String × String)) : Decidable (Distinct fold pairs) :=
  inferInstanceAs (Decidable (List.Pairwise _ _))

section Distinct

variable {ps qs : List (String × String)}

theorem Distinct.perm (h : Distinct fold ps) (hp : ps.Perm qs) : Distinct fold qs :=
  (hp.pairwise_iff Ne.symm).mp h

theorem Distinct.eq_of_fold_eq (h : Distinct fold ps) {p q : String × String} (hp : p ∈ ps)
    (hq : q ∈ ps) (hn : fold p.1 = fold q.1) : p = q := by
  have hsymm : Std.Symm fun p q : String × String => fold p.1 ≠ fold q.1 := ⟨fun _ _ => Ne.symm⟩
  by_contra hne
  exact List.Pairwise.forall h hp hq hne hn

/-- The first pair that has a name is the only one. -/
theorem Distinct.find?_eq_some_iff (h : Distinct fold ps) {p : String × String} {name : String} :
    (ps.find? fun q => fold q.1 = fold name) = some p ↔ p ∈ ps ∧ fold p.1 = fold name := by
  constructor
  · intro hf
    exact ⟨List.mem_of_find?_eq_some hf, by simpa using List.find?_some hf⟩
  · rintro ⟨hp, hn⟩
    cases hf : ps.find? fun q => decide (fold q.1 = fold name) with
    | none =>
      have := List.find?_eq_none.mp hf p hp
      simp [hn] at this
    | some q =>
      have hq : fold q.1 = fold name := by simpa using List.find?_some hf
      rw [h.eq_of_fold_eq (List.mem_of_find?_eq_some hf) hp (hq.trans hn.symm)]

/-- The pair that is found does not depend on the order. -/
theorem Distinct.find?_perm (h : Distinct fold ps) (hp : ps.Perm qs) (name : String) :
    (ps.find? fun p => fold p.1 = fold name) = qs.find? fun p => fold p.1 = fold name := by
  ext p
  rw [h.find?_eq_some_iff, (h.perm hp).find?_eq_some_iff, hp.mem_iff]

end Distinct

/-! ### Entries as spelling and value of their names -/

theorem distinct_entries (t : Table fold) : Distinct fold t.entries :=
  t.ascending.imp Text.ne_of_before

/-- No two entries have the same name. -/
theorem eq_of_fold_eq (t : Table fold) {d e : String × String} (hd : d ∈ t.entries)
    (he : e ∈ t.entries) (h : fold d.1 = fold e.1) : d = e :=
  t.distinct_entries.eq_of_fold_eq hd he h

theorem find?_of_mem (t : Table fold) {e : String × String} {name : String} (he : e ∈ t.entries)
    (h : fold e.1 = fold name) :
    (t.entries.find? fun d => fold d.1 = fold name) = some e :=
  t.distinct_entries.find?_eq_some_iff.mpr ⟨he, h⟩

/-- The entries of a table are told by spellings and values alone. -/
theorem mem_entries_iff (t : Table fold) (e : String × String) :
    e ∈ t.entries ↔ t.spelling? e.1 = some e.1 ∧ t.get? e.1 = some e.2 := by
  constructor
  · intro he
    have hf := t.find?_of_mem he rfl
    exact ⟨by rw [spelling?, hf]; rfl, by rw [get?, hf]; rfl⟩
  · rintro ⟨hs, hv⟩
    obtain ⟨d, hd, hds⟩ := Option.map_eq_some_iff.mp hs
    obtain ⟨d', hd', hdv⟩ := Option.map_eq_some_iff.mp hv
    have heq : d = d' := Option.some.inj (hd.symm.trans hd')
    have : d = e := Prod.ext hds (by rw [heq]; exact hdv)
    rw [← this]
    exact List.mem_of_find?_eq_some hd

/-! ### One write, and a run of writes -/

/-- A write gives a name its spelling only if the name has none yet. -/
theorem spelling?_insert (t : Table fold) (name value other : String) :
    (t.insert name value).spelling? other =
      (t.spelling? other).or (firstSpelling? fold [(name, value)] other) := by
  rw [firstSpelling?_singleton, spelling?, spelling?, entries_insert,
    find?_insertEntry name value other t.ascending]
  by_cases hn : fold name = fold other
  · rw [if_pos hn, if_pos hn]
    cases t.entries.find? fun e => decide (fold e.1 = fold other) <;> rfl
  · rw [if_neg hn, if_neg hn, Option.or_none]

/-- After a run of writes a name has the value written last, or else the one it had before. -/
theorem get?_insertAll (t : Table fold) (pairs : List (String × String)) (name : String) :
    (t.insertAll pairs).get? name = (lastValue? fold pairs name).or (t.get? name) := by
  induction pairs generalizing t with
  | nil => simp
  | cons p rest ih =>
    rw [insertAll_cons, ih, ← List.singleton_append, lastValue?_append, lastValue?_singleton,
      get?_insert, Option.or_assoc]
    congr 1
    split <;> rfl

/-- After a run of writes a name has the spelling it had before, or else the one written first. -/
theorem spelling?_insertAll (t : Table fold) (pairs : List (String × String)) (name : String) :
    (t.insertAll pairs).spelling? name =
      (t.spelling? name).or (firstSpelling? fold pairs name) := by
  induction pairs generalizing t with
  | nil => simp
  | cons p rest ih =>
    rw [insertAll_cons, ih, spelling?_insert, Option.or_assoc, ← firstSpelling?_append,
      List.singleton_append]

/-! ### Tables made from pairs -/

theorem get?_ofList (pairs : List (String × String)) (name : String) :
    (ofList pairs : Table fold).get? name = lastValue? fold pairs name := by
  rw [ofList, get?_insertAll, get?_empty, Option.or_none]

theorem spelling?_ofList (pairs : List (String × String)) (name : String) :
    (ofList pairs : Table fold).spelling? name = firstSpelling? fold pairs name := by
  rw [ofList, spelling?_insertAll]
  rfl

/-- The entries of a table made from pairs: each name once, as it was spelled first, with the value
it was given last. -/
theorem mem_entries_ofList (pairs : List (String × String)) (e : String × String) :
    e ∈ (ofList pairs : Table fold).entries ↔
      firstSpelling? fold pairs e.1 = some e.1 ∧ lastValue? fold pairs e.1 = some e.2 := by
  rw [mem_entries_iff, get?_ofList, spelling?_ofList]

/-- Every name of the pairs has an entry. -/
theorem exists_mem_ofList {pairs : List (String × String)} {p : String × String}
    (hp : p ∈ pairs) : ∃ e ∈ (ofList pairs : Table fold).entries, fold e.1 = fold p.1 := by
  have hex : ∃ s, firstSpelling? fold pairs p.1 = some s := exists_firstSpelling? hp rfl
  obtain ⟨s, hs⟩ := hex
  rw [← spelling?_ofList] at hs
  obtain ⟨e, he, -⟩ := Option.map_eq_some_iff.mp hs
  exact ⟨e, List.mem_of_find?_eq_some he, by simpa using List.find?_some he⟩

/-- If no two pairs have the same name, then the entries are the pairs. -/
theorem mem_entries_ofList_of_distinct {pairs : List (String × String)}
    (h : ∀ p ∈ pairs, ∀ q ∈ pairs, fold p.1 = fold q.1 → p = q) (e : String × String) :
    e ∈ (ofList pairs : Table fold).entries ↔ e ∈ pairs := by
  have hsub : ∀ d ∈ (ofList pairs : Table fold).entries, d ∈ pairs := by
    intro d hd
    obtain ⟨hs, hv⟩ := (mem_entries_ofList pairs d).mp hd
    obtain ⟨-, p, hp, hpd⟩ := of_firstSpelling? hs
    obtain ⟨q, hq, hqn, hqd⟩ := of_lastValue? hv
    have hpq : p = q := h p hp q hq (by rw [hpd, hqn])
    have hd' : d = p := Prod.ext hpd.symm (by rw [hpq]; exact hqd.symm)
    rw [hd']
    exact hp
  refine ⟨hsub e, fun he => ?_⟩
  have hex : ∃ d ∈ (ofList pairs : Table fold).entries, fold d.1 = fold e.1 :=
    exists_mem_ofList he
  obtain ⟨d, hd, hn⟩ := hex
  rw [← h d (hsub d hd) e he hn]
  exact hd

/-- A written pair stays as it is if its name is not written again. -/
theorem mem_entries_ofList_append {ps qs : List (String × String)} {e : String × String}
    (he : e ∈ (ofList ps : Table fold).entries) (h : ∀ q ∈ qs, fold q.1 ≠ fold e.1) :
    e ∈ (ofList (ps ++ qs) : Table fold).entries := by
  obtain ⟨hs, hv⟩ := (mem_entries_ofList ps e).mp he
  rw [mem_entries_ofList, firstSpelling?_append, lastValue?_append, lastValue?_eq_none h, hs, hv]
  exact ⟨rfl, rfl⟩

/-- A write leaves the entries of other names alone. -/
theorem mem_entries_insert_of_ne (t : Table fold) {name value : String} {e : String × String}
    (h : fold name ≠ fold e.1) : e ∈ (t.insert name value).entries ↔ e ∈ t.entries := by
  rw [mem_entries_iff, mem_entries_iff, spelling?_insert, get?_insert, firstSpelling?_singleton,
    if_neg h, if_neg h, Option.or_none]

/-! ### Tables with the same entries -/

theorem nodup_of_ascending {l : List (String × String)}
    (h : l.Pairwise fun a b => Text.before (fold a.1) (fold b.1) = true) : l.Nodup := by
  refine h.imp fun {a b} hab heq => ?_
  exact Text.ne_of_before hab (by rw [heq])

/-- The order leaves no choice: an ascending list that holds the entries of a table is the list of
its entries. -/
theorem entries_eq_of_mem_iff (t : Table fold) {l : List (String × String)}
    (hl : l.Pairwise fun a b => Text.before (fold a.1) (fold b.1) = true)
    (h : ∀ e, e ∈ t.entries ↔ e ∈ l) : t.entries = l := by
  have hperm : t.entries.Perm l :=
    (List.perm_ext_iff_of_nodup (nodup_of_ascending t.ascending) (nodup_of_ascending hl)).mpr h
  refine List.Perm.eq_of_pairwise (fun a b _ _ hab hba => ?_) t.ascending hl hperm
  exact absurd rfl (Text.ne_of_before (Text.before_trans hab hba))

/-- A second write of the same pair changes nothing. -/
theorem insert_insert (t : Table fold) (name value : String) :
    (t.insert name value).insert name value = t.insert name value := by
  refine ext (entries_eq_of_mem_iff _ (ascending _) fun e => ?_)
  rw [mem_entries_iff, mem_entries_iff, spelling?_insert, get?_insert, spelling?_insert,
    get?_insert, Option.or_assoc, Option.or_self]
  split <;> rfl

/-- Pairs that can be put into ascending order are the entries of the table made from them. -/
theorem entries_ofList_of_mem_iff {pairs l : List (String × String)}
    (hl : l.Pairwise fun a b => Text.before (fold a.1) (fold b.1) = true)
    (h : ∀ e, e ∈ pairs ↔ e ∈ l) : (ofList pairs : Table fold).entries = l := by
  refine entries_eq_of_mem_iff _ hl fun e => ?_
  rw [mem_entries_ofList_of_distinct, h]
  intro p hp q hq hn
  exact eq_of_fold_eq ⟨l, hl⟩ ((h p).mp hp) ((h q).mp hq) hn

/-- A table is made from its own entries. -/
theorem ofList_entries (t : Table fold) : ofList t.entries = t :=
  ext (entries_ofList_of_mem_iff t.ascending fun _ => Iff.rfl)

theorem insertAll_eq_ofList (t : Table fold) (pairs : List (String × String)) :
    t.insertAll pairs = ofList (t.entries ++ pairs) := by
  rw [ofList, insertAll_append]
  exact congrArg (·.insertAll pairs) t.ofList_entries.symm

/-! ### The order of writes -/

/-- Pairs that say the same about every name as other pairs. -/
structure Agree (fold : String → List Char) (ps qs : List (String × String)) : Prop where
  spelling : ∀ name, firstSpelling? fold ps name = firstSpelling? fold qs name
  value : ∀ name, lastValue? fold ps name = lastValue? fold qs name

section Agree

variable {ps qs ps' qs' : List (String × String)}

theorem agree_refl (ps : List (String × String)) : Agree fold ps ps :=
  ⟨fun _ => rfl, fun _ => rfl⟩

theorem Agree.append (h : Agree fold ps qs) (h' : Agree fold ps' qs') :
    Agree fold (ps ++ ps') (qs ++ qs') := by
  refine ⟨fun name => ?_, fun name => ?_⟩
  · rw [firstSpelling?_append, firstSpelling?_append, h.spelling, h'.spelling]
  · rw [lastValue?_append, lastValue?_append, h.value, h'.value]

/-- Pairs with distinct names say the same in every order. -/
theorem Distinct.agree_of_perm (h : Distinct fold ps) (hp : ps.Perm qs) : Agree fold ps qs := by
  refine ⟨fun name => ?_, fun name => ?_⟩
  · rw [firstSpelling?, firstSpelling?, h.find?_perm hp]
  · have hback : ps.reverse.Perm qs.reverse :=
      (List.reverse_perm ps).trans (hp.trans (List.reverse_perm qs).symm)
    rw [lastValue?, lastValue?, (h.perm (List.reverse_perm ps).symm).find?_perm hback]

/-- Pairs that say the same make the same table. -/
theorem Agree.ofList_eq (h : Agree fold ps qs) : (ofList ps : Table fold) = ofList qs := by
  refine ext (entries_eq_of_mem_iff _ (ascending _) fun e => ?_)
  rw [mem_entries_ofList, mem_entries_ofList, h.spelling, h.value]

end Agree

end RequestSigning.Table
