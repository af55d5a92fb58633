import RequestSigning.Text.Order
/-!
# Tables of named values

A table holds name-value pairs in the ascending order of their names, under a reading `fold` that
says when two spellings are one name. Writing to a name that is there replaces its value and keeps
the spelling that came first.

* `Table fold`: the type; `entries` lists its pairs in order.
* `Table.insert`, `Table.insertAll`, `Table.get?`, `Table.filter`: the operations.
* `Dictionary`: tables in which every spelling is a name of its own.

A value that was written is read back under every spelling of its name, and the other names keep
theirs (`get?_insert`).
-/

namespace RequestSigning

/-- Pairs ascending by folded name, hence with no folded name twice. -/
structure Table (fold : String → List Char) where
  entries : List (String × String)
  ascending : entries.Pairwise fun a b => Text.before (fold a.1) (fold b.1) = true

namespace Table

variable {fold : String → List Char}

@[ext] theorem ext {s t : Table fold} (h : s.entries = t.entries) : s = t := by
  cases s
  cases t
  simp_all

instance : DecidableEq (Table fold) := fun s t =>
  decidable_of_iff (s.entries = t.entries) ⟨ext, fun h => h ▸ rfl⟩

/-! ### Operations -/

def empty : Table fold := ⟨[], .nil⟩

instance : Inhabited (Table fold) := ⟨empty⟩

/-- The entries with one more pair, or with the value of that name replaced. The name is given
together with its folded form `key`. -/
def insertEntry (fold : String → List Char) (key : List Char) (name value : String) :
    List (String × String) → List (String × String)
  | [] => [(name, value)]
  | e :: rest =>
    match Text.order key (fold e.1) with
    | .lt => (name, value) :: e :: rest
    | .gt => e :: insertEntry fold key name value rest
    | .eq => (e.1, value) :: rest

/-- Every entry after an insertion has the inserted name or was an entry's name before. -/
theorem fold_of_mem_insertEntry {name value : String} {l : List (String × String)}
    {e : String × String} (h : e ∈ insertEntry fold (fold name) name value l) :
    fold e.1 = fold name ∨ ∃ d ∈ l, fold e.1 = fold d.1 := by
  induction l with
  | nil =>
    simp only [insertEntry, List.mem_singleton] at h
    exact .inl (by rw [h])
  | cons d rest ih =>
    rw [insertEntry] at h
    split at h
    · rcases List.mem_cons.mp h with h | h
      · exact .inl (by rw [h])
      · exact .inr ⟨e, h, rfl⟩
    · rcases List.mem_cons.mp h with h | h
      · exact .inr ⟨d, by simp, by rw [h]⟩
      · rcases ih h with h | ⟨d', hd, h⟩
        · exact .inl h
        · exact .inr ⟨d', by simp [hd], h⟩
    · rcases List.mem_cons.mp h with h | h
      · exact .inr ⟨d, by simp, by rw [h]⟩
      · exact .inr ⟨e, by simp [h], rfl⟩

theorem ascending_insertEntry (name value : String) {l : List (String × String)}
    (h : l.Pairwise fun a b => Text.before (fold a.1) (fold b.1) = true) :
    (insertEntry fold (fold name) name value l).Pairwise fun a b =>
      Text.before (fold a.1) (fold b.1) = true := by
  induction l with
  | nil => simp [insertEntry]
  | cons d rest ih =>
    obtain ⟨hd, hrest⟩ := List.pairwise_cons.mp h
    rw [insertEntry]
    split
    · rename_i horder
      have hlt := Text.before_of_order_lt horder
      refine List.pairwise_cons.mpr ⟨fun e he => ?_, h⟩
      rcases List.mem_cons.mp he with rfl | he
      · exact hlt
      · exact Text.before_trans hlt (hd e he)
    · rename_i horder
      refine List.pairwise_cons.mpr ⟨fun e he => ?_, ih hrest⟩
      rcases fold_of_mem_insertEntry he with h | ⟨d', hd', h⟩
      · rw [h]
        exact Text.before_of_order_gt horder
      · rw [h]
        exact hd d' hd'
    · exact List.pairwise_cons.mpr ⟨fun e he => hd e he, hrest⟩

def insert (t : Table fold) (name value : String) : Table fold :=
  ⟨insertEntry fold (fold name) name value t.entries, ascending_insertEntry name value t.ascending⟩

/-- Pairs are inserted from first to last. -/
def insertAll (t : Table fold) (pairs : List (String × String)) : Table fold :=
  pairs.foldl (fun t p => t.insert p.1 p.2) t

def ofList (pairs : List (String × String)) : Table fold :=
  empty.insertAll pairs

/-- The value of the entry whose name is `name` under some spelling. -/
def get? (t : Table fold) (name : String) : Option String :=
  let key := fold name
  (t.entries.find? fun e => fold e.1 = key).map (·.2)

def size (t : Table fold) : Nat :=
  t.entries.length

/-- The entries whose value satisfies `keep`. -/
def filter (t : Table fold) (keep : String → Bool) : Table fold :=
  ⟨t.entries.filter fun e => keep e.2, t.ascending.filter _⟩

/-! ### What is read after a write -/

@[simp] theorem entries_empty : (empty : Table fold).entries = [] := rfl

@[simp] theorem entries_insert (t : Table fold) (name value : String) :
    (t.insert name value).entries = insertEntry fold (fold name) name value t.entries := rfl

@[simp] theorem entries_filter (t : Table fold) (keep : String → Bool) :
    (t.filter keep).entries = t.entries.filter fun e => keep e.2 := rfl

@[simp] theorem insertAll_nil (t : Table fold) : t.insertAll [] = t := rfl

@[simp] theorem insertAll_cons (t : Table fold) (p : String × String)
    (pairs : List (String × String)) :
    t.insertAll (p :: pairs) = (t.insert p.1 p.2).insertAll pairs := rfl

@[simp] theorem insertAll_append (t : Table fold) (ps qs : List (String × String)) :
    t.insertAll (ps ++ qs) = (t.insertAll ps).insertAll qs :=
  List.foldl_append

@[simp] theorem get?_empty (name : String) : (empty : Table fold).get? name = none := rfl

/-- The entry of a name after a write: it has the written value if that name was written, and the
spelling that came first. -/
theorem find?_insertEntry (name value other : String) {l : List (String × String)}
    (h : l.Pairwise fun a b => Text.before (fold a.1) (fold b.1) = true) :
    ((insertEntry fold (fold name) name value l).find? fun e => fold e.1 = fold other) =
      if fold name = fold other then
        some (((l.find? fun e => fold e.1 = fold other).map (·.1)).getD name, value)
      else l.find? fun e => fold e.1 = fold other := by
  induction l with
  | nil => by_cases hn : fold name = fold other <;> simp [insertEntry, hn]
  | cons d rest ih =>
    obtain ⟨hd, hrest⟩ := List.pairwise_cons.mp h
    rw [insertEntry]
    split
    · rename_i horder
      have hlt := Text.before_of_order_lt horder
      by_cases hn : fold name = fold other
      · -- the written name comes before all others, so it is not among them
        have hnone : ((d :: rest).find? fun e => fold e.1 = fold other) = none := by
          refine List.find?_eq_none.mpr fun e he => ?_
          have hbefore : Text.before (fold name) (fold e.1) = true := by
            rcases List.mem_cons.mp he with rfl | he
            · exact hlt
            · exact Text.before_trans hlt (hd e he)
          rw [decide_eq_true_eq]
          intro heq
          exact Text.ne_of_before hbefore (hn.trans heq.symm)
        rw [if_pos hn, hnone, List.find?_cons_of_pos (by simp [hn])]
        rfl
      · rw [if_neg hn, List.find?_cons_of_neg (by simp [hn])]
    · rename_i horder
      have hlt := Text.before_of_order_gt horder
      by_cases hd' : fold d.1 = fold other
      · have hne : fold name ≠ fold other := by
          intro hn
          exact Text.ne_of_before hlt (hd'.trans hn.symm)
        simp [hd', hne]
      · simp only [List.find?_cons, hd', decide_false]
        exact ih hrest
    · rename_i horder
      have he : fold name = fold d.1 := Text.eq_of_order_eq horder
      by_cases hn : fold d.1 = fold other
      · simp [he, hn]
      · simp [he, hn]

/-- A written value is read under every spelling of its name, and other names keep theirs. -/
theorem get?_insert (t : Table fold) (name value other : String) :
    (t.insert name value).get? other =
      if fold name = fold other then some value else t.get? other := by
  show ((insertEntry fold (fold name) name value t.entries).find? _).map (·.2) = _
  rw [find?_insertEntry name value other t.ascending]
  split <;> rfl

end Table

/-- Tables in which every spelling is a name of its own. -/
abbrev Dictionary := Table String.toList

namespace Dictionary

/-- In a dictionary a write changes the value of that name alone. -/
theorem get?_insert (d : Dictionary) (name value other : String) :
    Table.get? (Table.insert d name value) other =
      if name = other then some value else Table.get? d other := by
  rw [Table.get?_insert]
  simp only [String.toList_inj]

end Dictionary

end RequestSigning
