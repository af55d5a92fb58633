/-!
# Cutting text at separators

* `Text.cut`: what stands before and after the first occurrence of a character.
* `Text.behind?`: what follows the start of a text.
* `Text.cutAt`: what stands before and after the first occurrence of a marker of several
  characters.
* `Text.pieces`: the text between all occurrences of a character, one piece more than there are
  occurrences.

A cut loses nothing and its first part is free of the separator (`eq_of_cut`, `not_mem_of_cut`), so
there is one way to cut (`cut_inj`), and the pieces joined again give the text
(`intercalate_pieces`).
-/

namespace RequestSigning.Text

/-- What stands before and after the first `sep`, or `none` if there is none. -/
def cut (sep : Char) : List Char → Option (List Char × List Char)
  | [] => none
  | c :: rest =>
    if c = sep then some ([], rest) else (cut sep rest).map fun p => (c :: p.1, p.2)

/-- What follows `start` in a text that begins with it. -/
def behind? : List Char → List Char → Option (List Char)
  | [], s => some s
  | _ :: _, [] => none
  | c :: start, d :: s => if c = d then behind? start s else none

/-- What stands before and after the first occurrence of `marker`, or `none` if there is none. -/
def cutAt (marker : List Char) : List Char → Option (List Char × List Char)
  | [] => none
  | c :: rest =>
    match behind? marker (c :: rest) with
    | some after => some ([], after)
    | none => (cutAt marker rest).map fun p => (c :: p.1, p.2)

/-- The text between the occurrences of `sep`. -/
def pieces (sep : Char) : List Char → List (List Char)
  | [] => [[]]
  | c :: rest =>
    if c = sep then [] :: pieces sep rest
    else
      match pieces sep rest with
      | [] => [[c]]
      | first :: more => (c :: first) :: more

/-! ### Laws of a cut -/

theorem eq_of_cut {sep : Char} {s before after : List Char}
    (h : cut sep s = some (before, after)) : s = before ++ sep :: after := by
  induction s generalizing before with
  | nil => simp [cut] at h
  | cons c rest ih =>
    rw [cut] at h
    split at h
    · rename_i hc
      simp_all
    · cases hr : cut sep rest with
      | none => simp [hr] at h
      | some p =>
        simp only [hr, Option.map_some, Option.some.injEq, Prod.mk.injEq] at h
        rw [@ih p.1 (by rw [hr, ← h.2])]
        simp [← h.1]

theorem not_mem_of_cut {sep : Char} {s before after : List Char}
    (h : cut sep s = some (before, after)) : sep ∉ before := by
  induction s generalizing before with
  | nil => simp [cut] at h
  | cons c rest ih =>
    rw [cut] at h
    split at h
    · simp_all
    · rename_i hc
      cases hr : cut sep rest with
      | none => simp [hr] at h
      | some p =>
        simp only [hr, Option.map_some, Option.some.injEq, Prod.mk.injEq] at h
        have := @ih p.1 (by rw [hr, ← h.2])
        rw [← h.1]
        simp only [List.mem_cons, not_or]
        exact ⟨fun e => hc e.symm, this⟩

/-- Text of the form `before ++ sep :: after` is cut there if `before` is free of `sep`. -/
theorem cut_append {sep : Char} {before : List Char} (h : sep ∉ before) (after : List Char) :
    cut sep (before ++ sep :: after) = some (before, after) := by
  induction before with
  | nil => simp [cut]
  | cons c rest ih =>
    simp only [List.mem_cons, not_or] at h
    simp [cut, ih h.2, Ne.symm h.1]

/-- A text is cut at its first separator in one way. -/
theorem cut_inj {sep : Char} {s t u v : List Char} (hs : sep ∉ s) (ht : sep ∉ t)
    (h : s ++ sep :: u = t ++ sep :: v) : s = t ∧ u = v := by
  have hcut := cut_append hs u
  rw [h, cut_append ht v, Option.some.injEq, Prod.mk.injEq] at hcut
  exact ⟨hcut.1.symm, hcut.2.symm⟩

theorem cut_eq_none_iff {sep : Char} {s : List Char} : cut sep s = none ↔ sep ∉ s := by
  induction s with
  | nil => simp [cut]
  | cons c rest ih =>
    by_cases hc : c = sep
    · simp [cut, hc]
    · simp [cut, hc, ih, Ne.symm hc]

theorem length_of_cut {sep : Char} {s before after : List Char}
    (h : cut sep s = some (before, after)) : after.length < s.length := by
  rw [eq_of_cut h]
  simp only [List.length_append, List.length_cons]
  omega

theorem eq_append_of_behind? {start s after : List Char} (h : behind? start s = some after) :
    s = start ++ after := by
  induction start generalizing s with
  | nil => simpa [behind?] using h
  | cons c rest ih =>
    cases s with
    | nil => simp [behind?] at h
    | cons d more =>
      rw [behind?] at h
      split at h
      · rename_i hc
        rw [ih h, hc, List.cons_append]
      · exact absurd h (by simp)

theorem behind?_append (start after : List Char) : behind? start (start ++ after) = some after := by
  induction start with
  | nil => rfl
  | cons c rest ih => simp [behind?, ih]

theorem eq_of_cutAt {marker s before after : List Char}
    (h : cutAt marker s = some (before, after)) : s = before ++ marker ++ after := by
  induction s generalizing before with
  | nil => simp [cutAt] at h
  | cons c rest ih =>
    rw [cutAt] at h
    split at h
    · rename_i rest' hm
      simp only [Option.some.injEq, Prod.mk.injEq] at h
      rw [← h.1, ← h.2, List.nil_append]
      exact eq_append_of_behind? hm
    · cases hr : cutAt marker rest with
      | none => simp [hr] at h
      | some p =>
        simp only [hr, Option.map_some, Option.some.injEq, Prod.mk.injEq] at h
        rw [@ih p.1 (by rw [hr, ← h.2])]
        simp [← h.1]

theorem length_of_cutAt {marker s before after : List Char} (hm : marker ≠ [])
    (h : cutAt marker s = some (before, after)) : after.length < s.length := by
  rw [eq_of_cutAt h]
  have := List.length_pos_iff.mpr hm
  simp only [List.length_append]
  omega

/-! ### Laws of pieces -/

theorem pieces_ne_nil (sep : Char) (s : List Char) : pieces sep s ≠ [] := by
  cases s with
  | nil => simp [pieces]
  | cons c rest =>
    rw [pieces]
    split
    · simp
    · split <;> simp

/-- The pieces joined by the separator give the text again. -/
theorem intercalate_pieces (sep : Char) (s : List Char) :
    [sep].intercalate (pieces sep s) = s := by
  induction s with
  | nil => simp [pieces, List.intercalate]
  | cons c rest ih =>
    rw [pieces]
    cases hp : pieces sep rest with
    | nil => exact absurd hp (pieces_ne_nil sep rest)
    | cons first more =>
      rw [hp] at ih
      split
      · rename_i hc
        rw [hc, ← ih]
        simp [List.intercalate, List.intersperse]
      · rw [← ih]
        cases more <;> simp [List.intercalate, List.intersperse]

theorem not_mem_of_mem_pieces {sep : Char} {s piece : List Char} (h : piece ∈ pieces sep s) :
    sep ∉ piece := by
  induction s generalizing piece with
  | nil => simp_all [pieces]
  | cons c rest ih =>
    rw [pieces] at h
    split at h
    · rcases List.mem_cons.mp h with rfl | h
      · simp
      · exact ih h
    · rename_i hc
      cases hp : pieces sep rest with
      | nil => exact absurd hp (pieces_ne_nil sep rest)
      | cons first more =>
        rw [hp] at h ih
        rcases List.mem_cons.mp h with rfl | h
        · simp only [List.mem_cons, not_or]
          exact ⟨fun e => hc e.symm, ih (by simp)⟩
        · exact ih (by simp [h])

end RequestSigning.Text
