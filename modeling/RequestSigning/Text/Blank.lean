/-!
# White space and blank text

The white space of this library is the Unicode property `White_Space`, and nothing else: the
separator controls U+001C to U+001F and the zero-width characters are not in it.

* `Text.isSpace`: the property.
* `Text.trimStart`, `Text.trimEnd`, `Text.trim`: text without the white space at its ends.
* `Text.isBlank`: text that is empty or all white space.
-/

namespace RequestSigning.Text

/-- The Unicode property `White_Space`. -/
def isSpace (c : Char) : Bool :=
  let n := c.toNat
  (0x9 ≤ n && n ≤ 0xD) || n == 0x20 || n == 0x85 || n == 0xA0 || n == 0x1680 ||
    (0x2000 ≤ n && n ≤ 0x200A) || n == 0x2028 || n == 0x2029 || n == 0x202F || n == 0x205F ||
    n == 0x3000

/-- The text from its first character that is not white space. -/
def trimStart (s : List Char) : List Char :=
  s.dropWhile isSpace

/-- The text up to its last character that is not white space. -/
def trimEnd (s : List Char) : List Char :=
  (trimStart s.reverse).reverse

/-- The text between its first and last characters that are not white space. -/
def trim (s : String) : String :=
  String.ofList (trimEnd (trimStart s.toList))

/-- Blank text holds no character besides white space. -/
def isBlank (s : String) : Bool :=
  s.toList.all isSpace

/-- Text with a fallback for the blank case. -/
def orIfBlank (s fallback : String) : String :=
  if isBlank s then fallback else s

/-! ### Laws of trimming -/

@[simp] theorem toList_trim (s : String) : (trim s).toList = trimEnd (trimStart s.toList) := by
  simp [trim]

theorem length_trimStart_le (s : List Char) : (trimStart s).length ≤ s.length :=
  (List.dropWhile_suffix isSpace).length_le

theorem trimStart_eq_nil_iff (s : List Char) : trimStart s = [] ↔ ∀ c ∈ s, isSpace c = true := by
  induction s with
  | nil => simp [trimStart]
  | cons c rest ih =>
    by_cases h : isSpace c = true
    · rw [trimStart, List.dropWhile_cons_of_pos h]
      exact ih.trans (by simp [h])
    · rw [trimStart, List.dropWhile_cons_of_neg h]
      simp [h]

theorem trimEnd_eq_nil_iff (s : List Char) : trimEnd s = [] ↔ ∀ c ∈ s, isSpace c = true := by
  simp [trimEnd, trimStart_eq_nil_iff]

theorem trimStart_cons {c : Char} (hc : isSpace c = false) (rest : List Char) :
    trimStart (c :: rest) = c :: rest := by
  rw [trimStart, List.dropWhile_cons_of_neg (by simp [hc])]

/-- The first character that trimming leaves is not white space. -/
theorem isSpace_head_trimStart {s : List Char} {c : Char} (h : (trimStart s).head? = some c) :
    isSpace c = false := by
  have hhead := List.head?_dropWhile_not isSpace s
  rw [trimStart] at h
  rw [h] at hhead
  exact hhead

theorem trimStart_eq_self_of_head {s : List Char} (h : ∀ c, s.head? = some c → isSpace c = false) :
    trimStart s = s := by
  cases s with
  | nil => rfl
  | cons c rest => exact trimStart_cons (h c rfl) rest

theorem trimStart_trimStart (s : List Char) : trimStart (trimStart s) = trimStart s :=
  trimStart_eq_self_of_head fun _ hc => isSpace_head_trimStart hc

theorem trimEnd_isPrefix (s : List Char) : trimEnd s <+: s := by
  have hsuffix : trimStart s.reverse <:+ s.reverse := List.dropWhile_suffix isSpace
  have hprefix := List.reverse_prefix.mpr hsuffix
  rwa [List.reverse_reverse] at hprefix

/-- What trimming leaves stands in the text as it is. -/
theorem trim_infix (s : String) : (trim s).toList <:+: s.toList := by
  rw [toList_trim]
  exact (trimEnd_isPrefix _).isInfix.trans (List.dropWhile_suffix isSpace).isInfix

/-- Trimming twice is trimming once. -/
theorem trim_trim (s : String) : trim (trim s) = trim s := by
  have hstart : trimStart (trimEnd (trimStart s.toList)) = trimEnd (trimStart s.toList) := by
    refine trimStart_eq_self_of_head fun c hc => isSpace_head_trimStart (s := s.toList) ?_
    obtain ⟨rest, hrest⟩ := trimEnd_isPrefix (trimStart s.toList)
    rw [← hrest, List.head?_append, hc]
    rfl
  have hend : trimEnd (trimEnd (trimStart s.toList)) = trimEnd (trimStart s.toList) := by
    rw [trimEnd, trimEnd, List.reverse_reverse, trimStart_trimStart]
  rw [← String.toList_inj, toList_trim, toList_trim, hstart, hend]

/-- A trimmed text does not begin with white space. -/
theorem trimStart_of_trim {s : String} (h : trim s = s) : trimStart s.toList = s.toList := by
  have hlist : trimEnd (trimStart s.toList) = s.toList := by rw [← toList_trim, h]
  have hlength := (trimEnd_isPrefix (trimStart s.toList)).length_le
  rw [hlist] at hlength
  exact (List.dropWhile_suffix isSpace).eq_of_length_le hlength

/-- Blank text is the text of which trimming leaves nothing. -/
theorem isBlank_iff_trim (s : String) : isBlank s = true ↔ trim s = "" := by
  rw [← String.toList_inj, toList_trim, String.toList_empty, trimEnd_eq_nil_iff, isBlank,
    List.all_eq_true]
  constructor
  · intro h c hc
    exact h c ((List.dropWhile_suffix isSpace).subset hc)
  · intro h
    have h' : trimStart s.toList = [] := by
      cases hs : trimStart s.toList with
      | nil => rfl
      | cons c rest =>
        have hc := h c (by simp [hs])
        have := List.head_dropWhile_not isSpace (l := s.toList) (w := by
          intro h0
          rw [trimStart, h0] at hs
          exact List.cons_ne_nil _ _ hs.symm)
        simp_all [trimStart]
    exact (trimStart_eq_nil_iff _).mp h'

theorem isBlank_orIfBlank {fallback : String} (h : isBlank fallback = false) (s : String) :
    isBlank (orIfBlank s fallback) = false := by
  unfold orIfBlank
  split
  · exact h
  · simp_all

end RequestSigning.Text
