import Mathlib.Data.List.Forall2
import RequestSigning.Text.Blank
import RequestSigning.Text.Case

/-!
# Texts that differ in the case of their letters

Two texts that are equal up to the case of the letters A to Z are indistinguishable for upper case,
for folding and for trimming. Only characters below 0x80 can change, and these are few enough to be
looked at one by one.

* `Text.forall_ascii`: what holds of the 128 characters holds of every character below 0x80.
* `Text.toLower_of_le`: the other characters have no lower case form among the letters A to Z.
* `Text.toLower_eq_iff`, `Text.mem_map_toLower_iff`: characters that are no letters.
* `Text.SameLetters`, `Text.sameAscii_iff_sameLetters`: such texts, character by character.
* `Text.uppercase_eq_of_sameAscii`, `Text.sameAscii_trim`, `Text.isBlank_eq_of_sameAscii`: the laws.
* `Text.folded_eq_of_sameLetters`, `Text.folded_eq_iff_sameLetters`: what such texts are folded to.
-/

namespace RequestSigning.Text

/-! ### Characters -/

theorem forall_ascii {P : Char → Prop} (h : ∀ n : Fin 128, P (Char.ofNat n)) (c : Char)
    (hc : c.toNat < 0x80) : P c := by
  have hP := h ⟨c.toNat, hc⟩
  rwa [Char.ofNat_toNat] at hP

theorem toLower_of_le {c : Char} (h : 0x80 ≤ c.toNat) : c.toLower = c := by
  have hZ : ¬ c.val ≤ 'Z'.val := by
    rw [UInt32.le_iff_toNat_le]
    show ¬ c.toNat ≤ 90
    omega
  exact dif_neg fun hc => hZ hc.2

/-- A character that is no letter is the lower case form of itself alone. That it is none is a
question about the characters below 0x80. -/
theorem toLower_eq_iff {d : Char}
    (hd : ∀ n : Fin 128, (Char.ofNat n).toLower = d ↔ Char.ofNat n = d) (c : Char) :
    c.toLower = d ↔ c = d := by
  by_cases hc : c.toNat < 0x80
  · exact forall_ascii (P := fun c => c.toLower = d ↔ c = d) hd c hc
  · rw [toLower_of_le (Nat.le_of_not_lt hc)]

/-- The case of a letter is lost in its upper case form, as it is in its lower case form. -/
theorem upper_toLower (c : Char) : upper c.toLower = upper c := by
  by_cases hc : c.toNat < 0x80
  · exact forall_ascii (P := fun c => upper c.toLower = upper c) (by decide) c hc
  · rw [toLower_of_le (Nat.le_of_not_lt hc)]

theorem lower_toLower (c : Char) : lower c.toLower = lower c := by
  by_cases hc : c.toNat < 0x80
  · exact forall_ascii (P := fun c => lower c.toLower = lower c) (by decide) c hc
  · rw [toLower_of_le (Nat.le_of_not_lt hc)]

theorem isSpace_toLower (c : Char) : isSpace c.toLower = isSpace c := by
  by_cases hc : c.toNat < 0x80
  · exact forall_ascii (P := fun c => isSpace c.toLower = isSpace c) (by decide) c hc
  · rw [toLower_of_le (Nat.le_of_not_lt hc)]

/-! ### Letters in two cases -/

/-- The same character, or the same of the letters A to Z in the other case. -/
inductive SameLetter : Char → Char → Prop
  | same (c : Char) : SameLetter c c
  | lowered (n : Fin 26) : SameLetter (Char.ofNat (65 + n)) (Char.ofNat (97 + n))
  | raised (n : Fin 26) : SameLetter (Char.ofNat (97 + n)) (Char.ofNat (65 + n))

theorem toLower_capital : ∀ n : Fin 26, (Char.ofNat (65 + n)).toLower = Char.ofNat (97 + n) := by
  decide

theorem toLower_small : ∀ n : Fin 26, (Char.ofNat (97 + n)).toLower = Char.ofNat (97 + n) := by
  decide

theorem ofNat_small_inj : ∀ n k : Fin 26, Char.ofNat (97 + n) = Char.ofNat (97 + k) → n = k := by
  decide

/-- A character is its own lower case form, or it is one of the capitals A to Z. -/
theorem toLower_cases (c : Char) : c.toLower = c ∨ ∃ n : Fin 26, c = Char.ofNat (65 + n) := by
  by_cases hc : c.toNat < 0x80
  · exact forall_ascii (P := fun c => c.toLower = c ∨ ∃ n : Fin 26, c = Char.ofNat (65 + n))
      (by decide) c hc
  · exact .inl (toLower_of_le (Nat.le_of_not_lt hc))

theorem toLower_eq_toLower_iff (c d : Char) : c.toLower = d.toLower ↔ SameLetter c d := by
  constructor
  · intro h
    rcases toLower_cases c with hc | ⟨n, rfl⟩
    · rcases toLower_cases d with hd | ⟨k, rfl⟩
      · rw [hc, hd] at h
        rw [h]
        exact .same d
      · rw [hc, toLower_capital] at h
        rw [h]
        exact .raised k
    · rcases toLower_cases d with hd | ⟨k, rfl⟩
      · rw [hd, toLower_capital] at h
        rw [← h]
        exact .lowered n
      · -- both are capitals, and these have different lower case forms
        rw [toLower_capital, toLower_capital] at h
        rw [ofNat_small_inj n k h]
        exact .same _
  · intro h
    cases h with
    | same => rfl
    | lowered n => rw [toLower_capital, toLower_small]
    | raised n => rw [toLower_capital, toLower_small]

/-- A character that is not below 0x80 has the letter of no other character. -/
theorem SameLetter.lt {c d : Char} (h : SameLetter c d) (hc : c.toNat < 0x80) : d.toNat < 0x80 := by
  have hletters : ∀ n : Fin 26, (Char.ofNat (97 + n)).toNat < 0x80 ∧
      (Char.ofNat (65 + n)).toNat < 0x80 := by decide
  cases h with
  | same => exact hc
  | lowered n => exact (hletters n).1
  | raised n => exact (hletters n).2

/-- Two texts have the same letters if they agree character by character up to the case of the
letters A to Z. -/
def SameLetters (a b : String) : Prop :=
  List.Forall₂ SameLetter a.toList b.toList

theorem sameAscii_iff_sameLetters (a b : String) : sameAscii a b = true ↔ SameLetters a b := by
  rw [sameAscii_iff, ← List.forall₂_eq_eq_eq, List.forall₂_map_left_iff,
    List.forall₂_map_right_iff]
  simp only [toLower_eq_toLower_iff]
  rfl

/-- The letters of a text of characters below 0x80 are found in such texts only. -/
theorem SameLetters.lt {a b : String} (h : SameLetters a b) (ha : ∀ c ∈ a.toList, c.toNat < 0x80) :
    ∀ d ∈ b.toList, d.toNat < 0x80 := by
  unfold SameLetters at h
  generalize a.toList = s at h ha
  generalize b.toList = t at h
  induction h with
  | nil => exact fun d hd => absurd hd List.not_mem_nil
  | cons hletter hrest ih =>
    obtain ⟨hc, hs⟩ := List.forall_mem_cons.mp ha
    exact List.forall_mem_cons.mpr ⟨hletter.lt hc, ih hs⟩

/-! ### Texts -/

/-- A map of characters for which case is lost is one for texts in lower case. -/
theorem flatMap_map_toLower {f : Char → List Char} (hf : ∀ c, f c.toLower = f c) (s : List Char) :
    (s.map Char.toLower).flatMap f = s.flatMap f := by
  rw [List.flatMap_map]
  simp only [hf]

/-- Texts that differ in the case of letters have one upper case form. -/
theorem uppercase_eq_of_sameAscii {a b : String} (h : sameAscii a b = true) :
    uppercase a = uppercase b := by
  have hmap := (sameAscii_iff a b).mp h
  rw [uppercase, uppercase, ← flatMap_map_toLower upper_toLower, hmap,
    flatMap_map_toLower upper_toLower]

/-- Texts that differ in the case of letters are folded to the same text. -/
theorem folded_eq_of_sameLetters {a b : String} (h : SameLetters a b) : folded a = folded b := by
  have hmap := (sameAscii_iff a b).mp ((sameAscii_iff_sameLetters a b).mpr h)
  rw [folded, folded, ← flatMap_map_toLower lower_toLower, hmap, flatMap_map_toLower lower_toLower]

/-- Below 0x80 the letters A to Z are all that is folded. -/
theorem folded_of_lt {s : String} (hs : ∀ c ∈ s.toList, c.toNat < 0x80) :
    folded s = s.toList.map Char.toLower := by
  rw [folded, List.map_eq_flatMap]
  exact List.flatMap_congr fun c hc => if_pos (hs c hc)

/-- Below 0x80 only texts with the same letters are folded to the same text. -/
theorem folded_eq_iff_sameLetters {a b : String} (ha : ∀ c ∈ a.toList, c.toNat < 0x80)
    (hb : ∀ c ∈ b.toList, c.toNat < 0x80) : folded a = folded b ↔ SameLetters a b := by
  rw [folded_of_lt ha, folded_of_lt hb, ← sameAscii_iff, sameAscii_iff_sameLetters]

/-- Lower case brings in no character that is no letter, and takes none away. -/
theorem mem_map_toLower_iff {d : Char}
    (hd : ∀ n : Fin 128, (Char.ofNat n).toLower = d ↔ Char.ofNat n = d) (s : List Char) :
    d ∈ s.map Char.toLower ↔ d ∈ s := by
  rw [List.mem_map]
  constructor
  · rintro ⟨c, hc, hlower⟩
    rwa [(toLower_eq_iff hd c).mp hlower] at hc
  · intro hmem
    exact ⟨d, hmem, (toLower_eq_iff hd d).mpr rfl⟩

theorem trimStart_map_toLower (s : List Char) :
    trimStart (s.map Char.toLower) = (trimStart s).map Char.toLower := by
  have hspace : isSpace ∘ Char.toLower = isSpace := funext isSpace_toLower
  rw [trimStart, List.dropWhile_map, hspace]
  rfl

theorem trimEnd_map_toLower (s : List Char) :
    trimEnd (s.map Char.toLower) = (trimEnd s).map Char.toLower := by
  rw [trimEnd, ← List.map_reverse, trimStart_map_toLower, ← List.map_reverse]
  rfl

/-- Trimming does not look at the case of letters. -/
theorem sameAscii_trim {a b : String} (h : sameAscii a b = true) :
    sameAscii (trim a) (trim b) = true := by
  have hmap := (sameAscii_iff a b).mp h
  rw [sameAscii_iff, toList_trim, toList_trim, ← trimEnd_map_toLower, ← trimStart_map_toLower,
    hmap, trimStart_map_toLower, trimEnd_map_toLower]

theorem isBlank_eq_of_sameAscii {a b : String} (h : sameAscii a b = true) :
    isBlank a = isBlank b := by
  have hspace : isSpace ∘ Char.toLower = isSpace := funext isSpace_toLower
  have hall : ∀ s : String, isBlank s = (s.toList.map Char.toLower).all isSpace := by
    intro s
    rw [List.all_map, hspace]
    rfl
  rw [hall a, hall b, (sameAscii_iff a b).mp h]

/-- Whether a text is blank shows in its trimmed form. -/
theorem isBlank_eq_of_trim_eq {a b : String} (h : trim a = trim b) : isBlank a = isBlank b := by
  rw [Bool.eq_iff_iff, isBlank_iff_trim, isBlank_iff_trim, h]

end RequestSigning.Text
