import Mathlib.Data.List.TakeDrop
import RequestSigning.Http.Request
import RequestSigning.Proofs.Template
import RequestSigning.Uri.Parse

/-!
# What blank text is not

White space is a small set of characters, so what is claimed of all of them can be looked up. None
of them opens a token of a template, occurs in a method or begins an address.

* `Text.spaceCodes`, `Text.forall_space`: what holds of the listed characters holds of white space.
* `Message.fill_of_isBlank`: blank text is filled to itself.
* `Http.isBlank_of_isToken`, `Uri.isBlank_of_parse`: methods and addresses are not blank.
-/

namespace RequestSigning

namespace Text

/-! ### White space, listed -/

/-- The code points of white space. -/
def spaceCodes : List Nat :=
  [0x9, 0xA, 0xB, 0xC, 0xD, 0x20, 0x85, 0xA0, 0x1680, 0x2000, 0x2001, 0x2002, 0x2003, 0x2004,
    0x2005, 0x2006, 0x2007, 0x2008, 0x2009, 0x200A, 0x2028, 0x2029, 0x202F, 0x205F, 0x3000]

theorem mem_spaceCodes {c : Char} (h : isSpace c = true) : c.toNat ∈ spaceCodes := by
  simp only [isSpace, Bool.or_eq_true, Bool.and_eq_true, decide_eq_true_eq, beq_iff_eq] at h
  simp only [spaceCodes, List.mem_cons, List.not_mem_nil, or_false]
  omega

theorem forall_space {P : Char → Prop} (h : ∀ n ∈ spaceCodes, P (Char.ofNat n)) {c : Char}
    (hc : isSpace c = true) : P c := by
  have hP := h c.toNat (mem_spaceCodes hc)
  rwa [Char.ofNat_toNat] at hP

theorem ne_of_isSpace {c d : Char} (hc : isSpace c = true) (hd : isSpace d = false) : c ≠ d := by
  rintro rfl
  rw [hc] at hd
  exact absurd hd (by simp)

end Text

/-! ### Templates -/

/-- A blank text has no token, so it is filled to itself. -/
theorem Message.fill_of_isBlank (m : Message) {text : String} (h : Text.isBlank text = true) :
    m.fill text = text := by
  refine m.fill_of_not_opens fun hopens => ?_
  have hpercent : '%' ∈ text.toList := hopens.subset (by decide)
  exact Text.ne_of_isSpace (List.all_eq_true.mp h '%' hpercent) (by decide) rfl

/-! ### Methods -/

theorem Http.isTokenChar_of_isSpace {c : Char} (h : Text.isSpace c = true) :
    isTokenChar c = false :=
  Text.forall_space (P := fun c => isTokenChar c = false) (by decide) h

theorem Http.isBlank_of_isToken {s : String} (h : isToken s = true) : Text.isBlank s = false := by
  simp only [isToken, Bool.and_eq_true, decide_eq_true_eq, List.all_eq_true] at h
  obtain ⟨hne, hall⟩ := h
  have hlist : s.toList ≠ [] := by
    intro hnil
    exact hne (String.toList_inj.mp hnil)
  obtain ⟨c, hc⟩ := List.exists_mem_of_ne_nil _ hlist
  refine List.all_eq_false.mpr ⟨c, hc, fun hspace => ?_⟩
  have hother := isTokenChar_of_isSpace hspace
  rw [hall c hc] at hother
  exact absurd hother (by simp)

/-! ### Addresses -/

namespace Uri

theorem step_of_isSpace {c : Char} (hc : Text.isSpace c = true) (s : Authority) :
    s.step c = .error .badCharacter := by
  have hother : isAuthorityChar c = false :=
    Text.forall_space (P := fun c => isAuthorityChar c = false) (by decide) hc
  unfold Authority.step
  split
  · exact absurd hc (by decide)
  · exact absurd hc (by decide)
  · exact absurd hc (by decide)
  · exact absurd hc (by decide)
  · exact absurd hc (by decide)
  · rw [hother]
    rfl

/-- White space is a foreign character at the start of an authority. -/
theorem splitAuthority_of_isSpace {c : Char} (hc : Text.isSpace c = true) (rest : List Char) :
    splitAuthority (c :: rest) = .error .badCharacter := by
  have hend : endsAuthority c = false :=
    Text.forall_space (P := fun c => endsAuthority c = false) (by decide) hc
  have hcheck : ∀ authority, checkAuthority (c :: authority) = .error .badCharacter := by
    intro authority
    rw [checkAuthority, List.foldlM_cons, step_of_isSpace hc]
    rfl
  rw [splitAuthority, if_neg (List.cons_ne_nil c rest), List.span_eq_takeWhile_dropWhile,
    List.takeWhile_cons_of_pos (by simp [hend])]
  simp only [hcheck]
  rfl

theorem startsWith_eq_false {start : String} {c d : Char} (hstart : start.toList.head? = some d)
    (hd : c.toLower ≠ d) (rest : List Char) : startsWith start (c :: rest) = false := by
  obtain ⟨more, hstart⟩ := List.head?_eq_some_iff.mp hstart
  have hlength : start.length = more.length + 1 := by
    rw [← String.length_toList, hstart, List.length_cons]
  rw [startsWith, hstart, hlength, List.take_succ_cons, List.map_cons, beq_eq_false_iff_ne]
  intro heq
  exact hd (List.cons.inj heq).1

/-- No scheme begins with white space. -/
theorem splitScheme_of_isSpace {c : Char} (hc : Text.isSpace c = true) (rest : List Char) :
    splitScheme (c :: rest) = .ok none := by
  have hlower : c.toLower ≠ 'h' :=
    Text.forall_space (P := fun c => c.toLower ≠ 'h') (by decide) hc
  have hscheme : isSchemeChar c = false :=
    Text.forall_space (P := fun c => isSchemeChar c = false) (by decide) hc
  have hcolon : c ≠ ':' := Text.ne_of_isSpace hc (by decide)
  have hhttp : startsWith "http://" (c :: rest) = false :=
    startsWith_eq_false (by decide) hlower rest
  have hhttps : startsWith "https://" (c :: rest) = false :=
    startsWith_eq_false (by decide) hlower rest
  rw [splitScheme, hhttp, hhttps, if_neg Bool.false_ne_true, if_neg Bool.false_ne_true,
    List.span_eq_takeWhile_dropWhile, List.dropWhile_cons_of_neg (by simp [hscheme])]
  split
  · rfl
  · -- what follows the empty scheme begins with white space, not with a colon
    dsimp only
    split
    · rename_i heq
      exact absurd (List.cons.inj heq).1 hcolon
    · rfl

/-- A text that is an address is not blank. -/
theorem isBlank_of_parse {text : String} {u : Uri} (h : parse text = .ok u) :
    Text.isBlank text = false := by
  rw [Bool.eq_false_iff]
  intro hblank
  have hspace : ∀ c ∈ text.toList, Text.isSpace c = true := List.all_eq_true.mp hblank
  unfold parse at h
  split at h
  · exact absurd h (by simp)
  · cases htext : text.toList with
    | nil =>
      rw [htext] at h
      exact absurd h (by simp)
    | cons c rest =>
      rw [htext] at h hspace
      have hc : Text.isSpace c = true := hspace c List.mem_cons_self
      have hhead : ∀ {d : Char} {more : List Char}, c :: rest = d :: more →
          Text.isSpace d = true := by
        intro d more heq
        rwa [(List.cons.inj heq).1] at hc
      have hbare : parseBare (c :: rest) = .error .badCharacter := by
        rw [parseBare, splitAuthority_of_isSpace hc]
        rfl
      split at h
      · rename_i heq
        exact absurd heq (by simp)
      · rename_i heq
        exact absurd (hhead heq) (by decide)
      · rename_i heq
        exact absurd (hhead heq) (by decide)
      · rename_i heq
        exact absurd (hhead heq) (by decide)
      · rename_i heq
        exact absurd (hhead heq) (by decide)
      · rw [splitScheme_of_isSpace hc] at h
        simp only [hbare] at h
        exact absurd h (by simp)

end Uri

end RequestSigning
