import RequestSigning.Proofs.Letters
import RequestSigning.SigningMethod

/-!
# The names of signing methods

A text names a signing method if it is one of the two names of the method, up to white space around
it and the case of its letters. The first method that answers to a text is taken, but no text names
two methods, so the order in which they are asked does not matter.

* `SigningMethod.NamedBy`: the methods that a text names, with `NamedBy.unique` and `NamedBy.lt`.
* `SigningMethod.find?_answersTo_eq_some_iff`: any search through all methods finds what is named.
* `SigningMethod.ofName_eq_ok_iff`, `SigningMethod.ofName_eq_error_iff`: what a name is read as.
-/

namespace RequestSigning.SigningMethod

variable {m m₁ m₂ : SigningMethod} {s : String}

/-! ### What a text names -/

/-- The name that is sent, and the one that is written in configuration. -/
def names (m : SigningMethod) : List String :=
  [m.wireName, m.configName]

/-- A text names a method if, without the white space around it, it has the letters of one of the
names of that method. -/
def NamedBy (m : SigningMethod) (s : String) : Prop :=
  ∃ name ∈ m.names, Text.SameLetters name (Text.trim s)

theorem answersTo_trim_iff (m : SigningMethod) (s : String) :
    m.answersTo (Text.trim s) = true ↔ m.NamedBy s := by
  rw [answersTo, Bool.or_eq_true, Text.sameAscii_iff_sameLetters, Text.sameAscii_iff_sameLetters,
    NamedBy, names, List.exists_mem_cons_iff, List.exists_mem_cons_iff]
  simp

/-- The names of all methods differ in more than the case of their letters. -/
theorem eq_of_lowerAscii_eq : ∀ a ∈ m₁.names, ∀ b ∈ m₂.names,
    Text.lowerAscii a = Text.lowerAscii b → m₁ = m₂ := by
  cases m₁ <;> cases m₂ <;> decide

/-- No text names two methods. -/
theorem NamedBy.unique (h₁ : m₁.NamedBy s) (h₂ : m₂.NamedBy s) : m₁ = m₂ := by
  obtain ⟨a, ha, hsame₁⟩ := h₁
  obtain ⟨b, hb, hsame₂⟩ := h₂
  have hlower₁ : Text.lowerAscii a = Text.lowerAscii (Text.trim s) :=
    beq_iff_eq.mp ((Text.sameAscii_iff_sameLetters _ _).mpr hsame₁)
  have hlower₂ : Text.lowerAscii b = Text.lowerAscii (Text.trim s) :=
    beq_iff_eq.mp ((Text.sameAscii_iff_sameLetters _ _).mpr hsame₂)
  exact eq_of_lowerAscii_eq a ha b hb (hlower₁.trans hlower₂.symm)

theorem names_ascii : ∀ name ∈ m.names, name.toList.all (·.toNat < 0x80) = true := by
  cases m <;> decide

/-- A character from U+0080 on, however much it looks like a letter, stands in no name. -/
theorem NamedBy.lt (h : m.NamedBy s) : ∀ c ∈ (Text.trim s).toList, c.toNat < 0x80 := by
  obtain ⟨name, hname, hsame⟩ := h
  have hall := List.all_eq_true.mp (names_ascii name hname)
  exact hsame.lt fun c hc => of_decide_eq_true (hall c hc)

theorem isBlank_names : ∀ name ∈ m.names, Text.isBlank name = false := by
  cases m <;> decide

/-- A blank text names no method. -/
theorem not_namedBy_of_isBlank (h : Text.isBlank s = true) : ¬ m.NamedBy s := by
  rintro ⟨name, hname, hsame⟩
  have hblank := Text.isBlank_eq_of_sameAscii ((Text.sameAscii_iff_sameLetters _ _).mpr hsame)
  rw [isBlank_names name hname, (Text.isBlank_iff_trim s).mp h] at hblank
  exact absurd hblank (by decide)

theorem trim_wireName (m : SigningMethod) : Text.trim m.wireName = m.wireName := by
  cases m <;> decide

/-- The name that is sent names the method. -/
theorem namedBy_wireName (m : SigningMethod) : m.NamedBy m.wireName := by
  refine ⟨m.wireName, List.mem_cons_self, ?_⟩
  rw [trim_wireName, ← Text.sameAscii_iff_sameLetters]
  exact beq_self_eq_true _

/-! ### What a text is read as -/

/-- What a search through any methods finds is named. -/
theorem namedBy_of_find? {l : List SigningMethod}
    (hfind : l.find? (·.answersTo (Text.trim s)) = some m) : m.NamedBy s := by
  have hanswers : m.answersTo (Text.trim s) = true :=
    List.find?_some (p := fun m : SigningMethod => m.answersTo (Text.trim s)) hfind
  exact (answersTo_trim_iff m s).mp hanswers

/-- A search that asks all methods, in whatever order, finds the one that is named. -/
theorem find?_answersTo_eq_some_iff {l : List SigningMethod} (hl : ∀ m, m ∈ l)
    (s : String) (m : SigningMethod) :
    l.find? (·.answersTo (Text.trim s)) = some m ↔ m.NamedBy s := by
  constructor
  · exact namedBy_of_find?
  · intro hm
    have hanswers := (answersTo_trim_iff m s).mpr hm
    cases hfind : l.find? (·.answersTo (Text.trim s)) with
    | none => exact absurd hanswers (List.find?_eq_none.mp hfind m (hl m))
    | some first => rw [(namedBy_of_find? hfind).unique hm]

theorem named?_eq_some_iff (s : String) (m : SigningMethod) : named? s = some m ↔ m.NamedBy s :=
  find?_answersTo_eq_some_iff mem_all s m

theorem named?_eq_none_iff (s : String) : named? s = none ↔ ∀ m : SigningMethod, ¬ m.NamedBy s := by
  simp only [Option.eq_none_iff_forall_ne_some, ne_eq, named?_eq_some_iff]

/-- A text is read as the method that it names. -/
theorem ofName_eq_ok_iff (s : String) (m : SigningMethod) : ofName s = .ok m ↔ m.NamedBy s := by
  rw [← named?_eq_some_iff, ofName]
  cases named? s <;> simp

/-- A text that names no method is refused, and the failure quotes it without the white space around
it. -/
theorem ofName_eq_error_iff (s : String) (f : Failure) :
    ofName s = .error f ↔
      (∀ m : SigningMethod, ¬ m.NamedBy s) ∧ f = Failure.of (.unknownMethod (Text.trim s)) := by
  rw [← named?_eq_none_iff, ofName]
  cases named? s <;> simp [eq_comm]

end RequestSigning.SigningMethod
