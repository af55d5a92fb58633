/-!
# The order of texts

Texts are ordered character by character, by code point, and a text comes before every longer text
that continues it. This is also the order of their UTF-8 forms by bytes.

* `Text.before`: the strict order.
* `Text.order`: how two texts stand to each other, found in one reading.

The order is irreflexive, transitive and total (`before_irrefl`, `before_trans`, `order_cases`).
-/

namespace RequestSigning.Text

/-- Whether the first text comes before the second one. -/
def before : List Char → List Char → Bool
  | _, [] => false
  | [], _ :: _ => true
  | a :: s, b :: t => decide (a.toNat < b.toNat) || (decide (a = b) && before s t)

/-- Whether the first text comes before the second one, after it, or is the same. -/
def order : List Char → List Char → Ordering
  | [], [] => .eq
  | [], _ :: _ => .lt
  | _ :: _, [] => .gt
  | a :: s, b :: t => if a.toNat < b.toNat then .lt else if a = b then order s t else .gt

theorem before_cons (a b : Char) (s t : List Char) :
    before (a :: s) (b :: t) = true ↔ a.toNat < b.toNat ∨ a = b ∧ before s t = true := by
  simp [before]

@[simp] theorem before_irrefl (s : List Char) : before s s = false := by
  induction s with
  | nil => rfl
  | cons a rest ih => simp [before, ih]

theorem ne_of_before {s t : List Char} (h : before s t = true) : s ≠ t := by
  rintro rfl
  rw [before_irrefl] at h
  exact Bool.false_ne_true h

theorem before_trans {s t u : List Char} (h : before s t = true) (h' : before t u = true) :
    before s u = true := by
  induction s generalizing t u with
  | nil =>
    cases u with
    | nil => simp [before] at h'
    | cons => rfl
  | cons a s ih =>
    cases t with
    | nil => simp [before] at h
    | cons b t =>
      cases u with
      | nil => simp [before] at h'
      | cons c u =>
        rw [before_cons] at h h' ⊢
        rcases h with h | ⟨rfl, h⟩
        · rcases h' with h' | ⟨rfl, _⟩
          · exact .inl (Nat.lt_trans h h')
          · exact .inl h
        · rcases h' with h' | ⟨rfl, h'⟩
          · exact .inl h'
          · exact .inr ⟨rfl, ih h h'⟩

/-- The three answers of `order` are those of `before` in both directions. -/
theorem order_cases (s t : List Char) :
    (order s t = .lt ∧ before s t = true) ∨ (order s t = .eq ∧ s = t) ∨
      (order s t = .gt ∧ before t s = true) := by
  induction s generalizing t with
  | nil => cases t <;> simp [order, before]
  | cons a s ih =>
    cases t with
    | nil => simp [order, before]
    | cons b t =>
      rw [order, before_cons, before_cons]
      by_cases hlt : a.toNat < b.toNat
      · simp [hlt]
      · by_cases hab : a = b
        · subst hab
          simpa using ih t
        · have hne : a.toNat ≠ b.toNat := fun h => hab (Char.toNat_inj.mp h)
          have hgt : b.toNat < a.toNat := by omega
          simp [hlt, hab, hgt]

theorem before_of_order_lt {s t : List Char} (h : order s t = .lt) : before s t = true := by
  rcases order_cases s t with ⟨_, hb⟩ | ⟨h', _⟩ | ⟨h', _⟩
  · exact hb
  · exact absurd (h.symm.trans h') (by decide)
  · exact absurd (h.symm.trans h') (by decide)

theorem eq_of_order_eq {s t : List Char} (h : order s t = .eq) : s = t := by
  rcases order_cases s t with ⟨h', _⟩ | ⟨_, he⟩ | ⟨h', _⟩
  · exact absurd (h.symm.trans h') (by decide)
  · exact he
  · exact absurd (h.symm.trans h') (by decide)

theorem before_of_order_gt {s t : List Char} (h : order s t = .gt) : before t s = true := by
  rcases order_cases s t with ⟨h', _⟩ | ⟨h', _⟩ | ⟨_, hb⟩
  · exact absurd (h.symm.trans h') (by decide)
  · exact absurd (h.symm.trans h') (by decide)
  · exact hb

end RequestSigning.Text
