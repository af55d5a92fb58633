import RequestSigning.Outcome

/-!
# What holds of outcomes made in steps

Outcomes are made from smaller ones, each of which may note events or fail. A property of this kind
is told for each step and follows for the whole.

* `Outcome.result_bind_of_ok`, `Outcome.result_bind_eq_ok_iff`: steps that succeed.
* `Outcome.forM_eq_ok_iff`, `Outcome.forM_eq_error_iff`: checks in a row succeed if all of them do,
  and fail with the first one that fails.
* `Outcome.mem_log_bind_of_mem`, `Outcome.mem_log_bind_of_ok`: what a step notes stays noted.
* `Outcome.FailsWith`: all failures of an outcome are of certain kinds, with `FailsWith.bind`.
* `Outcome.Alike`: two outcomes have one log, fail alike, and have values that stand in a certain
  relation, with `Alike.bind`.
-/

namespace RequestSigning.Outcome

variable {α β γ δ : Type}

/-! ### Steps that succeed -/

theorem map_eq_error_iff {ε : Type} {r : Except ε α} {f : α → β} {e : ε} :
    r.map f = .error e ↔ r = .error e := by
  cases r <;> simp [Except.map]

theorem mapError_eq_ok_iff {ε : Type} {r : Except ε α} {f : ε → Failure} {a : α} :
    r.mapError f = .ok a ↔ r = .ok a := by
  cases r with
  | error e =>
    show Except.error (f e) = .ok a ↔ Except.error e = .ok a
    simp
  | ok b =>
    show Except.ok b = .ok a ↔ Except.ok b = .ok a
    simp

theorem mapError_eq_error_iff {ε : Type} {r : Except ε α} {f : ε → Failure} {e : Failure} :
    r.mapError f = .error e ↔ ∃ e', r = .error e' ∧ f e' = e := by
  cases r with
  | error e' =>
    show Except.error (f e') = .error e ↔ _
    simp
  | ok a =>
    show Except.ok a = .error e ↔ _
    simp

/-- What follows a step that succeeds decides the result. -/
theorem result_bind_of_ok {x : Outcome α} {a : α} (h : x.result = .ok a) (f : α → Outcome β) :
    (x >>= f).result = (f a).result := by
  rw [bind_of_ok h]

/-- A computation in two steps succeeds exactly if both of them do. -/
theorem result_bind_eq_ok_iff {x : Outcome α} {f : α → Outcome β} {b : β} :
    (x >>= f).result = .ok b ↔ ∃ a, x.result = .ok a ∧ (f a).result = .ok b := by
  rw [result_bind]
  exact bind_eq_ok_iff

/-! ### Checks in a row -/

variable {ι : Type} {check : ι → Except Failure Unit}

theorem forM_cons_of_ok {a : ι} {rest : List ι} (ha : check a = .ok ()) :
    (a :: rest).forM check = rest.forM check := by
  show (check a).bind (fun _ => rest.forM check) = _
  rw [ha]
  rfl

theorem forM_cons_of_error {a : ι} {rest : List ι} {f : Failure} (ha : check a = .error f) :
    (a :: rest).forM check = .error f := by
  show (check a).bind (fun _ => rest.forM check) = _
  rw [ha]
  rfl

/-- Checks in a row succeed if each of them does. -/
theorem forM_eq_ok_iff {l : List ι} : l.forM check = .ok () ↔ ∀ a ∈ l, check a = .ok () := by
  induction l with
  | nil => exact ⟨fun _ _ ha => absurd ha List.not_mem_nil, fun _ => rfl⟩
  | cons a rest ih =>
    rw [List.forall_mem_cons, ← ih]
    cases ha : check a with
    | error f => simp [forM_cons_of_error ha]
    | ok u => simp [forM_cons_of_ok ha]

/-- Checks in a row fail with the first one that fails; those behind it are not made. -/
theorem forM_eq_error_iff {l : List ι} {f : Failure} :
    l.forM check = .error f ↔ ∃ earlier a later, l = earlier ++ a :: later ∧
      (∀ e ∈ earlier, check e = .ok ()) ∧ check a = .error f := by
  constructor
  · intro h
    induction l with
    | nil => exact absurd h (by simp [pure, Except.pure])
    | cons a rest ih =>
      cases ha : check a with
      | error g =>
        rw [forM_cons_of_error ha] at h
        exact ⟨[], a, rest, rfl, by simp, ha.trans h⟩
      | ok u =>
        rw [forM_cons_of_ok ha] at h
        obtain ⟨earlier, b, later, rfl, hearlier, hb⟩ := ih h
        exact ⟨a :: earlier, b, later, rfl, List.forall_mem_cons.mpr ⟨ha, hearlier⟩, hb⟩
  · rintro ⟨earlier, a, later, rfl, hearlier, ha⟩
    induction earlier with
    | nil => exact forM_cons_of_error ha
    | cons e more ih =>
      obtain ⟨he, hmore⟩ := List.forall_mem_cons.mp hearlier
      rw [List.cons_append, forM_cons_of_ok he]
      exact ih hmore

/-- A check that refuses under a condition fails exactly if the condition holds. -/
theorem ite_eq_error_iff {c : Prop} [Decidable c] {f g : Failure} :
    (if c then Except.error g else Except.ok ()) = Except.error f ↔ c ∧ f = g := by
  by_cases hc : c <;> simp [hc, eq_comm]

theorem ite_eq_error_of_ne_ok {c : Prop} [Decidable c] {f g : Failure}
    (h : (if c then Except.error g else Except.ok ()) ≠ Except.ok ()) (hf : f = g) :
    (if c then Except.error g else Except.ok ()) = (Except.error f : Except Failure Unit) := by
  by_cases hc : c
  · rw [if_pos hc, hf]
  · exact absurd (if_neg hc) h

/-! ### What is noted -/

theorem mem_log_bind_of_mem {x : Outcome α} {e : Event} (he : e ∈ x.log) (f : α → Outcome β) :
    e ∈ (x >>= f).log := by
  cases hx : x.result with
  | error g =>
    rw [bind_of_error hx]
    exact he
  | ok a =>
    rw [bind_of_ok hx]
    exact List.mem_append_left _ he

theorem mem_log_bind_of_ok {x : Outcome α} {a : α} {f : α → Outcome β} {e : Event}
    (hx : x.result = .ok a) (he : e ∈ (f a).log) : e ∈ (x >>= f).log := by
  rw [bind_of_ok hx]
  exact List.mem_append_right _ he

/-! ### Kinds of failure -/

/-- If the outcome is a failure, then its kind is one of `kinds`. -/
def FailsWith (kinds : List Failure.Kind) (x : Outcome α) : Prop :=
  ∀ f, x.result = .error f → f.kind ∈ kinds

variable {kinds kinds' : List Failure.Kind} {x : Outcome α}

theorem failsWith_of_ok {a : α} (h : x.result = .ok a) : x.FailsWith kinds := by
  intro f hf
  exact absurd (h.symm.trans hf) (by simp)

theorem FailsWith.mono (h : x.FailsWith kinds) (hkinds : kinds ⊆ kinds') : x.FailsWith kinds' :=
  fun f hf => hkinds (h f hf)

theorem FailsWith.bind {f : α → Outcome β} (hx : x.FailsWith kinds)
    (hf : ∀ a, (f a).FailsWith kinds) : (x >>= f).FailsWith kinds := by
  intro e he
  rw [result_bind] at he
  cases hr : x.result with
  | error e' =>
    rw [hr] at he
    obtain rfl : e' = e := Except.error.inj he
    exact hx e' hr
  | ok a =>
    rw [hr] at he
    exact hf a e he

theorem FailsWith.ofExcept_bind {r : Except Failure α} {f : α → Except Failure β}
    (hr : (ofExcept r).FailsWith kinds) (hf : ∀ a, (ofExcept (f a)).FailsWith kinds) :
    (ofExcept (r >>= f)).FailsWith kinds := by
  cases r with
  | error e =>
    intro e' he
    obtain rfl : e = e' := Except.error.inj he
    exact hr e rfl
  | ok a => exact hf a

/-! ### Two outcomes compared -/

/-- Both outcomes note the same events, and both fail in the same way or have values that `R`
relates. -/
structure Alike (R : α → β → Prop) (x : Outcome α) (y : Outcome β) : Prop where
  log : x.log = y.log
  result : (∃ f, x.result = .error f ∧ y.result = .error f) ∨
    ∃ a b, x.result = .ok a ∧ y.result = .ok b ∧ R a b

/-- An outcome is like itself, with one value on both sides. -/
theorem alike_self (x : Outcome α) : Alike (fun a b => a = b ∧ x.result = .ok a) x x := by
  refine ⟨rfl, ?_⟩
  cases hx : x.result with
  | error f => exact .inl ⟨f, rfl, rfl⟩
  | ok a => exact .inr ⟨a, a, rfl, rfl, rfl, rfl⟩

theorem alike_pure {R : α → β → Prop} {a : α} {b : β} (h : R a b) :
    Alike R (pure a) (pure b) :=
  ⟨rfl, .inr ⟨a, b, rfl, rfl, h⟩⟩

/-- Outcomes that are alike stay so if they are continued in ways that are alike on related
values. -/
theorem Alike.bind {R : α → β → Prop} {S : γ → δ → Prop} {x : Outcome α} {y : Outcome β}
    {f : α → Outcome γ} {g : β → Outcome δ} (h : Alike R x y)
    (hfg : ∀ a b, R a b → Alike S (f a) (g b)) : Alike S (x >>= f) (y >>= g) := by
  rcases h.result with ⟨e, hx, hy⟩ | ⟨a, b, hx, hy, hab⟩
  · rw [bind_of_error hx, bind_of_error hy]
    exact ⟨h.log, .inl ⟨e, rfl, rfl⟩⟩
  · obtain ⟨hlog, hresult⟩ := hfg a b hab
    rw [bind_of_ok hx, bind_of_ok hy]
    refine ⟨?_, hresult⟩
    show x.log ++ (f a).log = y.log ++ (g b).log
    rw [h.log, hlog]

/-- A step that both outcomes share passes one value on. -/
theorem alike_bind_self {S : γ → δ → Prop} (x : Outcome α) {f : α → Outcome γ}
    {g : α → Outcome δ} (hfg : ∀ a, x.result = .ok a → Alike S (f a) (g a)) :
    Alike S (x >>= f) (x >>= g) := by
  refine (alike_self x).bind ?_
  rintro a b ⟨rfl, ha⟩
  exact hfg a ha

end RequestSigning.Outcome
