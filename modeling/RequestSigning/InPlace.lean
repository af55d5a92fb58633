import RequestSigning.Outcome
/-!
# Changes in place

A computation may change a message or a request that its caller holds. What it has changed stays
changed, also if it fails afterwards: the caller goes on with the state that it left.

* `InPlace σ α`: an outcome together with the state that is left; a monad in which a failure ends
  the computation and keeps the log and the state so far.
* `InPlace.state`, `InPlace.change`, `InPlace.ofOutcome`: its primitives.
* `InPlace.runAll`: computations on one state, one after the other, whatever each of them ends with.
-/

namespace RequestSigning

/-- A computation on a state, with the state that it leaves. -/
structure InPlace (σ α : Type) where
  run : σ → Outcome α × σ

namespace InPlace

variable {σ α β : Type}

def done (a : α) : InPlace σ α := ⟨fun s => (pure a, s)⟩

/-- The second computation runs on the value of the first and on the state that it left; after a
failure it does not run. -/
def andThen (x : InPlace σ α) (f : α → InPlace σ β) : InPlace σ β where
  run s :=
    let (first, s') := x.run s
    match first.result with
    | .ok a =>
      let (second, s'') := (f a).run s'
      (⟨second.result, first.log ++ second.log⟩, s'')
    | .error e => (⟨.error e, first.log⟩, s')

instance : Monad (InPlace σ) where
  pure := done
  bind := andThen

/-- The present state. -/
def state : InPlace σ σ := ⟨fun s => (pure s, s)⟩

def change (f : σ → σ) : InPlace σ Unit := ⟨fun s => (pure (), f s)⟩

/-- An outcome that leaves the state alone. -/
def ofOutcome (x : Outcome α) : InPlace σ α := ⟨fun s => (x, s)⟩

/-- The results of computations that are run on one state, one after the other, and the state that
the last one leaves. A failure does not keep the next one from running. -/
def runAll : List (InPlace σ α) → σ → List (Except Failure α) × σ
  | [], s => ([], s)
  | x :: rest, s =>
    let (first, s') := x.run s
    let (results, last) := runAll rest s'
    (first.result :: results, last)

/-! ### What is run -/

theorem run_state_bind (f : σ → InPlace σ α) (s : σ) : (state >>= f).run s = (f s).run s := rfl

/-- After an outcome that succeeds the computation goes on with its value and its log. -/
theorem run_ofOutcome_bind_of_ok {x : Outcome α} {a : α} (h : x.result = .ok a)
    (f : α → InPlace σ β) (s : σ) :
    (ofOutcome x >>= f).run s =
      (⟨((f a).run s).1.result, x.log ++ ((f a).run s).1.log⟩, ((f a).run s).2) := by
  show (andThen (ofOutcome x) f).run s = _
  simp only [andThen, ofOutcome, h]

/-- An outcome that fails ends the computation with the state that it found. -/
theorem run_ofOutcome_bind_of_error {x : Outcome α} {e : Failure} (h : x.result = .error e)
    (f : α → InPlace σ β) (s : σ) :
    (ofOutcome x >>= f).run s = (⟨.error e, x.log⟩, s) := by
  show (andThen (ofOutcome x) f).run s = _
  simp only [andThen, ofOutcome, h]

/-- It does not matter whether two outcomes are put together first or run one after the other. -/
theorem run_ofOutcome_bind_bind {γ : Type} (x : Outcome α) (f : α → Outcome β)
    (k : β → InPlace σ γ) (s : σ) :
    (ofOutcome (x >>= f) >>= k).run s = (ofOutcome x >>= fun a => ofOutcome (f a) >>= k).run s := by
  cases hx : x.result with
  | error e =>
    have hbind : (x >>= f).result = .error e := by rw [Outcome.result_bind, hx]; rfl
    rw [run_ofOutcome_bind_of_error hbind, run_ofOutcome_bind_of_error hx, Outcome.bind_of_error hx]
  | ok a =>
    rw [run_ofOutcome_bind_of_ok hx, Outcome.bind_of_ok hx]
    cases hf : (f a).result with
    | error e =>
      rw [run_ofOutcome_bind_of_error hf, run_ofOutcome_bind_of_error rfl]
    | ok b =>
      rw [run_ofOutcome_bind_of_ok hf, run_ofOutcome_bind_of_ok rfl, List.append_assoc]

@[simp] theorem runAll_nil (s : σ) : runAll ([] : List (InPlace σ α)) s = ([], s) := rfl

theorem runAll_cons (x : InPlace σ α) (rest : List (InPlace σ α)) (s : σ) :
    runAll (x :: rest) s =
      ((x.run s).1.result :: (runAll rest (x.run s).2).1, (runAll rest (x.run s).2).2) := rfl

/-- Each computation has a result. -/
@[simp] theorem length_runAll (xs : List (InPlace σ α)) (s : σ) :
    (runAll xs s).1.length = xs.length := by
  induction xs generalizing s with
  | nil => rfl
  | cons x rest ih => rw [runAll_cons, List.length_cons, ih, List.length_cons]

/-- What each computation keeps is kept by all of them together. -/
theorem runAll_keeps {P : σ → Prop} {xs : List (InPlace σ α)}
    (h : ∀ x ∈ xs, ∀ s, P s → P (x.run s).2) {s : σ} (hs : P s) : P (runAll xs s).2 := by
  induction xs generalizing s with
  | nil => exact hs
  | cons x rest ih =>
    have hfirst : P (x.run s).2 := h x List.mem_cons_self s hs
    exact ih (fun y hy => h y (List.mem_cons_of_mem x hy)) hfirst

/-- Computations that all give one result and leave the state as it is do so together. -/
theorem runAll_of_fixed {xs : List (InPlace σ α)} {s : σ} {r : Except Failure α}
    (h : ∀ x ∈ xs, (x.run s).1.result = r ∧ (x.run s).2 = s) :
    runAll xs s = (xs.map fun _ => r, s) := by
  induction xs with
  | nil => rfl
  | cons x rest ih =>
    obtain ⟨hresult, hstate⟩ := h x List.mem_cons_self
    rw [runAll_cons, hresult, hstate, ih fun y hy => h y (List.mem_cons_of_mem x hy)]
    rfl

end InPlace

end RequestSigning
