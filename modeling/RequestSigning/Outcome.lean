import RequestSigning.Failure
import RequestSigning.Text.Quoted
/-!
# Outcomes and their log

A computation of this library ends with a value or a failure, and either way it leaves a log of
what was noted on the way.

* `Event`: what is noted, with its level and its text.
* `Outcome α`: a result with its log; a monad in which a failure ends the computation and keeps
  the log so far.
* `Outcome.note`, `Outcome.fail`, `Outcome.ofExcept`: its primitives.
-/

namespace RequestSigning

inductive Level where
  | debug
  | warn
deriving DecidableEq

def Level.name : Level → String
  | .debug => "DEBUG"
  | .warn => "WARN"

inductive Event where
  /-- A template asks a message for metadata that it does not have. -/
  | missingMetadata (key uniqueId : String)
  /-- A name that no signing method has is replaced by the standard method. -/
  | unknownMethod (name : String)
  /-- A draft is made for a consumer. -/
  | drafting (method consumerKey nonce : String)
  /-- The text that is about to be signed. -/
  | signing (base : String)
  /-- A header was stored in a message. -/
  | stored (uniqueId targetKey : String)
deriving DecidableEq

def Event.level : Event → Level
  | .unknownMethod _ => .warn
  | _ => .debug

def Event.text : Event → String
  | .missingMetadata key uniqueId =>
    "metadata key " ++ key ++ " not found in message " ++ uniqueId
  | .unknownMethod name =>
    "unknown signature method " ++ Text.quoted name ++ ", fallback to HMAC-SHA1"
  | .drafting method consumerKey nonce =>
    "building " ++ method ++ " signature for consumer key " ++ consumerKey ++ " with nonce " ++
      nonce
  | .signing base => "signature base string: " ++ base
  | .stored uniqueId targetKey =>
    "generated authorization header for message " ++ uniqueId ++ " into " ++ targetKey

/-- A value or a failure, and the events noted before it was reached. -/
structure Outcome (α : Type) where
  result : Except Failure α
  log : List Event

namespace Outcome

variable {α β : Type}

@[ext] theorem ext {x y : Outcome α} (h : x.result = y.result) (h' : x.log = y.log) : x = y := by
  cases x
  cases y
  simp_all

def done (a : α) : Outcome α := ⟨.ok a, []⟩

def fail (f : Failure) : Outcome α := ⟨.error f, []⟩

def note (e : Event) : Outcome Unit := ⟨.ok (), [e]⟩

def ofExcept (r : Except Failure α) : Outcome α := ⟨r, []⟩

/-- The second computation runs on the value of the first; after a failure it does not run. -/
def andThen (x : Outcome α) (f : α → Outcome β) : Outcome β :=
  match x.result with
  | .ok a => ⟨(f a).result, x.log ++ (f a).log⟩
  | .error e => ⟨.error e, x.log⟩

instance : Monad Outcome where
  pure := done
  bind := andThen

/-! ### Results that succeed -/

theorem bind_eq_ok_iff {r : Except Failure α} {f : α → Except Failure β} {b : β} :
    r.bind f = .ok b ↔ ∃ a, r = .ok a ∧ f a = .ok b := by
  cases r with
  | error e => simp [Except.bind]
  | ok a => simp [Except.bind]

theorem map_eq_ok_iff {ε : Type} {r : Except ε α} {f : α → β} {b : β} :
    r.map f = .ok b ↔ ∃ a, r = .ok a ∧ f a = b := by
  cases r with
  | error e => simp [Except.map]
  | ok a => simp [Except.map]

/-- A result is known as soon as its value is computed. -/
theorem eq_ok_of_toOption {r : Except Failure α} {a : α} (h : r.toOption = some a) :
    r = .ok a := by
  cases r with
  | error f => exact absurd h (by simp [Except.toOption])
  | ok b => exact congrArg Except.ok (Option.some.inj h)

/-! ### Results and logs of the primitives -/

@[simp] theorem result_pure (a : α) : (pure a : Outcome α).result = .ok a := rfl

@[simp] theorem log_pure (a : α) : (pure a : Outcome α).log = [] := rfl

@[simp] theorem result_fail (f : Failure) : (fail f : Outcome α).result = .error f := rfl

@[simp] theorem log_fail (f : Failure) : (fail f : Outcome α).log = [] := rfl

@[simp] theorem result_note (e : Event) : (note e).result = .ok () := rfl

@[simp] theorem log_note (e : Event) : (note e).log = [e] := rfl

@[simp] theorem result_ofExcept (r : Except Failure α) : (ofExcept r).result = r := rfl

@[simp] theorem log_ofExcept (r : Except Failure α) : (ofExcept r).log = [] := rfl

theorem bind_eq_andThen (x : Outcome α) (f : α → Outcome β) : x >>= f = x.andThen f := rfl

theorem result_bind (x : Outcome α) (f : α → Outcome β) :
    (x >>= f).result = x.result.bind fun a => (f a).result := by
  rw [bind_eq_andThen, andThen]
  cases x.result <;> rfl

theorem bind_of_ok {x : Outcome α} {a : α} (h : x.result = .ok a) (f : α → Outcome β) :
    x >>= f = ⟨(f a).result, x.log ++ (f a).log⟩ := by
  rw [bind_eq_andThen, andThen, h]

theorem bind_of_error {x : Outcome α} {e : Failure} (h : x.result = .error e)
    (f : α → Outcome β) : x >>= f = ⟨.error e, x.log⟩ := by
  rw [bind_eq_andThen, andThen, h]

instance : LawfulMonad Outcome := LawfulMonad.mk' Outcome
  (by
    intro α x
    change x.andThen (fun a => done a) = x
    rcases x with ⟨r, l⟩
    cases r <;> simp [andThen, done])
  (by
    intro α β a f
    change (done a).andThen f = f a
    simp [andThen, done])
  (by
    intro α β γ x f g
    change (x.andThen f).andThen g = x.andThen fun a => (f a).andThen g
    rcases x with ⟨r, l⟩
    cases r with
    | error e => simp [andThen]
    | ok a =>
      simp only [andThen]
      cases (f a).result <;> simp)

end Outcome

end RequestSigning
