import ContentLine.Event
import ContentLine.Fault

/-!
# Actions

An action is what an operation did: the events in order, and a result or the fault that ended it.
Actions are sequenced as usual; what follows a fault does not happen, and what preceded it has.

## Main definitions

- `Action`: events with a result.
- `Action.emit`, `Action.fail`, `Action.lift`: an event, a fault, a result without events.

## Main statements

- `Action.result_bind`: the result of a sequence depends on the results of its parts alone.
- `Action.instLawfulMonad`: the laws of sequencing hold.
-/

namespace ContentLine

/-- The events of an operation, and its result or fault. -/
structure Action (α : Type) where
  /-- The events, in order. -/
  events : List Event
  /-- The result, or the fault that ended the operation. -/
  result : Except Fault α

namespace Action

variable {α β : Type}

@[ext] theorem ext {x y : Action α} (events : x.events = y.events) (result : x.result = y.result) :
    x = y := by
  cases x; cases y; simp_all

/-- Do nothing and succeed. -/
protected def pure (a : α) : Action α :=
  ⟨[], .ok a⟩

/-- Go on with the result, if there is one. -/
protected def bind (x : Action α) (f : α → Action β) : Action β :=
  match x.result with
  | .ok a => ⟨x.events ++ (f a).events, (f a).result⟩
  | .error fault => ⟨x.events, .error fault⟩

instance : Monad Action where
  pure := Action.pure
  bind := Action.bind

/-- Let one event happen. -/
def emit (event : Event) : Action Unit :=
  ⟨[event], .ok ()⟩

/-- Write a note. -/
def note (entry : Note) : Action Unit :=
  emit (.note entry)

/-- End with a fault. -/
def fail (fault : Fault) : Action α :=
  ⟨[], .error fault⟩

/-- A result or a fault, without events. -/
def lift (result : Except Fault α) : Action α :=
  ⟨[], result⟩

@[simp] theorem pure_def (a : α) : (pure a : Action α) = ⟨[], .ok a⟩ := rfl

@[simp] theorem bind_ok (events : List Event) (a : α) (f : α → Action β) :
    (⟨events, .ok a⟩ : Action α) >>= f = ⟨events ++ (f a).events, (f a).result⟩ := rfl

@[simp] theorem bind_error (events : List Event) (fault : Fault) (f : α → Action β) :
    (⟨events, .error fault⟩ : Action α) >>= f = ⟨events, .error fault⟩ := rfl

@[simp] theorem result_emit (event : Event) : (emit event).result = .ok () := rfl

@[simp] theorem result_note (entry : Note) : (note entry).result = .ok () := rfl

@[simp] theorem result_fail (fault : Fault) : (fail fault : Action α).result = .error fault := rfl

@[simp] theorem result_lift (result : Except Fault α) : (lift result).result = result := rfl

/-- The result of a sequence depends on the results of its parts alone. -/
theorem result_bind (x : Action α) (f : α → Action β) :
    (x >>= f).result = x.result.bind fun a => (f a).result := by
  rcases x with ⟨events, result⟩
  cases result <;> rfl

/-- A sequence gives a result if its first part does and its second part does on that. -/
theorem result_bind_eq_ok_iff {x : Action α} {f : α → Action β} {b : β} :
    (x >>= f).result = .ok b ↔ ∃ a, x.result = .ok a ∧ (f a).result = .ok b := by
  rw [result_bind]
  cases x.result <;> simp [Except.bind]

instance instLawfulMonad : LawfulMonad Action :=
  LawfulMonad.mk' Action
    (fun x => by
      rcases x with ⟨events, result⟩
      cases result <;> simp [Functor.map, Action.bind, Action.pure])
    (fun a f => by simp)
    (fun x f g => by
      rcases x with ⟨events, result⟩
      cases result with
      | error fault => simp
      | ok a =>
        simp only [bind_ok]
        rcases f a with ⟨later, result⟩
        cases result <;> simp)

end Action

end ContentLine
