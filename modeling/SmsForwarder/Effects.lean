/-
**Computations with effects.**

A computation that may fail and has effects on the way: what it ends in, and the list of the effects
it has had by then, in order.  An effect that was had stays in the list if the computation fails
later on.

Main definitions:

* `Effects.Traced` — such a computation, a monad;
* `Effects.lift`, `Effects.emit` — a computation without effects, and a single effect.

Main results:

* `Effects.result_bind`, `Effects.effects_bind` — what a sequence ends in, and its effects;
* `Effects.effects_lift_bind_cases` — what comes after a computation without effects has effects only
  if this succeeds.
-/

import Mathlib.Tactic.Common

set_option relaxedAutoImplicit false
set_option autoImplicit false

namespace Effects

/-- What a computation ends in, and the effects it has had. -/
structure Traced (ε η α : Type) where
  result : Except ε α
  effects : List η

variable {ε η α β : Type}

instance : Monad (Traced ε η) where
  pure a := { result := .ok a, effects := [] }
  bind x f :=
    match x.result with
    | .ok a => { result := (f a).result, effects := x.effects ++ (f a).effects }
    | .error e => { result := .error e, effects := x.effects }

/-- A computation without effects. -/
def lift (x : Except ε α) : Traced ε η α := { result := x, effects := [] }

/-- The effect `e`. -/
def emit (e : η) : Traced ε η Unit := { result := .ok (), effects := [e] }

@[simp] theorem result_lift (x : Except ε α) : (lift x : Traced ε η α).result = x := rfl

@[simp] theorem effects_lift (x : Except ε α) : (lift x : Traced ε η α).effects = [] := rfl

/-- Without its effects, a sequence ends in what the sequence of the results ends in. -/
theorem result_bind (x : Traced ε η α) (f : α → Traced ε η β) :
    (x >>= f).result = x.result >>= fun a => (f a).result := by
  obtain ⟨result, effects⟩ := x
  cases result <;> rfl

theorem effects_bind (x : Traced ε η α) (f : α → Traced ε η β) :
    (x >>= f).effects = x.effects ++
      match x.result with
      | .ok a => (f a).effects
      | .error _ => [] := by
  obtain ⟨result, effects⟩ := x
  cases result with
  | ok a => rfl
  | error e => exact (List.append_nil effects).symm

theorem effects_emit_bind (e : η) (f : Unit → Traced ε η β) :
    (emit e >>= f).effects = e :: (f ()).effects := effects_bind _ _

/-- What comes after a computation that succeeds without effects has all the effects. -/
theorem effects_lift_bind_of_ok {x : Except ε α} {a : α} (h : x = .ok a)
    (f : α → Traced ε η β) : (lift x >>= f).effects = (f a).effects := by
  rw [h]
  exact effects_bind _ _

/-- What comes after a computation without effects has effects only if this succeeds. -/
theorem effects_lift_bind_cases (x : Except ε α) (f : α → Traced ε η β) :
    (lift x >>= f).effects = [] ∨ ∃ a, x = .ok a ∧ (lift x >>= f).effects = (f a).effects := by
  cases x with
  | ok a => exact Or.inr ⟨a, rfl, effects_lift_bind_of_ok rfl f⟩
  | error e => exact Or.inl (effects_bind _ _)

end Effects
