/-
**What a computation can raise.**

A computation that may fail is bounded by a set of errors if it raises no other.  The rules follow
the way such computations are put together: a sequence raises what its parts raise, the second part
from a value that the first has returned.

Main definitions:

* `Exceptions.Raises` — all errors of the computation are in the set.

Main results:

* `Exceptions.raises_bind`, `Exceptions.raises_map`, `Exceptions.raises_mapM` — **the rules of
  composition**;
* `Exceptions.raises_attempt` — a call of a sequential system that may fail.
-/

import SmsForwarder.Runs

set_option relaxedAutoImplicit false
set_option autoImplicit false

namespace Exceptions

variable {ε α β : Type} {E F : ε → Prop}

/-- Every error that `x` raises is in `E`. -/
def Raises (E : ε → Prop) (x : Except ε α) : Prop := ∀ e, x = .error e → E e

@[simp] theorem raises_ok (a : α) : Raises E (.ok a : Except ε α) := fun e h => by simp at h

@[simp] theorem raises_pure (a : α) : Raises E (pure a : Except ε α) := raises_ok a

@[simp] theorem raises_error {e : ε} : Raises E (.error e : Except ε α) ↔ E e :=
  ⟨fun h => h e rfl, fun he _ h => Except.error.inj h ▸ he⟩

theorem Raises.mono {x : Except ε α} (h : Raises E x) (hEF : ∀ e, E e → F e) : Raises F x :=
  fun e he => hEF e (h e he)

/-- A sequence raises what its parts raise. -/
theorem raises_bind {x : Except ε α} {f : α → Except ε β} (hx : Raises E x)
    (hf : ∀ a, x = .ok a → Raises E (f a)) : Raises E (x >>= f) := by
  intro e he
  cases h : x with
  | error e' =>
      rw [h] at he
      obtain rfl : e' = e := Except.error.inj he
      exact hx e' h
  | ok a =>
      rw [h] at he
      exact hf a h e he

@[simp] theorem raises_map {x : Except ε α} {f : α → β} : Raises E (x.map f) ↔ Raises E x := by
  cases x with
  | error e => exact ⟨fun h => raises_error.2 (h e rfl), fun h => raises_error.2 (h e rfl)⟩
  | ok a => exact ⟨fun _ => raises_ok a, fun _ => raises_ok (f a)⟩

theorem raises_ite {c : Prop} [Decidable c] {x y : Except ε α} (hx : c → Raises E x)
    (hy : ¬ c → Raises E y) : Raises E (if c then x else y) := by
  by_cases h : c
  · rw [if_pos h]
    exact hx h
  · rw [if_neg h]
    exact hy h

/-- A loop raises what a pass of it raises. -/
theorem raises_mapM {f : α → Except ε β} {xs : List α} (h : ∀ x ∈ xs, Raises E (f x)) :
    Raises E (xs.mapM f) := by
  induction xs with
  | nil => exact raises_pure []
  | cons x xs ih =>
      obtain ⟨hx, hxs⟩ := List.forall_mem_cons.1 h
      rw [List.mapM_cons]
      exact raises_bind hx fun _ _ => raises_bind (ih hxs) fun _ _ => raises_pure _

/-- A call that may fail raises what it ends in. -/
@[simp] theorem raises_attempt {σ ω : Type} {r : Except ε (σ × ω)} {s : σ} :
    Raises E (Runs.attempt r s).1 ↔ Raises E r := by
  cases r with
  | error e => exact ⟨fun h => raises_error.2 (h e rfl), fun h => raises_error.2 (h e rfl)⟩
  | ok p => exact ⟨fun _ => raises_ok p, fun _ => raises_ok p.2⟩

end Exceptions
