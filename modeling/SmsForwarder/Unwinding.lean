/-
**Unwinding.**

Some calls of a sequential system are hidden from an observer, who sees of a state only a part of
it, the *view*, and of the other calls only an *output*.  The hidden calls do not interfere with what
the observer sees if a hidden call keeps the view, and if the view before another call determines
the view after it and its output.  These are conditions on single calls; the result is about two
runs of any length that differ in hidden calls only.

Main definitions:

* `Unwinding.visible` — the calls of a run that are not hidden;
* `Unwinding.Unwinds` — the conditions on single calls.

Main results:

* `Unwinding.Unwinds.noninterference` — **runs with the same visible calls end in the same view, with
  the same outputs**;
* `Unwinding.unwinds_of_projection` — the conditions where the view is a state itself.
-/

import SmsForwarder.Runs

set_option relaxedAutoImplicit false
set_option autoImplicit false

namespace Unwinding

open Runs

variable {σ α ω υ ο : Type*}

/-- The calls of a run that are not hidden. -/
def visible (hidden : σ → α → Bool) (tr : List (Call σ α ω)) : List (Call σ α ω) :=
  tr.filter fun c => !hidden c.before c.op

/-- The unwinding conditions, under an invariant `I` of all runs. -/
structure Unwinds (exec : σ → α → ω × σ) (I : σ → Prop) (hidden : σ → α → Bool) (view : σ → υ)
    (output : Call σ α ω → ο) : Prop where
  keep : ∀ s a, I s → I (exec s a).2
  silent : ∀ s a, I s → hidden s a = true → view (exec s a).2 = view s
  step : ∀ s s' a, I s → I s' → view s = view s' → hidden s a = false → hidden s' a = false →
    view (exec s a).2 = view (exec s' a).2 ∧ output (call exec s a) = output (call exec s' a)

section

variable {exec : σ → α → ω × σ} {I : σ → Prop} {hidden : σ → α → Bool} {view : σ → υ}
  {output : Call σ α ω → ο} {s s' : σ} {a : α} {as bs : List α}

theorem visible_cons_of_hidden (h : hidden s a = true) :
    visible hidden (trace exec s (a :: as)) = visible hidden (trace exec (exec s a).2 as) := by
  simp [visible, trace, h]

theorem visible_cons_of_not_hidden (h : hidden s a = false) :
    visible hidden (trace exec s (a :: as)) =
      call exec s a :: visible hidden (trace exec (exec s a).2 as) := by
  simp [visible, trace, h]

/-- Where the state does not matter to which calls are hidden, the visible ones are read off the
list of calls. -/
theorem visible_map_op (p : α → Bool) :
    (visible (fun _ => p) (trace exec s as)).map Call.op = as.filter fun a => !p a := by
  have hops : as.filter (fun a => !p a) =
      ((trace exec s as).map Call.op).filter fun a => !p a := by rw [map_op_trace]
  rw [hops, List.filter_map]
  rfl

/-- Where the view is itself a state, in which a visible call does what it does in the whole one. -/
theorem unwinds_of_projection {project : σ → σ} (keep : ∀ s a, I s → I (exec s a).2)
    (silent : ∀ s a, I s → hidden s a = true → project (exec s a).2 = project s)
    (step : ∀ s a, I s → hidden s a = false →
      project (exec s a).2 = project (exec (project s) a).2 ∧
        output (call exec s a) = output (call exec (project s) a)) :
    Unwinds exec I hidden project output where
  keep := keep
  silent := silent
  step s s' a hs hs' hview ha ha' := by
    obtain ⟨hnext, hout⟩ := step s a hs ha
    obtain ⟨hnext', hout'⟩ := step s' a hs' ha'
    rw [hview] at hnext hout
    exact ⟨hnext.trans hnext'.symm, hout.trans hout'.symm⟩

variable (h : Unwinds exec I hidden view output)
include h

/-- A run of hidden calls keeps the view. -/
theorem Unwinds.view_final_of_hidden (hs : I s) (hnone : visible hidden (trace exec s as) = []) :
    view (final exec s as) = view s := by
  induction as generalizing s with
  | nil => rfl
  | cons a as ih =>
      cases ha : hidden s a with
      | true =>
          rw [visible_cons_of_hidden ha] at hnone
          have hrest := ih (h.keep s a hs) hnone
          rw [h.silent s a hs ha] at hrest
          exact hrest
      | false =>
          rw [visible_cons_of_not_hidden ha] at hnone
          simp at hnone

/-- **Noninterference.**  Runs that start from states with the same view and have the same visible
calls end in states with the same view, and have the same outputs. -/
theorem Unwinds.noninterference (hs : I s) (hs' : I s') (hview : view s = view s')
    (hsame : (visible hidden (trace exec s as)).map Call.op =
      (visible hidden (trace exec s' bs)).map Call.op) :
    view (final exec s as) = view (final exec s' bs) ∧
      (visible hidden (trace exec s as)).map output =
        (visible hidden (trace exec s' bs)).map output := by
  induction as generalizing s s' bs with
  | nil =>
      have hnone : visible hidden (trace exec s' bs) = [] := List.map_eq_nil_iff.1 hsame.symm
      rw [hnone, h.view_final_of_hidden hs' hnone]
      exact ⟨hview, rfl⟩
  | cons a as ih =>
      cases ha : hidden s a with
      | true =>
          rw [visible_cons_of_hidden ha] at hsame ⊢
          exact ih (h.keep s a hs) hs' ((h.silent s a hs ha).trans hview) hsame
      | false =>
          rw [visible_cons_of_not_hidden ha] at hsame ⊢
          -- the other run reaches the same call after some hidden ones
          induction bs generalizing s' with
          | nil => simp [visible] at hsame
          | cons b bs ihb =>
              cases hb : hidden s' b with
              | true =>
                  rw [visible_cons_of_hidden hb] at hsame ⊢
                  exact ihb (h.keep s' b hs') (hview.trans (h.silent s' b hs' hb).symm) hsame
              | false =>
                  rw [visible_cons_of_not_hidden hb] at hsame ⊢
                  rw [List.map_cons, List.map_cons, List.cons.injEq] at hsame
                  obtain ⟨hop, hrest⟩ := hsame
                  obtain rfl : a = b := hop
                  obtain ⟨hnext, hout⟩ := h.step s s' a hs hs' hview ha hb
                  obtain ⟨hfinal, houts⟩ := ih (h.keep s a hs) (h.keep s' a hs') hnext hrest
                  rw [List.map_cons, List.map_cons, hout, houts]
                  exact ⟨hfinal, rfl⟩

end

end Unwinding
