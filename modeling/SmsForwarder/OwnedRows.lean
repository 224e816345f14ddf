/-
**Rows with an owner.**

Threads share a table.  A thread appends one row of its own and later rewrites that row, and touches
no other.  Then the table is at all times what it held at first, and behind it the rows of the
threads as these know them, in the order in which they were appended: no row is lost, none is there
twice, and none is overwritten by another thread.

Main definitions:

* `OwnedRows.Owned` — the table holds the first rows and then those of the threads.

Main results:

* `OwnedRows.Owned.append`, `OwnedRows.Owned.rewrite` — the two writes of a thread.
-/

import Mathlib.Logic.Function.Basic
import SmsForwarder.Tables

set_option relaxedAutoImplicit false
set_option autoImplicit false

namespace OwnedRows

open Tables

variable {ρ κ ι : Type*}

/-- The table holds the rows `before`, and behind them the row of each thread that has one. -/
def Owned (before : List ρ) (own : ι → Option ρ) (rows : List ρ) : Prop :=
  ∃ order : List ι, order.Nodup ∧ (∀ i, i ∈ order ↔ (own i).isSome = true) ∧
    rows = before ++ order.filterMap own

variable {before rows : List ρ} {own : ι → Option ρ} {i : ι} {r : ρ}

theorem owned_start (before : List ρ) : Owned before (fun _ : ι => none) before :=
  ⟨[], List.nodup_nil, by simp, by simp⟩

section

variable [DecidableEq ι]

theorem filterMap_update_of_notMem {order : List ι} (hi : i ∉ order) (value : Option ρ) :
    order.filterMap (Function.update own i value) = order.filterMap own := by
  refine List.filterMap_congr fun j hj => ?_
  have hne : j ≠ i := fun heq => hi (heq ▸ hj)
  exact Function.update_of_ne hne value own

theorem isSome_update (value : Option ρ) (hvalue : value.isSome = true) (j : ι) :
    (Function.update own i value j).isSome = true ↔ j = i ∨ (own j).isSome = true := by
  by_cases hj : j = i
  · subst hj
    rw [Function.update_self]
    exact iff_of_true hvalue (Or.inl rfl)
  · rw [Function.update_of_ne hj]
    exact (or_iff_right hj).symm

/-- A thread without a row appends one. -/
theorem Owned.append (h : Owned before own rows) (hi : own i = none) (r : ρ) :
    Owned before (Function.update own i (some r)) (rows ++ [r]) := by
  obtain ⟨order, hnodup, hmem, rfl⟩ := h
  have hnot : i ∉ order := by
    intro horder
    have hsome := (hmem i).1 horder
    rw [hi] at hsome
    simp at hsome
  refine ⟨order ++ [i], ?_, fun j => ?_, ?_⟩
  · rw [List.nodup_append]
    refine ⟨hnodup, List.nodup_singleton i, fun j hj k hk => ?_⟩
    rw [List.mem_singleton.1 hk]
    exact fun heq => hnot (heq ▸ hj)
  · rw [isSome_update _ rfl, List.mem_append, List.mem_singleton, hmem j, or_comm]
  · rw [List.filterMap_append, filterMap_update_of_notMem hnot]
    simp

variable [DecidableEq κ] {key : ρ → κ}

/-- A thread rewrites its row. -/
theorem Owned.rewrite (h : Owned before own rows) (hi : own i = some r)
    (hunique : UniqueKey key rows) (new : ρ) :
    Owned before (Function.update own i (some new)) (updateKey key (key r) (fun _ => new) rows) := by
  obtain ⟨order, hnodup, hmem, rfl⟩ := h
  have horder : i ∈ order := (hmem i).2 (by rw [hi]; rfl)
  refine ⟨order, hnodup, fun j => ?_, ?_⟩
  · rw [isSome_update _ rfl, hmem j]
    exact ⟨Or.inr, fun hj => hj.elim (fun heq => by rw [heq, hi]; rfl) id⟩
  · -- the row of the thread stands between those of the threads before it and after it
    obtain ⟨first, last, rfl⟩ := List.append_of_mem horder
    have hfirst : i ∉ first := fun hmem => by
      rw [List.nodup_append] at hnodup
      exact hnodup.2.2 i hmem i List.mem_cons_self rfl
    have hlast : i ∉ last := by
      rw [List.nodup_append, List.nodup_cons] at hnodup
      exact hnodup.2.1.1
    have hrows : ∀ value : Option ρ, before ++ (first ++ i :: last).filterMap
        (Function.update own i value) =
          (before ++ first.filterMap own) ++ (value.toList ++ last.filterMap own) := by
      intro value
      rw [List.filterMap_append, filterMap_update_of_notMem hfirst, List.filterMap_cons,
        Function.update_self, filterMap_update_of_notMem hlast, List.append_assoc]
      cases value <;> rfl
    have hself : Function.update own i (some r) = own := by
      rw [← hi]
      exact Function.update_eq_self i own
    have hold := hrows (some r)
    rw [hself] at hold
    rw [hrows, hold]
    rw [hold] at hunique
    exact updateKey_middle hunique

end

end OwnedRows
