/-
**Interleavings of threads over a shared state.**

Every thread has a local state and takes atomic steps that read or write the shared state; a
schedule says whose turn it is.  A thread that is *finished* does nothing any more.

The threads of interest are transactions: all their steps read, except that the one in which they
finish may write.  For these a whole interleaving collapses.  Up to the first thread that finishes
everyone saw the initial state, and that thread ran as if it had been alone; the others go on from
what they had read by then.

Main definitions:

* `Interleavings.Config`, `Interleavings.exec` — configurations and their steps, as a system of
  `Runs`;
* `Interleavings.advance`, `Interleavings.alone` — a thread on a state that does not change, and a
  thread that has the state for itself;
* `Interleavings.ReadsFirst` — only the step in which a thread finishes writes;
* `Interleavings.Precedes` — the order of two steps in a schedule;
* `Interleavings.Turn` — what a schedule does before a step of a thread.

Main results:

* `Interleavings.exists_first` — in a schedule that finishes every thread, one finishes first;
* `Interleavings.final_reading` — before that, the state is the initial one and every thread is
  where its own steps on the initial state brought it;
* `Interleavings.precedes_concat_of_le` — the order of two steps is settled once the later one was
  taken;
* `Interleavings.final_simulation` — a simulation of the steps is one of the interleavings;
* `Interleavings.final_split` — **what two threads end in, from the thread that finished first and
  the number of steps the other had taken.**
-/

import Mathlib.Data.List.Count
import Mathlib.Data.List.Infix
import Mathlib.Logic.Function.Basic
import Mathlib.Logic.Function.Iterate
import SmsForwarder.Runs

set_option relaxedAutoImplicit false
set_option autoImplicit false

namespace Interleavings

open Runs

variable {σ ι ℓ : Type*}

/-! ### Configurations -/

/-- A shared state and the local states of the threads. -/
abbrev Config (σ ι ℓ : Type*) := σ × (ι → ℓ)

section

variable [DecidableEq ι] (step : ι → σ → ℓ → σ × ℓ)

/-- The turn of thread `i`. -/
def exec (c : Config σ ι ℓ) (i : ι) : Unit × Config σ ι ℓ :=
  ((), (step i c.1 (c.2 i)).1, Function.update c.2 i (step i c.1 (c.2 i)).2)

variable {step}

@[simp] theorem exec_fst (c : Config σ ι ℓ) (i : ι) :
    (exec step c i).2.1 = (step i c.1 (c.2 i)).1 := rfl

@[simp] theorem exec_self (c : Config σ ι ℓ) (i : ι) :
    (exec step c i).2.2 i = (step i c.1 (c.2 i)).2 := by
  simp [exec]

theorem exec_of_ne (c : Config σ ι ℓ) {i j : ι} (h : j ≠ i) : (exec step c i).2.2 j = c.2 j := by
  simp [exec, h]

end

/-! ### One thread -/

variable (step : ι → σ → ℓ → σ × ℓ)

/-- The local state after `n` steps that all find the shared state `s`. -/
def advance (i : ι) (s : σ) (n : ℕ) (l : ℓ) : ℓ := (fun l => (step i s l).2)^[n] l

/-- The state and the local state after `n` steps of a thread that is alone. -/
def alone (i : ι) (n : ℕ) (p : σ × ℓ) : σ × ℓ := (fun p => step i p.1 p.2)^[n] p

@[simp] theorem advance_zero (i : ι) (s : σ) (l : ℓ) : advance step i s 0 l = l := rfl

theorem advance_succ (i : ι) (s : σ) (n : ℕ) (l : ℓ) :
    advance step i s (n + 1) l = (step i s (advance step i s n l)).2 :=
  Function.iterate_succ_apply' _ _ _

@[simp] theorem alone_zero (i : ι) (p : σ × ℓ) : alone step i 0 p = p := rfl

theorem alone_succ (i : ι) (n : ℕ) (p : σ × ℓ) :
    alone step i (n + 1) p = alone step i n (step i p.1 p.2) :=
  Function.iterate_succ_apply _ _ _

theorem alone_succ' (i : ι) (n : ℕ) (p : σ × ℓ) :
    alone step i (n + 1) p =
      step i (alone step i n p).1 (alone step i n p).2 :=
  Function.iterate_succ_apply' _ _ _

theorem alone_add (i : ι) (m n : ℕ) (p : σ × ℓ) :
    alone step i (m + n) p = alone step i m (alone step i n p) :=
  Function.iterate_add_apply _ _ _ _

/-- Threads that do nothing once they are finished, and write only in the step in which they
finish. -/
structure ReadsFirst (fin : ℓ → Prop) : Prop where
  stutter : ∀ i s l, fin l → step i s l = (s, l)
  reads : ∀ i s l, ¬ fin (step i s l).2 → (step i s l).1 = s

section

variable {step} {fin : ℓ → Prop} (h : ReadsFirst step fin)
include h

/-- A finished thread stays as it is. -/
theorem ReadsFirst.alone_of_fin {i : ι} {p : σ × ℓ} (hp : fin p.2) (n : ℕ) :
    alone step i n p = p := by
  induction n with
  | zero => rfl
  | succ n ih => rw [alone_succ, h.stutter i p.1 p.2 hp, ih]

/-- A thread that is finished after some steps is finished after more, in the same state. -/
theorem ReadsFirst.alone_eq_of_fin {i : ι} {p : σ × ℓ} {m n : ℕ} (hm : fin (alone step i m p).2)
    (hn : fin (alone step i n p).2) : alone step i m p = alone step i n p := by
  have key : ∀ {a b : ℕ}, a ≤ b → fin (alone step i a p).2 →
      alone step i b p = alone step i a p := by
    intro a b hab ha
    obtain ⟨k, rfl⟩ := Nat.exists_eq_add_of_le hab
    rw [Nat.add_comm, alone_add, h.alone_of_fin ha]
  rcases Nat.le_total m n with hmn | hnm
  · exact (key hmn hm).symm
  · exact key hnm hn

/-- More steps on a state keep a thread finished. -/
theorem ReadsFirst.fin_advance_mono {i : ι} {s : σ} {l : ℓ} {m n : ℕ} (hmn : m ≤ n)
    (hm : fin (advance step i s m l)) : fin (advance step i s n l) := by
  induction n, hmn using Nat.le_induction with
  | base => exact hm
  | succ n hmn ih =>
      rw [advance_succ, h.stutter i s _ ih]
      exact ih

/-- A thread that did not finish saw the same state all along. -/
theorem ReadsFirst.alone_eq_advance {i : ι} {s : σ} {l : ℓ} {n : ℕ}
    (hn : ¬ fin (advance step i s n l)) : alone step i n (s, l) = (s, advance step i s n l) := by
  induction n with
  | zero => rfl
  | succ n ih =>
      rw [advance_succ] at hn
      have hprev : ¬ fin (advance step i s n l) := by
        intro hfin
        rw [h.stutter i s _ hfin] at hn
        exact hn hfin
      rw [alone_succ', ih hprev, advance_succ]
      exact Prod.ext (h.reads i s _ hn) rfl

end

/-! ### Schedules -/

section

variable [DecidableEq ι] {step} {fin : ℓ → Prop} (h : ReadsFirst step fin)
include h

/-- A thread that is finished stays finished, in the same local state. -/
theorem ReadsFirst.exec_of_fin {c : Config σ ι ℓ} {j : ι} (hj : fin (c.2 j)) (i : ι) :
    (exec step c i).2.2 j = c.2 j := by
  by_cases hij : j = i
  · subst hij
    rw [exec_self, h.stutter j c.1 (c.2 j) hj]
  · exact exec_of_ne c hij

theorem ReadsFirst.final_of_fin {c : Config σ ι ℓ} {j : ι} (hj : fin (c.2 j)) (sched : List ι) :
    (final (exec step) c sched).2 j = c.2 j := by
  induction sched generalizing c with
  | nil => rfl
  | cons i sched ih =>
      have hi := h.exec_of_fin hj i
      exact (ih (by rw [hi]; exact hj)).trans hi

/-- **Before the first thread finishes**, the shared state is the initial one and every thread is
where its own steps on the initial state brought it. -/
theorem final_reading {c : Config σ ι ℓ} {pre : List ι}
    (hpre : ∀ k, ¬ fin ((final (exec step) c pre).2 k)) :
    (final (exec step) c pre).1 = c.1 ∧
      ∀ k, (final (exec step) c pre).2 k = advance step k c.1 (pre.count k) (c.2 k) := by
  induction pre using List.reverseRecOn with
  | nil => exact ⟨rfl, fun _ => rfl⟩
  | append_singleton pre i ih =>
      rw [final_concat] at hpre ⊢
      have hprev : ∀ k, ¬ fin ((final (exec step) c pre).2 k) := by
        intro k hk
        exact hpre k (by rw [h.exec_of_fin hk i]; exact hk)
      obtain ⟨hs, hl⟩ := ih hprev
      have hi := hpre i
      rw [exec_self] at hi
      refine ⟨(h.reads i _ _ hi).trans hs, fun k => ?_⟩
      by_cases hk : k = i
      · subst hk
        rw [exec_self, hs, hl k, List.count_append, List.count_singleton_self, advance_succ]
      · have hcount : ([i] : List ι).count k = 0 := by
          rw [List.count_eq_zero, List.mem_singleton]
          exact hk
        rw [exec_of_ne _ hk, hl k, List.count_append, hcount, Nat.add_zero]

/-- A thread that would not be finished by its own steps on the initial state is not finished, as
long as that holds of all of them. -/
theorem not_fin_of_advance {c : Config σ ι ℓ} {pre : List ι}
    (hadv : ∀ k, ¬ fin (advance step k c.1 (pre.count k) (c.2 k))) (k : ι) :
    ¬ fin ((final (exec step) c pre).2 k) := by
  induction pre using List.reverseRecOn generalizing k with
  | nil => exact hadv k
  | append_singleton pre i ih =>
      have hprev : ∀ k, ¬ fin (advance step k c.1 (pre.count k) (c.2 k)) := by
        intro k hfin
        refine hadv k ?_
        rw [List.count_append]
        exact h.fin_advance_mono (Nat.le_add_right _ _) hfin
      have hnot := ih hprev
      obtain ⟨hs, hl⟩ := final_reading h hnot
      rw [final_concat]
      by_cases hk : k = i
      · subst hk
        have hlast := hadv k
        rw [List.count_append, List.count_singleton_self, advance_succ] at hlast
        rw [exec_self, hs, hl k]
        exact hlast
      · rw [exec_of_ne _ hk]
        exact hnot k

omit h in
/-- In a schedule that finishes every thread, one finishes first. -/
theorem exists_first [Nonempty ι] {c : Config σ ι ℓ} {sched : List ι} (hstart : ∀ k, ¬ fin (c.2 k))
    (hend : ∀ k, fin ((final (exec step) c sched).2 k)) :
    ∃ pre i post, sched = pre ++ i :: post ∧ (∀ k, ¬ fin ((final (exec step) c pre).2 k)) ∧
      fin ((final (exec step) c (pre ++ [i])).2 i) := by
  have key : ∀ s : List ι, (∃ k, fin ((final (exec step) c s).2 k)) →
      ∃ pre i post, s = pre ++ i :: post ∧ (∀ k, ¬ fin ((final (exec step) c pre).2 k)) ∧
        fin ((final (exec step) c (pre ++ [i])).2 i) := by
    intro s
    induction s using List.reverseRecOn with
    | nil =>
        intro hk
        obtain ⟨k, hk⟩ := hk
        exact absurd hk (hstart k)
    | append_singleton s i ih =>
        intro hk
        obtain ⟨k, hk⟩ := hk
        by_cases hbefore : ∃ k, fin ((final (exec step) c s).2 k)
        · obtain ⟨pre, j, post, rfl, hpre, hj⟩ := ih hbefore
          exact ⟨pre, j, post ++ [i], by simp, hpre, hj⟩
        · have hnone : ∀ k, ¬ fin ((final (exec step) c s).2 k) := by
            intro k hfin
            exact hbefore ⟨k, hfin⟩
          -- only the thread whose turn it was can have finished in the last step
          have hki : k = i := by
            by_contra hne
            rw [final_concat, exec_of_ne _ hne] at hk
            exact hnone k hk
          subst hki
          exact ⟨s, k, [], rfl, hnone, hk⟩
  obtain ⟨k⟩ := ‹Nonempty ι›
  exact key sched ⟨k, hend k⟩

/-- With all other threads finished, a thread is alone. -/
theorem final_alone {c : Config σ ι ℓ} {j : ι} (hothers : ∀ k, k ≠ j → fin (c.2 k))
    (post : List ι) :
    ((final (exec step) c post).1, (final (exec step) c post).2 j) =
      alone step j (post.count j) (c.1, c.2 j) := by
  induction post generalizing c with
  | nil => rfl
  | cons i post ih =>
      have hnext : ∀ k, k ≠ j → fin ((exec step c i).2.2 k) := by
        intro k hk
        rw [h.exec_of_fin (hothers k hk) i]
        exact hothers k hk
      have hrest := ih hnext
      by_cases hij : i = j
      · subst hij
        rw [List.count_cons_self, alone_succ]
        rw [exec_fst, exec_self] at hrest
        exact hrest
      · have hcount : (i :: post).count j = post.count j := by
          rw [List.count_cons_of_ne hij]
        rw [hcount]
        rw [exec_fst, exec_of_ne _ (Ne.symm hij), h.stutter i _ _ (hothers i hij)] at hrest
        exact hrest

end

/-! ### The order of the steps -/

section

variable [DecidableEq ι]

/-- Thread `i` takes its `m`-th step before thread `j` takes its `n`-th one. -/
def Precedes (sched : List ι) (i : ι) (m : ℕ) (j : ι) (n : ℕ) : Prop :=
  ∃ pre, pre <+: sched ∧ m ≤ pre.count i ∧ pre.count j < n

instance (sched : List ι) (i : ι) (m : ℕ) (j : ι) (n : ℕ) : Decidable (Precedes sched i m j n) :=
  decidable_of_iff (∃ pre ∈ sched.inits, m ≤ pre.count i ∧ pre.count j < n)
    (exists_congr fun _ => and_congr_left fun _ => List.mem_inits _ _)

/-- The order of two steps is settled once the later one was taken. -/
theorem precedes_concat_of_le {sched : List ι} {i j k : ι} {m n : ℕ} (h : n ≤ sched.count j) :
    Precedes (sched ++ [k]) i m j n ↔ Precedes sched i m j n := by
  constructor
  · rintro ⟨pre, hpre, hm, hn⟩
    rcases List.prefix_concat_iff.1 hpre with rfl | hpre
    · rw [List.count_append] at hn
      omega
    · exact ⟨pre, hpre, hm, hn⟩
  · rintro ⟨pre, hpre, hm, hn⟩
    exact ⟨pre, hpre.trans (List.prefix_append _ _), hm, hn⟩

/-- A step that was not taken precedes none that was. -/
theorem not_precedes {sched : List ι} {i j : ι} {m n : ℕ} (h : sched.count i < m) :
    ¬ Precedes sched i m j n := by
  rintro ⟨pre, hpre, hm, -⟩
  have hle := hpre.sublist.count_le i
  omega

/-- A step that is taken now comes after those that were taken. -/
theorem precedes_concat {sched : List ι} {i j : ι} {m n : ℕ} (hi : m ≤ sched.count i)
    (hj : sched.count j < n) (k : ι) : Precedes (sched ++ [k]) i m j n :=
  ⟨sched, List.prefix_append _ _, hi, hj⟩

/-- The schedule does `pre` before thread `i` takes a step, having taken `n` by then. -/
def Turn (sched : List ι) (i : ι) (n : ℕ) (pre : List ι) : Prop :=
  pre ++ [i] <+: sched ∧ pre.count i = n

theorem not_turn_nil {i : ι} {n : ℕ} {pre : List ι} : ¬ Turn [] i n pre := by
  simp [Turn]

theorem turn_concat {sched : List ι} {i k : ι} {n : ℕ} {pre : List ι} :
    Turn (sched ++ [k]) i n pre ↔ Turn sched i n pre ∨ k = i ∧ pre = sched ∧ sched.count i = n := by
  unfold Turn
  rw [List.prefix_concat_iff, List.append_singleton_inj]
  constructor
  · rintro ⟨⟨rfl, rfl⟩ | hpre, hn⟩
    · exact Or.inr ⟨rfl, rfl, hn⟩
    · exact Or.inl ⟨hpre, hn⟩
  · rintro (⟨hpre, hn⟩ | ⟨rfl, rfl, hn⟩)
    · exact ⟨Or.inr hpre, hn⟩
    · exact ⟨Or.inl ⟨rfl, rfl⟩, hn⟩

/-- The steps before a turn and the turn itself were taken. -/
theorem Turn.lt_count {sched : List ι} {i : ι} {n : ℕ} {pre : List ι} (h : Turn sched i n pre) :
    n < sched.count i := by
  have hle := h.1.sublist.count_le i
  rw [List.count_append, List.count_singleton_self, h.2] at hle
  omega

/-- A thread takes each of its steps once. -/
theorem Turn.unique {sched : List ι} {i : ι} {n : ℕ} {pre pre' : List ι} (h : Turn sched i n pre)
    (h' : Turn sched i n pre') : pre = pre' := by
  induction sched using List.reverseRecOn with
  | nil => exact absurd h not_turn_nil
  | append_singleton sched k ih =>
      rcases turn_concat.1 h with hold | ⟨-, rfl, hn⟩
      · rcases turn_concat.1 h' with hold' | ⟨-, rfl, hn'⟩
        · exact ih hold hold'
        · exact absurd hold.lt_count (by omega)
      · rcases turn_concat.1 h' with hold' | ⟨-, rfl, hn'⟩
        · exact absurd hold'.lt_count (by omega)
        · rfl

/-- The turn of a thread is one step of that thread. -/
theorem count_concat (sched : List ι) (i k : ι) :
    (sched ++ [i]).count k = sched.count k + if i = k then 1 else 0 := by
  rw [List.count_append, List.count_singleton]
  simp

end

/-! ### Simulations -/

section

variable {σ' ℓ' : Type*} {step : ι → σ → ℓ → σ × ℓ} {step' : ι → σ' → ℓ' → σ' × ℓ'}
  {R : σ → σ' → Prop} {S : ι → ℓ → ℓ' → Prop}

/-- A simulation of the steps is one of a thread that is alone. -/
theorem alone_simulation
    (hstep : ∀ i s s' l l', R s s' → S i l l' →
      R (step i s l).1 (step' i s' l').1 ∧ S i (step i s l).2 (step' i s' l').2)
    (i : ι) (n : ℕ) {p : σ × ℓ} {p' : σ' × ℓ'} (hR : R p.1 p'.1) (hS : S i p.2 p'.2) :
    R (alone step i n p).1 (alone step' i n p').1 ∧
      S i (alone step i n p).2 (alone step' i n p').2 := by
  induction n with
  | zero => exact ⟨hR, hS⟩
  | succ n ih =>
      rw [alone_succ', alone_succ']
      exact hstep i _ _ _ _ ih.1 ih.2

/-- **A simulation of the steps is one of the interleavings.** -/
theorem final_simulation [DecidableEq ι]
    (hstep : ∀ i s s' l l', R s s' → S i l l' →
      R (step i s l).1 (step' i s' l').1 ∧ S i (step i s l).2 (step' i s' l').2)
    {c : Config σ ι ℓ} {c' : Config σ' ι ℓ'} (hR : R c.1 c'.1) (hS : ∀ i, S i (c.2 i) (c'.2 i))
    (sched : List ι) :
    R (final (exec step) c sched).1 (final (exec step') c' sched).1 ∧
      ∀ i, S i ((final (exec step) c sched).2 i) ((final (exec step') c' sched).2 i) := by
  induction sched using List.reverseRecOn with
  | nil => exact ⟨hR, hS⟩
  | append_singleton sched i ih =>
      rw [final_concat, final_concat]
      obtain ⟨hR', hS'⟩ := ih
      obtain ⟨hnext, hlocal⟩ := hstep i _ _ _ _ hR' (hS' i)
      refine ⟨hnext, fun k => ?_⟩
      by_cases hk : k = i
      · subst hk
        rw [exec_self, exec_self]
        exact hlocal
      · rw [exec_of_ne _ hk, exec_of_ne _ hk]
        exact hS' k

end

/-! ### Two threads -/

/-- **Two threads.**  The thread that finished first ran alone; the other one goes on alone from
what it had read by then. -/
theorem final_split {step : Bool → σ → ℓ → σ × ℓ} {fin : ℓ → Prop} (h : ReadsFirst step fin)
    {c : Config σ Bool ℓ} {pre : List Bool} {i : Bool}
    (hpre : ∀ k, ¬ fin ((final (exec step) c pre).2 k))
    (hi : fin ((final (exec step) c (pre ++ [i])).2 i)) (post : List Bool) :
    let first := alone step i (pre.count i + 1) (c.1, c.2 i)
    fin first.2 ∧ ¬ fin (advance step (!i) c.1 (pre.count (!i)) (c.2 (!i))) ∧
      (final (exec step) c (pre ++ i :: post)).2 i = first.2 ∧
      ((final (exec step) c (pre ++ i :: post)).1,
          (final (exec step) c (pre ++ i :: post)).2 (!i)) =
        alone step (!i) (post.count (!i))
          (first.1, advance step (!i) c.1 (pre.count (!i)) (c.2 (!i))) := by
  obtain ⟨hs, hl⟩ := final_reading h hpre
  have hne : (!i) ≠ i := by cases i <;> decide
  have hfirst : alone step i (pre.count i + 1) (c.1, c.2 i) =
      step i c.1 (advance step i c.1 (pre.count i) (c.2 i)) := by
    rw [alone_succ', h.alone_eq_advance (by rw [← hl i]; exact hpre i)]
  have hmid : final (exec step) c (pre ++ [i]) = (exec step (final (exec step) c pre) i).2 :=
    final_concat _ _ _ _
  have hmid₁ : (final (exec step) c (pre ++ [i])).1 =
      (alone step i (pre.count i + 1) (c.1, c.2 i)).1 := by
    rw [hmid, exec_fst, hs, hl i, hfirst]
  have hmid₂ : (final (exec step) c (pre ++ [i])).2 i =
      (alone step i (pre.count i + 1) (c.1, c.2 i)).2 := by
    rw [hmid, exec_self, hs, hl i, hfirst]
  have hmidj : (final (exec step) c (pre ++ [i])).2 (!i) =
      advance step (!i) c.1 (pre.count (!i)) (c.2 (!i)) := by
    rw [hmid, exec_of_ne _ hne, hl]
  have happ : final (exec step) c (pre ++ i :: post) =
      final (exec step) (final (exec step) c (pre ++ [i])) post := by
    simp [final, List.foldl_append]
  have hothers : ∀ k, k ≠ (!i) → fin ((final (exec step) c (pre ++ [i])).2 k) := by
    intro k hk
    obtain rfl : k = i := by cases k <;> cases i <;> simp_all
    exact hi
  refine ⟨by rw [← hmid₂]; exact hi, ?_, ?_, ?_⟩
  · rw [← hl]
    exact hpre _
  · rw [happ, h.final_of_fin hi post, hmid₂]
  · rw [happ, final_alone h hothers post, hmid₁, hmidj]

end Interleavings
