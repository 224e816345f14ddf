/-
**Runs of a sequential system.**

A sequential system answers one call at a time: a call `a` issued in state `s` produces an answer
and the next state.  This module collects what a development about such a system needs whatever
the system is: the state a list of calls leads to, the record of the run (its *trace*, which is
what statements about "the last call that did so and so" are about), and the induction rules.

Main definitions:

* `Runs.Call`, `Runs.trace`, `Runs.final` — one executed call, the record of a run, its last state;
* `Runs.attempt` — a call that may fail, and then leaves the state as it was;
* `Runs.Call.map` — a call seen through maps of states, calls and answers;
* `Runs.last` — what the latest call of some kind says;
* `Runs.withHistory` — the calls of a record, each with those before it;
* `Runs.Since` — some call of a run was a `p`, and every call since was a `q`;
* `Runs.Along` — a property holds in every state a run passes through.

Main results:

* `Runs.attempt_keeps` — what a call that may fail keeps;
* `Runs.run_induction` — what holds at the start and is kept by every call holds after every run;
* `Runs.trace_map` — if a map of the states takes every call to one of another system, it takes
  every run to one;
* `Runs.run_congr` — two systems that execute every call alike have the same runs;
* `Runs.final_filter` — calls that leave the state as it was can be left out of a run;
* `Runs.journal`, `Runs.journal_history` — a table that grows by a row for each call that logs is a
  record of these calls;
* `Runs.iff_since` — what a `p` makes true and only a `q` keeps true holds exactly when there was a
  `p` and only `q`s since;
* `Runs.along_iff_forall_call` — **a property that one call keeps exactly when the call meets a
  guard holds along a run exactly when every call of the run meets the guard**.
-/

import Mathlib.Data.List.Basic
import Mathlib.Data.List.Forall2
import Mathlib.Data.List.Infix
import Mathlib.Tactic.Common

set_option relaxedAutoImplicit false
set_option autoImplicit false

namespace Runs

variable {σ α ω : Type*}

/-- One executed call: the state it was issued in, the call, its answer and the state it left. -/
structure Call (σ α ω : Type*) where
  before : σ
  op : α
  answer : ω
  after : σ

/-- The call `a` executed in state `s`. -/
def call (exec : σ → α → ω × σ) (s : σ) (a : α) : Call σ α ω :=
  ⟨s, a, (exec s a).1, (exec s a).2⟩

/-- A call seen through maps of states, calls and answers. -/
def Call.map {σ' α' ω' : Type*} (f : σ → σ') (g : α → α') (h : ω → ω') (c : Call σ α ω) :
    Call σ' α' ω' :=
  ⟨f c.before, g c.op, h c.answer, f c.after⟩

/-- A call that either fails, and leaves the state as it was, or ends in a new state. -/
def attempt {ε : Type*} (r : Except ε (σ × ω)) (s : σ) : Except ε ω × σ :=
  match r with
  | .ok (s', w) => (.ok w, s')
  | .error e => (.error e, s)

/-- A call that may fail kept the state or ended in the state it returned. -/
theorem attempt_cases {ε : Type*} (r : Except ε (σ × ω)) (s : σ) :
    (∃ s' w, r = .ok (s', w) ∧ attempt r s = (.ok w, s')) ∨
      ∃ e, r = .error e ∧ attempt r s = (.error e, s) := by
  cases r with
  | ok p => exact Or.inl ⟨p.1, p.2, rfl, rfl⟩
  | error e => exact Or.inr ⟨e, rfl, rfl⟩

/-- What holds of the state, and of every state the call could return, holds of the state it
leaves. -/
theorem attempt_keeps {ε : Type*} {P : σ → Prop} {r : Except ε (σ × ω)} {s : σ} (h : P s)
    (hr : ∀ s' w, r = .ok (s', w) → P s') : P (attempt r s).2 := by
  rcases attempt_cases r s with ⟨s', w, hok, hattempt⟩ | ⟨e, -, hattempt⟩
  · rw [hattempt]
    exact hr s' w hok
  · rwa [hattempt]

/-- The record of a call that may fail. -/
theorem call_attempt_cases {ε : Type*} (run : σ → α → Except ε (σ × ω)) (s : σ) (a : α) :
    (∃ s' w, run s a = .ok (s', w) ∧
        call (fun s a => attempt (run s a) s) s a = ⟨s, a, .ok w, s'⟩) ∨
      ∃ e, run s a = .error e ∧
        call (fun s a => attempt (run s a) s) s a = ⟨s, a, .error e, s⟩ := by
  simp only [call]
  rcases attempt_cases (run s a) s with ⟨s', w, hr, hattempt⟩ | ⟨e, hr, hattempt⟩
  · exact Or.inl ⟨s', w, hr, by rw [hattempt]⟩
  · exact Or.inr ⟨e, hr, by rw [hattempt]⟩

/-- A call seen through a map of the states, which takes a state it leaves to one the mapped call
leaves. -/
theorem attempt_map {ε : Type*} (f : σ → σ) (r : Except ε (σ × ω)) (s : σ) :
    attempt (r.map fun p => (f p.1, p.2)) (f s) = ((attempt r s).1, f (attempt r s).2) := by
  cases r <;> rfl

/-- What the latest call for which `f` has a value says. -/
def last {β : Type*} (f : Call σ α ω → Option β) (tr : List (Call σ α ω)) : Option β :=
  tr.reverse.findSome? f

@[simp] theorem last_nil {β : Type*} (f : Call σ α ω → Option β) : last f [] = none := rfl

@[simp] theorem last_concat {β : Type*} (f : Call σ α ω → Option β) (tr : List (Call σ α ω))
    (c : Call σ α ω) : last f (tr ++ [c]) = (f c).or (last f tr) := by
  unfold last
  rw [List.reverse_append, List.reverse_singleton, List.singleton_append, List.findSome?_cons]
  cases f c <;> rfl

@[simp] theorem call_before (exec : σ → α → ω × σ) (s : σ) (a : α) :
    (call exec s a).before = s := rfl

@[simp] theorem call_op (exec : σ → α → ω × σ) (s : σ) (a : α) :
    (call exec s a).op = a := rfl

/-- The state after the calls `as`, issued one after the other from `s`. -/
def final (exec : σ → α → ω × σ) (s : σ) (as : List α) : σ :=
  as.foldl (fun s a => (exec s a).2) s

/-- The record of a run, the oldest call first. -/
def trace (exec : σ → α → ω × σ) : σ → List α → List (Call σ α ω)
  | _, [] => []
  | s, a :: as => call exec s a :: trace exec (exec s a).2 as

section

variable (exec : σ → α → ω × σ)

@[simp] theorem final_nil (s : σ) : final exec s [] = s := rfl

@[simp] theorem trace_nil (s : σ) : trace exec s [] = [] := rfl

@[simp] theorem final_concat (s : σ) (as : List α) (a : α) :
    final exec s (as ++ [a]) = (exec (final exec s as) a).2 := by
  simp [final, List.foldl_append]

@[simp] theorem trace_concat (s : σ) (as : List α) (a : α) :
    trace exec s (as ++ [a]) = trace exec s as ++ [call exec (final exec s as) a] := by
  induction as generalizing s with
  | nil => simp [trace, final]
  | cons b as ih =>
      simp only [List.cons_append, trace, ih]
      rfl

@[simp] theorem map_op_trace (s : σ) (as : List α) : (trace exec s as).map Call.op = as := by
  induction as generalizing s with
  | nil => rfl
  | cons a as ih => simp [trace, ih]

/-- What holds initially and is kept by every call holds after every run, of the state reached
and of the record of the run. -/
theorem run_induction {P : σ → List (Call σ α ω) → Prop} {s₀ : σ} (init : P s₀ [])
    (step : ∀ s tr a, P s tr → P (exec s a).2 (tr ++ [call exec s a])) (as : List α) :
    P (final exec s₀ as) (trace exec s₀ as) := by
  induction as using List.reverseRecOn with
  | nil => exact init
  | append_singleton as a ih =>
      rw [final_concat, trace_concat]
      exact step _ _ a ih

section

variable {σ' α' ω' : Type*} (exec' : σ' → α' → ω' × σ') {f : σ → σ'} {g : α → α'} {h : ω → ω'}
  {I : σ → Prop}

/-- If `f` takes every call to one of another system, it takes the state after a run to one. -/
theorem final_map (keep : ∀ s a, I s → I (exec s a).2)
    (step : ∀ s a, I s → exec' (f s) (g a) = (h (exec s a).1, f (exec s a).2)) {s : σ} (hs : I s)
    (as : List α) : final exec' (f s) (as.map g) = f (final exec s as) := by
  induction as generalizing s with
  | nil => rfl
  | cons a as ih =>
      have hnext : (exec' (f s) (g a)).2 = f (exec s a).2 := by rw [step s a hs]
      have hrest := ih (keep s a hs)
      rw [← hnext] at hrest
      exact hrest

/-- **A simulation by a map**: if `f` takes every call to one of another system, it takes every run
to one. -/
theorem trace_map (keep : ∀ s a, I s → I (exec s a).2)
    (step : ∀ s a, I s → exec' (f s) (g a) = (h (exec s a).1, f (exec s a).2)) {s : σ} (hs : I s)
    (as : List α) :
    trace exec' (f s) (as.map g) = (trace exec s as).map (Call.map f g h) := by
  induction as generalizing s with
  | nil => rfl
  | cons a as ih =>
      have hcall : call exec' (f s) (g a) = (call exec s a).map f g h := by
        simp only [call, Call.map, step s a hs]
      have hnext : (exec' (f s) (g a)).2 = f (exec s a).2 := by rw [step s a hs]
      rw [List.map_cons, trace, trace, List.map_cons, hcall, hnext, ih (keep s a hs)]

end

/-- The calls of a run are the calls issued at its prefixes. -/
theorem mem_trace_iff {s₀ : σ} {as : List α} {c : Call σ α ω} :
    c ∈ trace exec s₀ as ↔
      ∃ pre a, pre ++ [a] <+: as ∧ c = call exec (final exec s₀ pre) a := by
  induction as using List.reverseRecOn with
  | nil => simp
  | append_singleton as b ih =>
      rw [trace_concat, List.mem_append, ih, List.mem_singleton]
      constructor
      · rintro (⟨pre, a, hpre, rfl⟩ | rfl)
        · exact ⟨pre, a, hpre.trans (List.prefix_append _ _), rfl⟩
        · exact ⟨as, b, List.prefix_rfl, rfl⟩
      · rintro ⟨pre, a, hpre, rfl⟩
        rcases List.prefix_concat_iff.1 hpre with h | h
        · obtain ⟨rfl, hab⟩ := List.append_inj' h rfl
          obtain rfl : a = b := by simpa using hab
          exact Or.inr rfl
        · exact Or.inl ⟨pre, a, h, rfl⟩

/-- A call of a run was issued after the calls before it. -/
theorem trace_split {s : σ} {as : List α} {pre post : List (Call σ α ω)} {c : Call σ α ω}
    (h : trace exec s as = pre ++ c :: post) :
    ∃ bs cs, as = bs ++ c.op :: cs ∧ pre = trace exec s bs ∧
      c = call exec (final exec s bs) c.op := by
  induction pre generalizing s as with
  | nil =>
      cases as with
      | nil => simp at h
      | cons a as =>
          obtain ⟨rfl, -⟩ := List.cons.inj h
          exact ⟨[], as, rfl, rfl, rfl⟩
  | cons d pre ih =>
      cases as with
      | nil => simp at h
      | cons a as =>
          obtain ⟨rfl, hrest⟩ := List.cons.inj h
          obtain ⟨bs, cs, rfl, hpre, hc⟩ := ih hrest
          exact ⟨a :: bs, cs, rfl, by rw [hpre]; rfl, hc⟩

/-- What every call keeps holds wherever a call of a run was issued. -/
theorem before_of_mem_trace {I : σ → Prop} (keep : ∀ s a, I s → I (exec s a).2) {s : σ}
    (hs : I s) {as : List α} {c : Call σ α ω} (hc : c ∈ trace exec s as) :
    I c.before ∧ c = call exec c.before c.op := by
  induction as generalizing s with
  | nil => simp at hc
  | cons a as ih =>
      rcases List.mem_cons.1 hc with rfl | hc
      · exact ⟨hs, rfl⟩
      · exact ih (keep s a hs) hc

/-- What every call keeps holds at the end of a run. -/
theorem final_of_keep {I : σ → Prop} (keep : ∀ s a, I s → I (exec s a).2) {s : σ} (hs : I s)
    (as : List α) : I (final exec s as) := by
  induction as generalizing s with
  | nil => exact hs
  | cons a as ih => exact ih (keep s a hs)

/-- Two systems that execute a call alike, in every state that the runs of the first can reach, have
the same runs. -/
theorem run_congr {exec' : σ → α → ω × σ} {I : σ → Prop} (keep : ∀ s a, I s → I (exec s a).2)
    (same : ∀ s a, I s → exec s a = exec' s a) {s : σ} (hs : I s) (as : List α) :
    trace exec s as = trace exec' s as ∧ final exec s as = final exec' s as := by
  induction as generalizing s with
  | nil => exact ⟨rfl, rfl⟩
  | cons a as ih =>
      obtain ⟨htrace, hfinal⟩ := ih (keep s a hs)
      have hcall : call exec s a = call exec' s a := by
        unfold call
        rw [same s a hs]
      refine ⟨?_, ?_⟩
      · rw [trace, trace, hcall, htrace, same s a hs]
      · show final exec (exec s a).2 as = final exec' (exec' s a).2 as
        rw [hfinal, same s a hs]

/-- What a run has changed, some call of the run has changed. -/
theorem exists_call_of_ne {β : Type*} (f : σ → β) {s : σ} {as : List α}
    (h : f (final exec s as) ≠ f s) :
    ∃ c ∈ trace exec s as, f c.after ≠ f c.before := by
  induction as generalizing s with
  | nil => exact absurd rfl h
  | cons a as ih =>
      by_cases hfirst : f (exec s a).2 = f s
      · obtain ⟨c, hc, hne⟩ := ih (s := (exec s a).2) (by rwa [hfirst])
        exact ⟨c, List.mem_cons_of_mem _ hc, hne⟩
      · exact ⟨call exec s a, List.mem_cons_self, hfirst⟩

/-- Calls that leave the state as it was can be left out of a run. -/
theorem final_filter {p : Call σ α ω → Bool} {I : σ → Prop} (keep : ∀ s a, I s → I (exec s a).2)
    (h : ∀ s a, I s → p (call exec s a) = false → (exec s a).2 = s) {s : σ} (hs : I s)
    (as : List α) :
    final exec s (((trace exec s as).filter p).map Call.op) = final exec s as := by
  induction as generalizing s with
  | nil => rfl
  | cons a as ih =>
      have hrest := ih (keep s a hs)
      cases hp : p (call exec s a) with
      | true =>
          rw [trace, List.filter_cons_of_pos hp, List.map_cons]
          exact hrest
      | false =>
          rw [trace, List.filter_cons_of_neg (by simp [hp])]
          have hstay := h s a hs hp
          rw [hstay] at hrest ⊢
          show _ = final exec (exec s a).2 as
          rw [hstay]
          exact hrest

omit exec in
/-- The calls of a record, each with the calls before it. -/
def withHistory (before : List (Call σ α ω)) :
    List (Call σ α ω) → List (List (Call σ α ω) × Call σ α ω)
  | [] => []
  | c :: tr => (before, c) :: withHistory (before ++ [c]) tr

omit exec in
theorem withHistory_concat (before tr : List (Call σ α ω)) (c : Call σ α ω) :
    withHistory before (tr ++ [c]) = withHistory before tr ++ [(before ++ tr, c)] := by
  induction tr generalizing before with
  | nil => simp [withHistory]
  | cons d tr ih => simp [withHistory, ih]

omit exec in
theorem map_snd_withHistory (before tr : List (Call σ α ω)) :
    (withHistory before tr).map Prod.snd = tr := by
  induction tr generalizing before with
  | nil => rfl
  | cons d tr ih => simp [withHistory, ih]

omit exec in
theorem mem_withHistory {before tr : List (Call σ α ω)} {p : List (Call σ α ω) × Call σ α ω} :
    p ∈ withHistory before tr ↔ ∃ pre post, tr = pre ++ p.2 :: post ∧ p.1 = before ++ pre := by
  induction tr generalizing before with
  | nil => simp [withHistory]
  | cons d tr ih =>
      rw [withHistory, List.mem_cons, ih]
      constructor
      · rintro (rfl | ⟨pre, post, rfl, hp⟩)
        · exact ⟨[], tr, rfl, by simp⟩
        · exact ⟨d :: pre, post, rfl, by simp [hp]⟩
      · rintro ⟨pre, post, htr, hp⟩
        cases pre with
        | nil =>
            obtain ⟨hd, -⟩ := List.cons.inj htr
            exact Or.inl (Prod.ext (by simp [hp]) hd.symm)
        | cons c pre =>
            obtain ⟨rfl, rfl⟩ := List.cons.inj htr
            exact Or.inr ⟨pre, post, rfl, by simp [hp]⟩

omit exec in
theorem exists_of_forall₂ {β ρ : Type*} {R : β → ρ → Prop} {xs : List β} {ys : List ρ}
    (h : List.Forall₂ R xs ys) {y : ρ} (hy : y ∈ ys) : ∃ x ∈ xs, R x y := by
  induction h with
  | nil => simp at hy
  | @cons x y' xs ys hxy _ ih =>
      rcases List.mem_cons.1 hy with rfl | hy
      · exact ⟨x, List.mem_cons_self, hxy⟩
      · obtain ⟨x', hx', hR⟩ := ih hy
        exact ⟨x', List.mem_cons_of_mem _ hx', hR⟩

/-- A table that only ever grows at its end, by a row for each call that logs, has a row for each
logging call of a run, in order; what a row says may depend on the calls before. -/
theorem journal_history {ρ : Type*} (table : σ → List ρ) {logs : Call σ α ω → Bool}
    {R : List (Call σ α ω) → Call σ α ω → ρ → Prop} {I : σ → List (Call σ α ω) → Prop} {s₀ : σ}
    (hI : ∀ as, I (final exec s₀ as) (trace exec s₀ as))
    (step : ∀ s tr a, I s tr →
      (logs (call exec s a) = false ∧ table (exec s a).2 = table s) ∨
        (logs (call exec s a) = true ∧ ∃ row, R tr (call exec s a) row ∧
          table (exec s a).2 = table s ++ [row]))
    (hempty : table s₀ = []) (as : List α) :
    List.Forall₂ (fun p => R p.1 p.2) ((withHistory [] (trace exec s₀ as)).filter fun p => logs p.2)
      (table (final exec s₀ as)) := by
  induction as using List.reverseRecOn with
  | nil =>
      rw [final_nil, hempty]
      exact List.Forall₂.nil
  | append_singleton as a ih =>
      rw [trace_concat, final_concat, withHistory_concat, List.filter_append, List.nil_append]
      rcases step _ _ a (hI as) with ⟨hlogs, hkeep⟩ | ⟨hlogs, row, hrow, hadd⟩
      · rw [List.filter_cons_of_neg (by simp [hlogs]), List.filter_nil, List.append_nil, hkeep]
        exact ih
      · rw [List.filter_cons_of_pos (by simpa using hlogs), List.filter_nil, hadd]
        exact List.rel_append ih (List.Forall₂.cons hrow List.Forall₂.nil)

/-- A table that only ever grows at its end, by a row for each call that logs, has a row for each
logging call of a run, in order. -/
theorem journal {ρ : Type*} (table : σ → List ρ) {logs : Call σ α ω → Bool}
    {R : Call σ α ω → ρ → Prop} {I : σ → Prop} (keep : ∀ s a, I s → I (exec s a).2)
    (step : ∀ s a, I s →
      (logs (call exec s a) = false ∧ table (exec s a).2 = table s) ∨
        (logs (call exec s a) = true ∧ ∃ row, R (call exec s a) row ∧
          table (exec s a).2 = table s ++ [row]))
    {s₀ : σ} (hs : I s₀) (hempty : table s₀ = []) (as : List α) :
    List.Forall₂ R ((trace exec s₀ as).filter logs) (table (final exec s₀ as)) := by
  have hops : (trace exec s₀ as).filter logs =
      ((withHistory [] (trace exec s₀ as)).filter fun p => logs p.2).map Prod.snd := by
    have hsnd := map_snd_withHistory [] (trace exec s₀ as)
    nth_rewrite 1 [← hsnd]
    rw [List.filter_map]
    rfl
  rw [hops, List.forall₂_map_left_iff]
  exact journal_history exec table (R := fun _ => R) (I := fun s _ => I s)
    (final_of_keep exec keep hs) (fun s _ a => step s a) hempty as

/-- Some call of the run was a `p`, and every call since was a `q`. -/
def Since (p q : Call σ α ω → Prop) (tr : List (Call σ α ω)) : Prop :=
  ∃ pre c post, tr = pre ++ c :: post ∧ p c ∧ ∀ c' ∈ post, q c'

omit exec in
theorem not_since_nil {p q : Call σ α ω → Prop} : ¬ Since p q [] := by
  rintro ⟨pre, c, post, h, -⟩
  simp at h

omit exec in
/-- The last call was the `p`, or it was a `q` after one. -/
theorem since_concat {p q : Call σ α ω → Prop} {tr : List (Call σ α ω)} {c : Call σ α ω} :
    Since p q (tr ++ [c]) ↔ p c ∨ (Since p q tr ∧ q c) := by
  constructor
  · rintro ⟨pre, d, post, htr, hd, hpost⟩
    rcases List.eq_nil_or_concat' post with rfl | ⟨post, e, rfl⟩
    · obtain ⟨-, hcd⟩ := List.append_inj' htr rfl
      obtain rfl : c = d := by simpa using hcd
      exact Or.inl hd
    · rw [List.forall_mem_append, List.forall_mem_singleton] at hpost
      have hsplit : tr ++ [c] = (pre ++ d :: post) ++ [e] := by simpa using htr
      obtain ⟨rfl, hce⟩ := List.append_inj' hsplit rfl
      obtain rfl : c = e := by simpa using hce
      exact Or.inr ⟨⟨pre, d, post, rfl, hd, hpost.1⟩, hpost.2⟩
  · rintro (hc | ⟨⟨pre, d, post, rfl, hd, hpost⟩, hc⟩)
    · exact ⟨tr, c, [], rfl, hc, by simp⟩
    · refine ⟨pre, d, post ++ [c], by simp, hd, ?_⟩
      rw [List.forall_mem_append, List.forall_mem_singleton]
      exact ⟨hpost, hc⟩

/-- What a `p` makes true and only a `q` keeps true holds exactly when there was a `p` and only
`q`s since.  `I` is an invariant of all runs. -/
theorem iff_since {I : σ → List (Call σ α ω) → Prop} {P : σ → Prop} {p q : Call σ α ω → Prop}
    {s₀ : σ} (hI : ∀ as, I (final exec s₀ as) (trace exec s₀ as)) (init : ¬ P s₀)
    (step : ∀ s tr a, I s tr →
      (P (exec s a).2 ↔ p (call exec s a) ∨ (P s ∧ q (call exec s a)))) (as : List α) :
    P (final exec s₀ as) ↔ Since p q (trace exec s₀ as) := by
  induction as using List.reverseRecOn with
  | nil => exact iff_of_false init not_since_nil
  | append_singleton as a ih =>
      rw [final_concat, trace_concat, since_concat, step _ _ a (hI as), ih]

/-- `P` holds of the state and the record at every point of the run `as` from `s₀`, its start and
its end included. -/
def Along (P : σ → List (Call σ α ω) → Prop) (s₀ : σ) (as : List α) : Prop :=
  ∀ pre, pre <+: as → P (final exec s₀ pre) (trace exec s₀ pre)

theorem along_nil {P : σ → List (Call σ α ω) → Prop} {s₀ : σ} :
    Along exec P s₀ [] ↔ P s₀ [] := by
  simp [Along]

theorem along_concat {P : σ → List (Call σ α ω) → Prop} {s₀ : σ} {as : List α} {a : α} :
    Along exec P s₀ (as ++ [a]) ↔ Along exec P s₀ as ∧
      P (exec (final exec s₀ as) a).2 (trace exec s₀ as ++ [call exec (final exec s₀ as) a]) := by
  constructor
  · intro h
    refine ⟨fun pre hpre => h pre (hpre.trans (List.prefix_append _ _)), ?_⟩
    simpa using h _ List.prefix_rfl
  · rintro ⟨h, ha⟩ pre hpre
    rcases List.prefix_concat_iff.1 hpre with rfl | hpre
    · simpa using ha
    · exact h pre hpre

/-- **Guarded runs.**  If a call that starts from `P` ends in `P` exactly when it meets the guard
`G`, then `P` holds along a run exactly when every call of the run meets the guard.  `I` is an
invariant of all runs along which `P` holds. -/
theorem along_iff_forall_call {I P : σ → List (Call σ α ω) → Prop} {G : σ → α → Prop} {s₀ : σ}
    (initI : I s₀ []) (initP : P s₀ [])
    (stepI : ∀ s tr a, I s tr → P s tr → I (exec s a).2 (tr ++ [call exec s a]))
    (stepP : ∀ s tr a, I s tr → P s tr →
      (P (exec s a).2 (tr ++ [call exec s a]) ↔ G s a)) (as : List α) :
    Along exec P s₀ as ↔ ∀ c ∈ trace exec s₀ as, G c.before c.op := by
  have inv : ∀ bs, Along exec P s₀ bs → I (final exec s₀ bs) (trace exec s₀ bs) := by
    intro bs
    induction bs using List.reverseRecOn with
    | nil => exact fun _ => initI
    | append_singleton bs b ih =>
        intro h
        obtain ⟨h, -⟩ := (along_concat exec).1 h
        rw [final_concat, trace_concat]
        exact stepI _ _ b (ih h) (h bs List.prefix_rfl)
  induction as using List.reverseRecOn with
  | nil => simpa [along_nil] using initP
  | append_singleton as a ih =>
      rw [along_concat, trace_concat, List.forall_mem_append, List.forall_mem_singleton]
      constructor
      · rintro ⟨h, ha⟩
        exact ⟨ih.1 h, (stepP _ _ a (inv as h) (h as List.prefix_rfl)).1 ha⟩
      · rintro ⟨h, ha⟩
        have hP := ih.2 h
        exact ⟨hP, (stepP _ _ a (inv as hP) (hP as List.prefix_rfl)).2 ha⟩

end

end Runs
