/-
**Requests that the limiter counts in parallel.**

The limiter reads the row of the window, decides, and commits the count it has read plus one, or the
first row of the window.  When several workers count requests of one window, another request may be
committed between the read and the commit: the commit then violates the uniqueness of the window, or
overwrites a count.

Main definitions:

* `SmsForwarder.LimitStage`, `SmsForwarder.limitStep` — the steps of a call;
* `SmsForwarder.LimitKept` — what the limiter is for;
* `SmsForwarder.CommitsAsRead` — a commit finds the window as the call has read it.

Main results:

* `SmsForwarder.limit_alone` — a call that is alone does what `check_rate_limit` does;
* `SmsForwarder.limitKept_of_commitsAsRead` — **as long as every commit finds the window as it was
  read, the limit is kept and nothing but a `RateLimitError` is raised**;
* `SmsForwarder.requests_race` — two runs in which that fails.
-/

import Mathlib.Data.Finset.Card
import SmsForwarder.Interleavings
import SmsForwarder.RateLimiter

set_option relaxedAutoImplicit false
set_option autoImplicit false

namespace SmsForwarder

open Tables Runs

/-! ### The steps of a call -/

/-- How far a call is. -/
inductive LimitStage
  | start
  /-- the row of the window was read, and is below the limit -/
  | commit (record : Option RateLimit)
  | done (answer : Except PyError Unit)

/-- The stage after the limit was checked. -/
def LimitStage.afterCheck (record : Option RateLimit) : Except PyError Unit → LimitStage
  | .ok _ => .commit record
  | .error e => .done (.error e)

variable {ι : Type} (env : Env) (resourceKey : String) (limit : ℤ) (now : ι → Timestamp)

/-- The stage after the row was read. -/
def LimitStage.afterRead (i : ι) : Except PyError (Option RateLimit) → LimitStage
  | .ok record => .afterCheck record (ensureBelow limit 60 (now i) record)
  | .error e => .done (.error e)

/-- The end of a call, and the table it leaves. -/
def LimitStage.committed (rows : List RateLimit) :
    Except PyError (List RateLimit) → List RateLimit × LimitStage
  | .ok rows' => (rows', .done (.ok ()))
  | .error e => (rows, .done (.error e))

/-- The next step of a call for the resource. -/
def limitStep (i : ι) (rows : List RateLimit) : LimitStage → List RateLimit × LimitStage
  | .start => (rows, .afterRead limit now i (readWindow rows resourceKey (windowStart (now i))))
  | .commit record =>
      LimitStage.committed rows (flushWindow env rows resourceKey (windowStart (now i)) record)
  | .done answer => (rows, .done answer)

/-- **A call that is alone does what `check_rate_limit` does.** -/
theorem limit_alone (i : ι) (rows : List RateLimit) :
    Interleavings.alone (limitStep env resourceKey limit now) i 2 (rows, .start) =
      match checkRateLimit env rows resourceKey limit 60 (now i) with
      | .ok rows' => (rows', .done (.ok ()))
      | .error e => (rows, .done (.error e)) := by
  rw [Interleavings.alone_succ, Interleavings.alone_succ, Interleavings.alone_zero]
  unfold checkRateLimit
  simp only [limitStep]
  cases readWindow rows resourceKey (windowStart (now i)) with
  | error e => rfl
  | ok record =>
      simp only [LimitStage.afterRead, bind, Except.bind]
      cases ensureBelow limit 60 (now i) record with
      | error e => rfl
      | ok u =>
          simp only [LimitStage.afterCheck]
          cases flushWindow env rows resourceKey (windowStart (now i)) record <;> rfl

/-- The configurations of calls that run in parallel. -/
abbrev LimitConfig (ι : Type) := Interleavings.Config (List RateLimit) ι LimitStage

/-! ### What the limiter is for -/

/-- At most `limit` calls have returned, and the others that have ended were refused. -/
structure LimitKept (c : LimitConfig ι) : Prop where
  atMost : ∀ returned : Finset ι, (∀ i ∈ returned, c.2 i = .done (.ok ())) →
    (returned.card : ℤ) ≤ limit
  othersRefused : ∀ i e, c.2 i = .done (.error e) → ∃ r, e = .app (RateLimitError r)

/-- If the next step of the call is its commit, it finds the window as the call has read it. -/
def CommitsAsRead (c : LimitConfig ι) (i : ι) : Prop :=
  ∀ record, c.2 i = .commit record →
    readWindow c.1 resourceKey (windowStart (now i)) = .ok record

/-! ### The invariant of the runs -/

/-- What a call knows at each stage. -/
def LimitSound : LimitStage → Prop
  | .start => True
  | .commit record => ∀ r, record = some r → (r.requestCount : ℤ) < limit
  | .done answer => ∀ e, answer = .error e → ∃ r, e = .app (RateLimitError r)

/-- The count of the window is what it was, and one more for each call that has returned. -/
structure LimitInvariant (start : Timestamp) (counted : ℕ) (c : LimitConfig ι) : Prop where
  admitted : AdmittedRateLimits env.schema c.1
  stages : ∀ i, LimitSound limit (c.2 i)
  counts : ∃ returned : Finset ι, (∀ i, i ∈ returned ↔ c.2 i = .done (.ok ())) ∧
    (countOf c.1 (resourceKey, start)).getD 0 = counted + returned.card ∧
    (returned.card = 0 ∨ ((counted + returned.card : ℕ) : ℤ) ≤ limit)

variable {env resourceKey limit now} {start : Timestamp} {counted : ℕ} {c : LimitConfig ι}

/-- The invariant says of every state what the limiter is for. -/
theorem LimitInvariant.limitKept (h : LimitInvariant env resourceKey limit start counted c)
    (hlimit : 1 ≤ limit) : LimitKept limit c where
  atMost s hs := by
    obtain ⟨returned, hiff, -, hle⟩ := h.counts
    have hsub : s.card ≤ returned.card := Finset.card_le_card fun i hi => (hiff i).2 (hs i hi)
    rcases hle with hzero | hle
    · omega
    · push_cast at hle
      omega
  othersRefused i e hi := by
    have hsound := h.stages i
    rw [hi] at hsound
    exact hsound e rfl

theorem limitInvariant_start {rows : List RateLimit} (hadm : AdmittedRateLimits env.schema rows) :
    LimitInvariant env resourceKey limit start ((countOf rows (resourceKey, start)).getD 0)
      ((rows, fun _ => .start) : LimitConfig ι) where
  admitted := hadm
  stages _ := trivial
  counts := ⟨∅, by simp, by simp, Or.inl rfl⟩

section

variable [DecidableEq ι]

/-- A step that returns from no call and leaves the table alone. -/
theorem LimitInvariant.quiet (h : LimitInvariant env resourceKey limit start counted c) {i : ι}
    {stage : LimitStage} (hsound : LimitSound limit stage) (hstart : c.2 i ≠ .done (.ok ()))
    (hstage : stage ≠ .done (.ok ())) :
    LimitInvariant env resourceKey limit start counted (c.1, Function.update c.2 i stage) where
  admitted := h.admitted
  stages := (Function.forall_update_iff c.2 fun _ stage => LimitSound limit stage).2
    ⟨hsound, fun j _ => h.stages j⟩
  counts := by
    obtain ⟨returned, hiff, hcount⟩ := h.counts
    refine ⟨returned, ?_, hcount⟩
    refine (Function.forall_update_iff c.2 fun j stage =>
      (j ∈ returned ↔ stage = .done (.ok ()))).2 ⟨?_, fun j _ => hiff j⟩
    rw [hiff i]
    exact iff_of_false hstart hstage

/-- A commit that finds the window as it was read. -/
theorem LimitInvariant.commit (h : LimitInvariant env resourceKey limit start counted c) {i : ι}
    {record : Option RateLimit} {rows' : List RateLimit} (hlimit : 1 ≤ limit)
    (hi : c.2 i = .commit record)
    (hrecord : lookup RateLimit.window (resourceKey, start) c.1 = record)
    (hadm : AdmittedRateLimits env.schema rows')
    (hcount : countOf rows' (resourceKey, start) = some (nextCount record)) :
    LimitInvariant env resourceKey limit start counted
      (rows', Function.update c.2 i (.done (.ok ()))) where
  admitted := hadm
  stages := (Function.forall_update_iff c.2 fun _ stage => LimitSound limit stage).2
    ⟨fun e he => by simp at he, fun j _ => h.stages j⟩
  counts := by
    obtain ⟨returned, hiff, hbefore, -⟩ := h.counts
    have hnew : i ∉ returned := by
      rw [hiff i, hi]
      simp
    have hread : (record.map RateLimit.requestCount).getD 0 = counted + returned.card := by
      rw [← hbefore, ← hrecord]
      rfl
    have hnext : nextCount record = counted + returned.card + 1 := by
      rw [← hread]
      cases record <;> rfl
    have hbelow : (nextCount record : ℤ) ≤ limit := by
      have hsound := h.stages i
      rw [hi] at hsound
      cases record with
      | none => exact hlimit
      | some r => exact hsound r rfl
    refine ⟨insert i returned, fun j => ?_, ?_, Or.inr ?_⟩
    · show j ∈ insert i returned ↔ Function.update c.2 i (.done (.ok ())) j = .done (.ok ())
      by_cases hj : j = i
      · simp [hj]
      · rw [Function.update_of_ne hj, ← hiff j, Finset.mem_insert]
        exact or_iff_right hj
    · show (countOf rows' (resourceKey, start)).getD 0 = _
      rw [hcount, Finset.card_insert_of_notMem hnew, Option.getD_some, hnext, Nat.add_assoc]
    · rw [Finset.card_insert_of_notMem hnew, ← Nat.add_assoc, ← hnext]
      exact hbelow

/-- **Every step whose commit finds the window as it was read keeps the invariant.** -/
theorem limitInvariant_exec (h : LimitInvariant env resourceKey limit start counted c) {i : ι}
    (hlimit : 1 ≤ limit)
    (hkey : env.schema.enforceLengths = true → fitsColumn 255 resourceKey = true)
    (hnow : windowStart (now i) = start) (hread : CommitsAsRead resourceKey now c i) :
    LimitInvariant env resourceKey limit start counted
      (Interleavings.exec (limitStep env resourceKey limit now) c i).2 := by
  unfold Interleavings.exec
  cases hi : c.2 i with
  | start =>
      simp only [limitStep]
      rw [readWindow_eq h.admitted.2.2]
      unfold LimitStage.afterRead
      simp only
      cases hbelow : ensureBelow limit 60 (now i)
          (lookup RateLimit.window (resourceKey, windowStart (now i)) c.1) with
      | error e =>
          refine h.quiet (fun e' he => ?_) (by simp [hi]) (by simp [LimitStage.afterCheck])
          obtain rfl := Except.error.inj he
          exact ⟨_, (ensureBelow_eq_error hbelow).1⟩
      | ok u =>
          refine h.quiet ?_ (by simp [hi]) (by simp [LimitStage.afterCheck])
          exact ensureBelow_eq_ok.1 hbelow
  | commit record =>
      have hfound := hread record hi
      rw [readWindow_eq h.admitted.2.2, hnow] at hfound
      have hrecord := Except.ok.inj hfound
      obtain ⟨rows', hflush, hadm, hcount⟩ := flushWindow_of_current h.admitted hkey hrecord
      have hupdated : countOf rows' (resourceKey, start) = some (nextCount record) := by
        rw [hcount, Function.update_self]
      simp only [limitStep]
      rw [hnow, hflush]
      exact h.commit hlimit hi hrecord hadm hupdated
  | done answer =>
      simp only [limitStep]
      rw [← hi, Function.update_eq_self]
      exact h

/-- **Requests counted in parallel.**  In every run in which every commit finds the window as the
call has read it, at most `limit` calls return, and the others are refused with a
`RateLimitError`. -/
theorem limitKept_of_commitsAsRead (env : Env) (resourceKey : String) (limit : ℤ)
    (hlimit : 1 ≤ limit) (rows : List RateLimit) (hadm : AdmittedRateLimits env.schema rows)
    (hkey : env.schema.enforceLengths = true → fitsColumn 255 resourceKey = true)
    (now : ι → Timestamp) (start : Timestamp) (hnow : ∀ i, windowStart (now i) = start)
    (sched : List ι)
    (hread : ∀ step ∈ trace (Interleavings.exec (limitStep env resourceKey limit now))
      (rows, fun _ => .start) sched, CommitsAsRead resourceKey now step.before step.op) :
    Along (Interleavings.exec (limitStep env resourceKey limit now)) (fun c _ => LimitKept limit c)
      (rows, fun _ => .start) sched := by
  have hinv : ∀ pre, pre <+: sched → LimitInvariant env resourceKey limit start
      ((countOf rows (resourceKey, start)).getD 0)
      (final (Interleavings.exec (limitStep env resourceKey limit now))
        (rows, fun _ => .start) pre) := by
    intro pre
    induction pre using List.reverseRecOn with
    | nil => exact fun _ => limitInvariant_start hadm
    | append_singleton pre i ih =>
        intro hpre
        rw [final_concat]
        refine limitInvariant_exec (ih ((List.prefix_append _ _).trans hpre)) hlimit hkey (hnow i) ?_
        exact hread _ ((mem_trace_iff _).2 ⟨pre, i, hpre, rfl⟩)
  exact fun pre hpre => (hinv pre hpre).limitKept hlimit

end

/-! ### Runs -/

/-- The runs of requests for `r` in the first minute, on an empty table. -/
def limitRun {ι : Type} [DecidableEq ι] (limit : ℤ) (sched : List ι) : LimitConfig ι :=
  final (Interleavings.exec (limitStep (plainEnv ormSchema) "r" limit fun _ => 0))
    ([], fun _ => .start) sched

/-- One after the other, two requests keep the limit of one. -/
theorem one_by_one_limitKept :
    Along (Interleavings.exec (limitStep (plainEnv ormSchema) "r" 1 fun _ : Bool => 0))
      (fun c _ => LimitKept 1 c) ([], fun _ => .start) [false, false, true] := by
  refine limitKept_of_commitsAsRead (plainEnv ormSchema) "r" 1 le_rfl []
    (admittedRateLimits_nil _)
    (fun h => by simp [plainEnv, ormSchema] at h)
    (fun _ => 0) 0 (fun _ => rfl) [false, false, true] ?_
  intro step hstep record hrecord
  simp only [trace, List.mem_cons, List.not_mem_nil, or_false] at hstep
  rcases hstep with rfl | rfl | rfl
  · cases hrecord
  · cases hrecord
    rfl
  · cases hrecord

/-- **Requests that read the window before another one is committed**: two first requests, of which
the second ends in an `IntegrityError`; and three requests that return under a limit of two. -/
theorem requests_race :
    (limitRun 2 [false, true, false, true]).2 false = .done (.ok ()) ∧
      (limitRun 2 [false, true, false, true]).2 true = .done (.error .integrityError) ∧
      ¬ LimitKept 2 (limitRun 2 [false, true, false, true]) ∧
      (∀ i : Fin 3, (limitRun 2 [0, 0, 1, 2, 1, 2]).2 i = .done (.ok ())) ∧
      ¬ LimitKept 2 (limitRun 2 ([0, 0, 1, 2, 1, 2] : List (Fin 3))) := by
  have hreturned : ∀ i : Fin 3, (limitRun 2 [0, 0, 1, 2, 1, 2]).2 i = .done (.ok ()) := by
    intro i
    fin_cases i <;> rfl
  refine ⟨rfl, rfl, fun h => ?_, hreturned, fun h => ?_⟩
  · obtain ⟨r, hr⟩ := h.othersRefused true .integrityError rfl
    cases hr
  · have hcard := h.atMost Finset.univ fun i _ => hreturned i
    simp at hcard

end SmsForwarder
