/-
**Runs of the rate limiter.**

Calls of the limiter are made one after the other, for any resources and at any times: the clock
may be set back between them.  Each of them commits, or raises and leaves the table as it was.  For
every resource and every minute the limiter keeps a quota: as many calls as the limit says return,
and all others are refused.

This is so for the keys that the column takes.  On a database that enforces the lengths of its
columns, a call with a longer key ends in an error of the database.

Main definitions:

* `SmsForwarder.LimiterCall`, `SmsForwarder.LimiterCall.exec` — a call, and what it does;
* `SmsForwarder.KeyFits` — the column takes a key;
* `SmsForwarder.WindowCounted` — what is asked of the calls for one resource and one minute;
* `SmsForwarder.LimiterSound` — what holds of a run.

Main results:

* `SmsForwarder.limiterCall_implements` — a call is a request for its resource and its minute, in
  the sense of `Quotas`;
* `SmsForwarder.storedCount_le_limit` — no stored count exceeds the limit;
* `SmsForwarder.limiterSound_run` — **the first calls of every minute return, as many as the limit
  says, and no call matters to those for other resources or minutes**;
* `SmsForwarder.long_key_refused` — a key that is too long for its column.
-/

import SmsForwarder.LimiterRaces
import SmsForwarder.Quotas
import SmsForwarder.Unwinding

set_option relaxedAutoImplicit false
set_option autoImplicit false

namespace SmsForwarder

open Tables Runs Quotas

/-! ### Calls -/

/-- A call of `check_rate_limit`: the resource, the length of its window, and the clock. -/
structure LimiterCall where
  resourceKey : String
  windowSeconds : ℤ := 60
  now : Timestamp

/-- The resource and the minute of the call. -/
def LimiterCall.window (c : LimiterCall) : String × Timestamp := (c.resourceKey, windowStart c.now)

/-- The call in a session of its own: what it raises, and the table it leaves. -/
def LimiterCall.exec (env : Env) (limit : ℤ) (rows : List RateLimit) (c : LimiterCall) :
    Except PyError Unit × List RateLimit :=
  attempt ((checkRateLimit env rows c.resourceKey limit c.windowSeconds c.now).map
    fun rows' => (rows', ())) rows

/-- The column takes the key. -/
def KeyFits (env : Env) (resourceKey : String) : Prop :=
  env.schema.enforceLengths = true → fitsColumn 255 resourceKey = true

instance (env : Env) (resourceKey : String) : Decidable (KeyFits env resourceKey) :=
  inferInstanceAs (Decidable (_ → _))

/-- The count that is stored for a resource and a minute, zero if there is no row. -/
def storedCount (rows : List RateLimit) (window : String × Timestamp) : ℕ :=
  (countOf rows window).getD 0

section

variable (env : Env) (limit : ℤ) (calls : List LimiterCall)

/-- The record of a run on a new table. -/
def limiterTrace : List (Call (List RateLimit) LimiterCall (Except PyError Unit)) :=
  trace (LimiterCall.exec env limit) [] calls

/-- The table after it. -/
def limiterTable : List RateLimit := final (LimiterCall.exec env limit) [] calls

/-- The calls of the run for a resource and a minute. -/
def callsIn (window : String × Timestamp) :
    List (Call (List RateLimit) LimiterCall (Except PyError Unit)) :=
  callsFor LimiterCall.window window (limiterTrace env limit calls)

/-- **The calls for a resource and a minute are counted**: the first of them, at most as many as the
limit says, return, all others raise a `RateLimitError`, and the stored count is the number of those
that returned. -/
structure WindowCounted (window : String × Timestamp) : Prop where
  returned : ∀ c ∈ (callsIn env limit calls window).take limit.toNat, c.answer = .ok ()
  refused : ∀ c ∈ (callsIn env limit calls window).drop limit.toNat,
    c.answer = .error (.app (RateLimitError (retryAfter c.op.now c.op.windowSeconds)))
  stored : storedCount (limiterTable env limit calls) window =
    ((callsIn env limit calls window).filter fun c => c.answer.isOk).length

/-- **What holds of a run**: the calls with keys that fit are counted; a call that raises leaves the
table as it was; no call writes the row of another resource or minute, and what the calls for a
resource and a minute do is the same whatever other calls are made; a key that does not fit is
refused by the database. -/
structure LimiterSound : Prop where
  counted : ∀ window, KeyFits env window.1 → WindowCounted env limit calls window
  unchanged : ∀ c ∈ limiterTrace env limit calls, ∀ e, c.answer = .error e → c.after = c.before
  otherRows : ∀ c ∈ limiterTrace env limit calls, ∀ window, window ≠ c.op.window →
    lookup RateLimit.window window c.after = lookup RateLimit.window window c.before
  otherCalls : ∀ window calls', (calls'.filter fun c => c.window = window) =
      (calls.filter fun c => c.window = window) →
    (callsIn env limit calls' window).map Call.answer =
        (callsIn env limit calls window).map Call.answer ∧
      storedCount (limiterTable env limit calls') window =
        storedCount (limiterTable env limit calls) window
  tooLong : ∀ c ∈ limiterTrace env limit calls, ¬ KeyFits env c.op.resourceKey →
    c.answer = .error .dataError

end

/-! ### What a call does -/

/-- How many calls return for a resource and a minute. -/
def windowQuota (env : Env) (limit : ℤ) (window : String × Timestamp) : ℕ :=
  if KeyFits env window.1 then limit.toNat else 0

/-- What the call raises, from the count of its window. -/
def LimiterCall.verdict (env : Env) (limit : ℤ) (c : LimiterCall) (count : ℕ) :
    Except PyError Unit :=
  if KeyFits env c.resourceKey then
    if (count : ℤ) < limit then .ok ()
    else .error (.app (RateLimitError (retryAfter c.now c.windowSeconds)))
  else .error .dataError

section

variable {env : Env} {limit : ℤ} {rows : List RateLimit} {c : LimiterCall}

/-- A call is granted below its quota. -/
theorem verdict_eq_ok {count : ℕ} :
    c.verdict env limit count = .ok () ↔ count < windowQuota env limit c.window := by
  have hwindow : c.window.1 = c.resourceKey := rfl
  unfold LimiterCall.verdict windowQuota
  rw [hwindow]
  split_ifs with hkey hlt
  · simp only [true_iff]
    omega
  · simp only [false_iff]
    omega
  · simp

theorem isOk_eq_true {answer : Except PyError Unit} : answer.isOk = true ↔ answer = .ok () := by
  cases answer with
  | ok u => exact iff_of_true rfl rfl
  | error e => simp [Except.isOk, Except.toBool]

/-- The count of a window after one call more. -/
theorem getD_succCount (count : Option ℕ) : succCount count = count.getD 0 + 1 := by
  cases count <;> rfl

/-- A count that goes up by one in a window. -/
theorem storedCount_of_counted {rows' : List RateLimit} {window : String × Timestamp}
    (h : countOf rows' = Function.update (countOf rows) window
      (some (succCount (countOf rows window)))) :
    storedCount rows' =
      Function.update (storedCount rows) window (storedCount rows window + 1) := by
  funext w
  unfold storedCount
  rw [h]
  by_cases hw : w = window
  · rw [hw, Function.update_self, Function.update_self, getD_succCount, Option.getD_some]
  · rw [Function.update_of_ne hw, Function.update_of_ne hw]

/-- Below the limit is a window that has no row, since the limit is at least one, and one whose row
is. -/
theorem storedCount_lt (hlimit : 1 ≤ limit) {window : String × Timestamp}
    (h : ∀ n, countOf rows window = some n → (n : ℤ) < limit) :
    (storedCount rows window : ℤ) < limit := by
  unfold storedCount
  cases hn : countOf rows window with
  | none => exact hlimit
  | some n => exact h n hn

theorem LimiterCall.exec_of_ok {rows' : List RateLimit}
    (h : checkRateLimit env rows c.resourceKey limit c.windowSeconds c.now = .ok rows') :
    c.exec env limit rows = (.ok (), rows') := by
  unfold LimiterCall.exec
  rw [h]
  rfl

theorem LimiterCall.exec_of_error {e : PyError}
    (h : checkRateLimit env rows c.resourceKey limit c.windowSeconds c.now = .error e) :
    c.exec env limit rows = (.error e, rows) := by
  unfold LimiterCall.exec
  rw [h]
  rfl

/-- **All that a call does**: it raises and leaves the table as it was, or it returns and counts
itself in its window. -/
theorem LimiterCall.exec_cases (hadm : AdmittedRateLimits env.schema rows) (hlimit : 1 ≤ limit)
    (c : LimiterCall) :
    (∃ e, c.verdict env limit (storedCount rows c.window) = .error e ∧
        c.exec env limit rows = (.error e, rows)) ∨
      (c.verdict env limit (storedCount rows c.window) = .ok () ∧
        ∃ rows', checkRateLimit env rows c.resourceKey limit c.windowSeconds c.now = .ok rows' ∧
          c.exec env limit rows = (.ok (), rows') ∧ AdmittedRateLimits env.schema rows' ∧
          storedCount rows' = Function.update (storedCount rows) c.window
            (storedCount rows c.window + 1)) := by
  by_cases hkey : KeyFits env c.resourceKey
  · have hcases := checkRateLimit_cases hadm hkey limit c.windowSeconds c.now
    rcases hcases with ⟨n, hn, hle, hcheck⟩ | ⟨hlt, rows', hcheck, hadm', hcount⟩
    · refine Or.inl ⟨.app (RateLimitError (retryAfter c.now c.windowSeconds)), ?_,
        exec_of_error hcheck⟩
      have hstored : storedCount rows c.window = n := by
        simp only [storedCount, LimiterCall.window, hn, Option.getD_some]
      rw [LimiterCall.verdict, if_pos hkey, hstored, if_neg (not_lt.2 hle)]
    · refine Or.inr ⟨?_, rows', hcheck, exec_of_ok hcheck, hadm', storedCount_of_counted hcount⟩
      have hbelow : (storedCount rows c.window : ℤ) < limit := storedCount_lt hlimit hlt
      rw [LimiterCall.verdict, if_pos hkey, if_pos hbelow]
  · have hlong : env.schema.enforceLengths = true ∧ fitsColumn 255 c.resourceKey = false := by
      simpa [KeyFits] using hkey
    refine Or.inl ⟨.dataError, if_neg hkey, exec_of_error ?_⟩
    exact checkRateLimit_of_long hadm hlong.1 hlong.2 limit c.windowSeconds c.now

variable (hadm : AdmittedRateLimits env.schema rows) (hlimit : 1 ≤ limit)
include hadm hlimit

theorem admitted_limiterCall (c : LimiterCall) :
    AdmittedRateLimits env.schema (c.exec env limit rows).2 := by
  rcases c.exec_cases hadm hlimit with ⟨e, -, hexec⟩ | ⟨-, rows', -, hexec, hadm', -⟩
  · rw [hexec]
    exact hadm
  · rw [hexec]
    exact hadm'

/-- A call raises what the count of its window says. -/
theorem answer_limiterCall (c : LimiterCall) :
    (c.exec env limit rows).1 = c.verdict env limit (storedCount rows c.window) := by
  rcases c.exec_cases hadm hlimit with ⟨e, hverdict, hexec⟩ | ⟨hverdict, rows', -, hexec, -⟩
  · rw [hexec, hverdict]
  · rw [hexec, hverdict]

/-- **A call is a request for its window.** -/
theorem request_limiterCall (c : LimiterCall) :
    request (windowQuota env limit) (storedCount rows) c.window =
      ((c.exec env limit rows).1.isOk, storedCount (c.exec env limit rows).2) := by
  rcases c.exec_cases hadm hlimit with ⟨e, hverdict, hexec⟩ | ⟨hverdict, rows', -, hexec, -, hcount⟩
  · have hge : ¬ storedCount rows c.window < windowQuota env limit c.window := by
      rw [← verdict_eq_ok, hverdict]
      simp
    rw [hexec, request_of_ge (not_lt.1 hge)]
    rfl
  · rw [hexec, request_of_lt (verdict_eq_ok.1 hverdict), ← hcount]
    rfl

/-- A call that raises leaves the table as it was. -/
theorem unchanged_limiterCall {e : PyError} (h : (c.exec env limit rows).1 = .error e) :
    (c.exec env limit rows).2 = rows := by
  rcases c.exec_cases hadm hlimit with ⟨e', -, hexec⟩ | ⟨-, rows', -, hexec, -⟩
  · rw [hexec]
  · rw [hexec] at h
    simp at h

/-- A call leaves the rows of other windows alone. -/
theorem lookup_limiterCall {window : String × Timestamp} (h : window ≠ c.window) :
    lookup RateLimit.window window (c.exec env limit rows).2 =
      lookup RateLimit.window window rows := by
  rcases c.exec_cases hadm hlimit with ⟨e, -, hexec⟩ | ⟨-, rows', hcheck, hexec, -⟩
  · rw [hexec]
  · obtain ⟨row, -, hlookup⟩ := lookup_writeWindow hadm.2
      (rfl : lookup RateLimit.window (c.resourceKey, windowStart c.now) rows = _)
    rw [hexec, rows_of_checkRateLimit hadm.2.2 hcheck]
    exact (congrFun hlookup window).trans (Function.update_of_ne h _ _)

end

/-- **The limiter keeps the quotas of the windows.** -/
theorem limiterCall_implements (env : Env) {limit : ℤ} (hlimit : 1 ≤ limit) :
    Implements (LimiterCall.exec env limit) (AdmittedRateLimits env.schema) LimiterCall.window
      storedCount Except.isOk (windowQuota env limit) where
  keep _ c hadm := admitted_limiterCall hadm hlimit c
  step _ c hadm := request_limiterCall hadm hlimit c

/-- The steps of a call that is alone do what the call does. -/
theorem alone_limiterCall (env : Env) (limit : ℤ) (rows : List RateLimit) (c : LimiterCall)
    (hc : c.windowSeconds = 60) :
    Interleavings.alone (limitStep env c.resourceKey limit fun _ : Unit => c.now) () 2
        (rows, .start) = ((c.exec env limit rows).2, .done (c.exec env limit rows).1) := by
  rw [limit_alone]
  unfold LimiterCall.exec
  rw [hc]
  cases checkRateLimit env rows c.resourceKey limit 60 c.now <;> rfl

/-! ### Runs -/

section

variable {env : Env} {limit : ℤ} {calls : List LimiterCall}

/-- Every call of a run was made on a table that the database accepts. -/
theorem mem_limiterTrace (hlimit : 1 ≤ limit)
    {c : Call (List RateLimit) LimiterCall (Except PyError Unit)}
    (hc : c ∈ limiterTrace env limit calls) :
    AdmittedRateLimits env.schema c.before ∧
      c = call (LimiterCall.exec env limit) c.before c.op := by
  obtain ⟨pre, a, -, rfl⟩ := (mem_trace_iff _).1 hc
  refine ⟨?_, rfl⟩
  exact run_induction (LimiterCall.exec env limit) (P := fun rows _ =>
    AdmittedRateLimits env.schema rows) (admittedRateLimits_nil env.schema)
    (fun _ _ c hadm => admitted_limiterCall hadm hlimit c) pre

/-- The calls of a run raise what the counts of their windows say. -/
theorem answer_of_mem (hlimit : 1 ≤ limit)
    {c : Call (List RateLimit) LimiterCall (Except PyError Unit)}
    (hc : c ∈ limiterTrace env limit calls) :
    c.answer = c.op.verdict env limit (storedCount c.before c.op.window) := by
  obtain ⟨hadm, hcall⟩ := mem_limiterTrace hlimit hc
  rw [hcall]
  exact answer_limiterCall hadm hlimit c.op

/-- **The calls for a resource and a minute are counted**, if the column takes the key. -/
theorem windowCounted_run (hlimit : 1 ≤ limit) (calls : List LimiterCall)
    {window : String × Timestamp} (hkey : KeyFits env window.1) :
    WindowCounted env limit calls window := by
  have himpl := limiterCall_implements env hlimit
  have hnew := admittedRateLimits_nil env.schema
  have hquota : windowQuota env limit window = limit.toNat := if_pos hkey
  refine ⟨fun c hc => ?_, fun c hc => ?_, ?_⟩
  · rw [← hquota] at hc
    exact isOk_eq_true.1 (himpl.granted_of_take hnew rfl calls window c hc)
  · obtain ⟨hmem, hwindow⟩ := mem_callsFor.1 (List.mem_of_mem_drop hc)
    rw [← hquota] at hc
    have hrefused : c.answer ≠ .ok () := by
      intro hok
      have hisOk := himpl.refused_of_drop hnew rfl calls window c hc
      rw [isOk_eq_true.2 hok] at hisOk
      simp at hisOk
    have hfits : KeyFits env c.op.resourceKey := by
      rw [← hwindow] at hkey
      exact hkey
    -- with a key that fits, a call that does not return is one over the limit
    rw [answer_of_mem hlimit hmem, LimiterCall.verdict, if_pos hfits] at hrefused ⊢
    split_ifs at hrefused ⊢
    · exact absurd rfl hrefused
    · rfl
  · exact himpl.uses_final_eq_granted hnew rfl calls window

/-- The stored counts never exceed the limit. -/
theorem storedCount_le_limit (hlimit : 1 ≤ limit) (calls : List LimiterCall)
    (window : String × Timestamp) :
    (storedCount (limiterTable env limit calls) window : ℤ) ≤ limit := by
  have hfinal := (limiterCall_implements env hlimit).uses_final
    (admittedRateLimits_nil env.schema) rfl calls window
  have hquota : windowQuota env limit window ≤ limit.toNat := by
    unfold windowQuota
    split_ifs
    · exact le_rfl
    · exact Nat.zero_le _
  unfold limiterTable
  omega

/-! ### Calls for other resources and minutes -/

/-- The calls with other windows are hidden from those with the window. -/
theorem unwinds_window (env : Env) (hlimit : 1 ≤ limit) (window : String × Timestamp) :
    Unwinding.Unwinds (LimiterCall.exec env limit) (AdmittedRateLimits env.schema)
      (fun _ c => c.window ≠ window) (fun rows => storedCount rows window) Call.answer where
  keep _ c hadm := admitted_limiterCall hadm hlimit c
  silent rows c hadm hhidden :=
    (limiterCall_implements env hlimit).uses_of_ne hadm (Ne.symm (of_decide_eq_true hhidden))
  step rows rows' c hadm hadm' hview hc _ := by
    have hwindow : c.window = window := by simpa using hc
    subst hwindow
    have hstep := request_limiterCall hadm hlimit c
    have hstep' := request_limiterCall hadm' hlimit c
    constructor
    · have hcount : (request (windowQuota env limit) (storedCount rows) c.window).2 c.window =
          (request (windowQuota env limit) (storedCount rows') c.window).2 c.window :=
        request_congr hview
      rw [hstep, hstep'] at hcount
      exact hcount
    · show (c.exec env limit rows).1 = (c.exec env limit rows').1
      rw [answer_limiterCall hadm hlimit, answer_limiterCall hadm' hlimit, hview]

/-- The calls with the window are those that are not hidden. -/
theorem callsFor_eq_visible (window : String × Timestamp)
    (tr : List (Call (List RateLimit) LimiterCall (Except PyError Unit))) :
    callsFor LimiterCall.window window tr =
      Unwinding.visible (fun _ c => decide (c.window ≠ window)) tr := by
  unfold callsFor Unwinding.visible
  refine List.filter_congr fun c _ => ?_
  show decide (c.op.window = window) = !decide (c.op.window ≠ window)
  rw [decide_not, Bool.not_not]

/-- **What the calls for a resource and a minute do** depends on these calls alone. -/
theorem answers_congr (hlimit : 1 ≤ limit) {calls' : List LimiterCall}
    (window : String × Timestamp)
    (hsame : (calls'.filter fun c => c.window = window) =
      (calls.filter fun c => c.window = window)) :
    (callsIn env limit calls' window).map Call.answer =
        (callsIn env limit calls window).map Call.answer ∧
      storedCount (limiterTable env limit calls') window =
        storedCount (limiterTable env limit calls) window := by
  have hops : ∀ calls, (Unwinding.visible (fun _ c => decide (c.window ≠ window))
      (trace (LimiterCall.exec env limit) [] calls)).map Call.op =
        calls.filter fun c => c.window = window := by
    intro calls
    rw [Unwinding.visible_map_op fun c : LimiterCall => decide (c.window ≠ window)]
    refine List.filter_congr fun c _ => ?_
    rw [decide_not, Bool.not_not]
  have hadm := admittedRateLimits_nil env.schema
  have hrun := (unwinds_window env hlimit window).noninterference hadm hadm rfl
    ((hops calls').trans (hsame.trans (hops calls).symm))
  unfold callsIn limiterTrace limiterTable
  rw [callsFor_eq_visible, callsFor_eq_visible]
  exact ⟨hrun.2, hrun.1⟩

end

/-! ### Every run -/

/-- **The limiter in a run of any calls**, whatever their resources, and whichever way the clock is
set between them. -/
theorem limiterSound_run (env : Env) (limit : ℤ) (hlimit : 1 ≤ limit) (calls : List LimiterCall) :
    LimiterSound env limit calls where
  counted _ hkey := windowCounted_run hlimit calls hkey
  unchanged c hc e herr := by
    obtain ⟨hadm, hcall⟩ := mem_limiterTrace hlimit hc
    rw [hcall] at herr ⊢
    exact unchanged_limiterCall hadm hlimit herr
  otherRows c hc window hne := by
    obtain ⟨hadm, hcall⟩ := mem_limiterTrace hlimit hc
    rw [hcall]
    exact lookup_limiterCall hadm hlimit hne
  otherCalls window _ hsame := answers_congr hlimit window hsame
  tooLong c hc hlong := by
    rw [answer_of_mem hlimit hc]
    exact if_neg hlong

/-- Two calls for `r` in the first minute, and between them one in the minute before. -/
def setBack : List LimiterCall :=
  [{ resourceKey := "r", now := 0 }, { resourceKey := "r", now := -1 },
    { resourceKey := "r", now := seconds 30 }]

/-- A run in which the clock is set back. -/
theorem setBack_sound : LimiterSound (plainEnv ormSchema) 1 setBack :=
  limiterSound_run (plainEnv ormSchema) 1 le_rfl setBack

/-- A call with a key of 256 characters. -/
def longCall : LimiterCall := { resourceKey := String.ofList (List.replicate 256 'k'), now := 0 }

/-- The tables as on a database that enforces the lengths of its columns. -/
def longEnv : Env := plainEnv { ormSchema with enforceLengths := true }

/-- **A key that is too long for its column**: the first call for it ends in an error of the
database. -/
theorem long_key_refused : ¬ ∀ window, WindowCounted longEnv 1 [longCall] window := by
  intro hcounted
  have hlong : fitsColumn 255 longCall.resourceKey = false := by
    unfold fitsColumn longCall
    rw [String.length_ofList, List.length_replicate]
    decide
  have hanswer : (longCall.exec longEnv 1 []).1 = .error .dataError := by
    rw [LimiterCall.exec_of_error (checkRateLimit_of_long (admittedRateLimits_nil longEnv.schema)
      rfl hlong 1 60 0)]
  have hfirst : call (LimiterCall.exec longEnv 1) [] longCall ∈
      (callsIn longEnv 1 [longCall] longCall.window).take (1 : ℤ).toNat := by
    unfold callsIn limiterTrace callsFor
    simp [trace]
  have hreturned := (hcounted longCall.window).returned _ hfirst
  rw [call, hanswer] at hreturned
  simp at hreturned

end SmsForwarder
