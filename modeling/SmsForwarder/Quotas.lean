/-
**Quotas.**

A system grants requests for keys.  Every key has a quota, the number of times it is granted: a
request is granted and counted as long as its key was granted less often than that, and refused
afterwards, and then it leaves no trace.  Requests for different keys come in any order.

A program that keeps such counts in a store of its own *implements* the quotas if each of its calls
does to the counts what a request does; what is proved here about runs of requests then holds of its
runs.

Main definitions:

* `Quotas.request`, `Quotas.unused` — a request and the counts it leaves, and the counts at first;
* `Quotas.callsFor` — the calls of a run for a key;
* `Quotas.Implements` — every call of a program is a request.

Main results:

* `Quotas.final_request` — a key is counted as often as it was requested, up to its quota;
* `Quotas.granted_request`, `Quotas.refused_request` — the requests for a key are granted up to its
  quota and refused afterwards;
* `Quotas.Implements.granted_of_take`, `Quotas.Implements.refused_of_drop`,
  `Quotas.Implements.uses_final` — **the same of the calls of a program.**
-/

import SmsForwarder.Runs

set_option relaxedAutoImplicit false
set_option autoImplicit false

namespace Quotas

open Runs

variable {κ : Type*} [DecidableEq κ]

/-! ### Requests -/

/-- A request for a key, on the number of times that each key was granted. -/
def request (quota uses : κ → ℕ) (k : κ) : Bool × (κ → ℕ) :=
  if uses k < quota k then (true, Function.update uses k (uses k + 1)) else (false, uses)

/-- No key was granted yet. -/
def unused : κ → ℕ := fun _ => 0

section

variable {quota uses : κ → ℕ} {k k' : κ}

theorem request_of_lt (h : uses k < quota k) :
    request quota uses k = (true, Function.update uses k (uses k + 1)) := if_pos h

theorem request_of_ge (h : quota k ≤ uses k) : request quota uses k = (false, uses) :=
  if_neg (not_lt.2 h)

/-- A request leaves the counts of other keys alone. -/
theorem request_of_ne (h : k ≠ k') : (request quota uses k').2 k = uses k := by
  rcases lt_or_ge (uses k') (quota k') with hlt | hge
  · rw [request_of_lt hlt]
    exact Function.update_of_ne h _ _
  · rw [request_of_ge hge]

/-- What a request does to the count of its key depends on that count alone. -/
theorem request_congr {uses' : κ → ℕ} (h : uses k = uses' k) :
    (request quota uses k).2 k = (request quota uses' k).2 k := by
  rcases lt_or_ge (uses k) (quota k) with hlt | hge
  · rw [request_of_lt hlt, request_of_lt (h ▸ hlt)]
    show Function.update uses k (uses k + 1) k = Function.update uses' k (uses' k + 1) k
    rw [Function.update_self, Function.update_self, h]
  · rw [request_of_ge hge, request_of_ge (h ▸ hge)]
    exact h

/-- A request counts its key up to the quota. -/
theorem request_self (n : ℕ) (h : uses k = min n (quota k)) :
    (request quota uses k).2 k = min (n + 1) (quota k) := by
  rcases lt_or_ge (uses k) (quota k) with hlt | hge
  · rw [request_of_lt hlt]
    show Function.update uses k (uses k + 1) k = min (n + 1) (quota k)
    rw [Function.update_self]
    omega
  · rw [request_of_ge hge]
    show uses k = min (n + 1) (quota k)
    omega

end

/-! ### The calls for a key -/

section

variable {σ α ω : Type*} {key : α → κ} {k : κ} {tr : List (Call σ α ω)} {c : Call σ α ω}

/-- The calls of a run for a key, in order. -/
def callsFor (key : α → κ) (k : κ) (tr : List (Call σ α ω)) : List (Call σ α ω) :=
  tr.filter fun c => key c.op = k

theorem mem_callsFor : c ∈ callsFor key k tr ↔ c ∈ tr ∧ key c.op = k := by
  unfold callsFor
  rw [List.mem_filter, decide_eq_true_eq]

theorem callsFor_concat_self (h : key c.op = k) :
    callsFor key k (tr ++ [c]) = callsFor key k tr ++ [c] := by
  unfold callsFor
  rw [List.filter_append, List.filter_cons_of_pos (by simpa using h), List.filter_nil]

theorem callsFor_concat_of_ne (h : key c.op ≠ k) :
    callsFor key k (tr ++ [c]) = callsFor key k tr := by
  unfold callsFor
  rw [List.filter_append, List.filter_cons_of_neg (by simpa using h), List.filter_nil,
    List.append_nil]

/-- The calls for a key, seen through maps that keep the keys. -/
theorem callsFor_map {σ' ω' : Type*} (f : σ → σ') (h : ω → ω') (tr : List (Call σ α ω)) :
    callsFor id k (tr.map (Call.map f key h)) = (callsFor key k tr).map (Call.map f key h) := by
  unfold callsFor
  rw [List.filter_map]
  rfl

end

/-! ### Runs of requests -/

section

variable (quota : κ → ℕ) (ks : List κ) (k : κ)

/-- **A key is counted as often as it was requested, up to its quota.** -/
theorem final_request :
    final (request quota) unused ks k =
      min (callsFor id k (trace (request quota) unused ks)).length (quota k) := by
  induction ks using List.reverseRecOn with
  | nil => exact (Nat.zero_min _).symm
  | append_singleton ks k' ih =>
      rw [final_concat, trace_concat]
      by_cases hk : k' = k
      · subst hk
        rw [callsFor_concat_self (by rfl), List.length_append, List.length_singleton]
        exact request_self _ ih
      · rw [callsFor_concat_of_ne hk, request_of_ne (Ne.symm hk)]
        exact ih

/-- A request after a run is granted if the run has fewer requests for its key than the quota. -/
theorem answer_request :
    (call (request quota) (final (request quota) unused ks) k).answer =
      decide ((callsFor id k (trace (request quota) unused ks)).length < quota k) := by
  have hfinal := final_request quota ks k
  rcases lt_or_ge (final (request quota) unused ks k) (quota k) with hlt | hge
  · have hlen : (callsFor id k (trace (request quota) unused ks)).length < quota k := by omega
    rw [call, request_of_lt hlt, decide_eq_true hlen]
  · have hlen : ¬ (callsFor id k (trace (request quota) unused ks)).length < quota k := by omega
    rw [call, request_of_ge hge, decide_eq_false hlen]

/-- The first requests for a key are granted, as many as its quota says. -/
theorem granted_request :
    ∀ c ∈ (callsFor id k (trace (request quota) unused ks)).take (quota k), c.answer = true := by
  induction ks using List.reverseRecOn with
  | nil =>
      intro c hc
      simp [callsFor] at hc
  | append_singleton ks k' ih =>
      rw [trace_concat]
      by_cases hk : k' = k
      · subst hk
        rw [callsFor_concat_self (by rfl), List.take_append]
        intro c hc
        rcases List.mem_append.1 hc with hc | hc
        · exact ih c hc
        · -- the last request is among the first ones only if the quota is not exhausted
          have hlen : (callsFor id k' (trace (request quota) unused ks)).length < quota k' := by
            by_contra hge
            rw [Nat.sub_eq_zero_of_le (not_lt.1 hge), List.take_zero] at hc
            simp at hc
          rw [List.mem_singleton.1 (List.mem_of_mem_take hc), answer_request, decide_eq_true hlen]
      · rw [callsFor_concat_of_ne hk]
        exact ih

/-- All other requests for it are refused. -/
theorem refused_request :
    ∀ c ∈ (callsFor id k (trace (request quota) unused ks)).drop (quota k), c.answer = false := by
  induction ks using List.reverseRecOn with
  | nil =>
      intro c hc
      simp [callsFor] at hc
  | append_singleton ks k' ih =>
      rw [trace_concat]
      by_cases hk : k' = k
      · subst hk
        rw [callsFor_concat_self (by rfl), List.drop_append]
        intro c hc
        rcases List.mem_append.1 hc with hc | hc
        · exact ih c hc
        · have hlen : quota k' ≤ (callsFor id k' (trace (request quota) unused ks)).length := by
            by_contra hlt
            have hlong : [call (request quota) (final (request quota) unused ks) k'].length ≤
                quota k' - (callsFor id k' (trace (request quota) unused ks)).length := by
              rw [List.length_singleton]
              omega
            rw [List.drop_of_length_le hlong] at hc
            simp at hc
          rw [List.mem_singleton.1 (List.mem_of_mem_drop hc), answer_request,
            decide_eq_false (not_lt.2 hlen)]
      · rw [callsFor_concat_of_ne hk]
        exact ih

end

/-! ### Programs that keep quotas -/

section

variable {σ α ω : Type*}

/-- Every call of the program, in a state that meets the invariant `I`, is a request for its key:
`uses` reads the counts off a state, and `granted` tells which answers grant a request. -/
structure Implements (exec : σ → α → ω × σ) (I : σ → Prop) (key : α → κ) (uses : σ → κ → ℕ)
    (granted : ω → Bool) (quota : κ → ℕ) : Prop where
  keep : ∀ s a, I s → I (exec s a).2
  step : ∀ s a, I s → request quota (uses s) (key a) = (granted (exec s a).1, uses (exec s a).2)

variable {exec : σ → α → ω × σ} {I : σ → Prop} {key : α → κ} {uses : σ → κ → ℕ} {granted : ω → Bool}
  {quota : κ → ℕ} {s : σ} (h : Implements exec I key uses granted quota)
include h

/-- A call leaves the counts of other keys alone. -/
theorem Implements.uses_of_ne {a : α} {k : κ} (hs : I s) (hk : k ≠ key a) :
    uses (exec s a).2 k = uses s k := by
  have hcount := congrArg (fun r => r.2 k) (h.step s a hs)
  exact hcount.symm.trans (request_of_ne hk)

variable (hs : I s) (hunused : uses s = unused) (as : List α) (k : κ)
include hs hunused

/-- The calls of a run for a key are the requests for it. -/
theorem Implements.callsFor_eq :
    callsFor id k (trace (request quota) unused (as.map key)) =
      (callsFor key k (trace exec s as)).map (Call.map uses key granted) := by
  rw [← hunused, trace_map exec (request quota) h.keep h.step hs as, callsFor_map]

/-- **The first calls for a key are granted**, as many as its quota says. -/
theorem Implements.granted_of_take :
    ∀ c ∈ (callsFor key k (trace exec s as)).take (quota k), granted c.answer = true := by
  intro c hc
  have hgranted := granted_request quota (as.map key) k
  rw [h.callsFor_eq hs hunused, ← List.map_take] at hgranted
  exact hgranted _ (List.mem_map_of_mem hc)

/-- **All other calls for it are refused.** -/
theorem Implements.refused_of_drop :
    ∀ c ∈ (callsFor key k (trace exec s as)).drop (quota k), granted c.answer = false := by
  intro c hc
  have hrefused := refused_request quota (as.map key) k
  rw [h.callsFor_eq hs hunused, ← List.map_drop] at hrefused
  exact hrefused _ (List.mem_map_of_mem hc)

/-- **The calls for a key are counted up to its quota.** -/
theorem Implements.uses_final :
    uses (final exec s as) k = min (callsFor key k (trace exec s as)).length (quota k) := by
  have hfinal : final (request quota) unused (as.map key) = uses (final exec s as) := by
    rw [← hunused]
    exact final_map exec (request quota) h.keep h.step hs as
  rw [← hfinal, final_request, h.callsFor_eq hs hunused, List.length_map]

/-- The count of a key is the number of calls for it that were granted. -/
theorem Implements.uses_final_eq_granted :
    uses (final exec s as) k =
      ((callsFor key k (trace exec s as)).filter fun c => granted c.answer).length := by
  have htake := h.granted_of_take hs hunused as k
  have hdrop := h.refused_of_drop hs hunused as k
  rw [h.uses_final hs hunused]
  conv_rhs => rw [← List.take_append_drop (quota k) (callsFor key k (trace exec s as))]
  rw [List.filter_append, List.filter_eq_self.2 htake,
    List.filter_eq_nil_iff.2 fun c hc => by simp [hdrop c hc], List.append_nil, List.length_take,
    Nat.min_comm]

end

end Quotas
