/-
**The endpoint that phones post to.**

A request to the endpoint is counted by the rate limiter before its token is looked up: the resource
that is limited is named by the first eight characters of the token in the path, whether or not a
webhook has it.  This module is about what requests with one token can do to those with another.

Main definitions:

* `SmsForwarder.IngestRequest`, `SmsForwarder.Server`, `SmsForwarder.ingestWebhook` — a request, the
  tables it works on, and the endpoint;
* `SmsForwarder.rejections` — which requests with a token were refused by the limiter;
* `SmsForwarder.PerToken` — requests with one token do not matter to those with another.

Main results:

* `SmsForwarder.perToken_iff` — **they do not matter exactly if the first eight characters of the
  tokens differ.**
-/

import SmsForwarder.RateLimiter
import SmsForwarder.Unwinding
import SmsForwarder.WebhookService

set_option relaxedAutoImplicit false
set_option autoImplicit false

namespace SmsForwarder

open Py Tables Runs WebhookService

/-! ### The endpoint -/

/-- What reaches the endpoint: the token in the path, the body if it is JSON, the address of the
sender, the readings of the clock, and which statements of the posting fail. -/
structure IngestRequest where
  webhookToken : String
  body : Option Json
  sourceIp : Option String
  receivedAt : Timestamp
  parsedAt : Timestamp
  now : Timestamp
  fails : IngestStatement → Bool := fun _ => false

/-- The tables the endpoint works on. -/
structure Server where
  db : Store
  rateLimits : List RateLimit

/-- `f"webhook:{webhook_token[:8]}"`. -/
def resourceKey (webhookToken : String) : String :=
  "webhook:" ++ String.ofList (webhookToken.toList.take 8)

/-- `await request.json()`. -/
def requestJson (req : IngestRequest) : Except PyError Json :=
  match req.body with
  | some payload => .ok payload
  | none => .error .valueError

/-- What `ingest` gets of a request. -/
def ingestCall (req : IngestRequest) (payload : Json) : IngestCall where
  payload := payload
  sourceIp := req.sourceIp
  parsedAt := req.parsedAt
  now := req.now
  fails := req.fails

section

variable (env : Env)

/-- The endpoint, once the request was counted. -/
def postEvent (db : Store) (req : IngestRequest) : Except PyError (Store × IngestResult) := do
  let payload ← requestJson req
  let webhook ← WebhookService.lookup env db req.webhookToken
  ingest env db webhook (ingestCall req payload)

/-- The call of the rate limiter. -/
def countRequest (rateLimits : List RateLimit) (req : IngestRequest) :
    Except PyError (List RateLimit) :=
  checkRateLimit env rateLimits (resourceKey req.webhookToken)
    env.settings.webhookRateLimitPerMinute 60 req.receivedAt

/-- `ingest_webhook`: the answer, and the tables the request leaves even if it fails. -/
def ingestWebhook (server : Server) (req : IngestRequest) : Except PyError IngestResult × Server :=
  match countRequest env server.rateLimits req with
  | .error e => (.error e, server)
  | .ok rateLimits =>
      let r := attempt (postEvent env server.db req) server.db
      (r.1, { db := r.2, rateLimits })

end

/-- A request that was answered. -/
abbrev Posting := Call Server IngestRequest (Except PyError IngestResult)

/-- Whether the request was refused with a `RateLimitError`. -/
def rateLimited (c : Posting) : Bool :=
  match c.answer with
  | .error (.app e) => e.code = .rateLimited
  | _ => false

/-- Which requests with this token were refused with a `RateLimitError`, in order. -/
def rejections (token : String) (tr : List Posting) : List Bool :=
  (tr.filter fun c => c.op.webhookToken = token).map rateLimited

/-- **The limit is per token**: whatever requests with the token `t'` are inserted into a history or
removed from it, the same requests with the token `t` are refused. -/
def PerToken (env : Env) (t t' : String) : Prop :=
  ∀ server, AdmittedRateLimits env.schema server.rateLimits → ∀ history history',
    (history.filter fun req => req.webhookToken ≠ t') =
        (history'.filter fun req => req.webhookToken ≠ t') →
      rejections t (trace (ingestWebhook env) server history) =
        rejections t (trace (ingestWebhook env) server history')

/-! ### What a request does to the windows -/

theorem fits_resourceKey (token : String) : fitsColumn 255 (resourceKey token) = true := by
  have hlen : (String.ofList (token.toList.take 8)).length ≤ 8 := by
    rw [String.length_ofList]
    exact List.length_take_le _ _
  have hprefix : "webhook:".length = 8 := by decide
  unfold fitsColumn resourceKey
  rw [decide_eq_true_eq, String.length_append]
  omega

theorem resourceKey_eq_iff {t t' : String} :
    resourceKey t = resourceKey t' ↔ t.toList.take 8 = t'.toList.take 8 := by
  unfold resourceKey
  rw [String.append_right_inj, String.ofList_inj]

section

variable {env : Env} {server server' : Server} {req : IngestRequest} {t t' : String}

/-- The window a request is counted in. -/
def windowOf (req : IngestRequest) : String × Timestamp :=
  (resourceKey req.webhookToken, windowStart req.receivedAt)

/-- Whether the window of the request has reached the limit. -/
def Exhausted (env : Env) (server : Server) (req : IngestRequest) : Prop :=
  ∃ n, countOf server.rateLimits (windowOf req) = some n ∧
    env.settings.webhookRateLimitPerMinute ≤ n

/-- Apart from the limiter, nothing raises a `RateLimitError`. -/
theorem not_rateLimited_postEvent {db : Store} {e : AppError}
    (h : postEvent env db req = .error (.app e)) : e.code ≠ .rateLimited := by
  rcases bind_eq_error.1 h with hbody | ⟨payload, -, h⟩
  · unfold requestJson at hbody
    split at hbody <;> simp at hbody
  rcases bind_eq_error.1 h with hlookup | ⟨webhook, -, h⟩
  · unfold WebhookService.lookup at hlookup
    split at hlookup
    · simp at hlookup
    · have hunauthorized := PyError.app.inj (Except.error.inj hlookup)
      rw [← hunauthorized]
      decide
    · simp at hlookup
  · exact absurd h (ingest_noAppError webhook _ e)

/-- **What a request does to the windows**: it is refused if its window has reached the limit, and
counted otherwise. -/
theorem ingestWebhook_cases (hadm : AdmittedRateLimits env.schema server.rateLimits)
    (req : IngestRequest) :
    (Exhausted env server req ∧ rateLimited (call (ingestWebhook env) server req) = true ∧
        (ingestWebhook env server req).2 = server) ∨
      (¬ Exhausted env server req ∧ rateLimited (call (ingestWebhook env) server req) = false ∧
        AdmittedRateLimits env.schema (ingestWebhook env server req).2.rateLimits ∧
        countOf (ingestWebhook env server req).2.rateLimits =
          Function.update (countOf server.rateLimits) (windowOf req)
            (some (succCount (countOf server.rateLimits (windowOf req))))) := by
  have hcases := checkRateLimit_cases hadm (fun _ => fits_resourceKey req.webhookToken)
    env.settings.webhookRateLimitPerMinute 60 req.receivedAt
  rcases hcases with ⟨n, hn, hle, hcheck⟩ | ⟨hlt, rows', hcheck, hadm', hcount⟩
  · have hserve : ingestWebhook env server req =
        (.error (.app (RateLimitError (retryAfter req.receivedAt 60))), server) := by
      unfold ingestWebhook countRequest
      rw [hcheck]
    refine Or.inl ⟨⟨n, hn, hle⟩, ?_, by rw [hserve]⟩
    unfold rateLimited call
    rw [hserve]
    rfl
  · have hserve : ingestWebhook env server req =
        ((attempt (postEvent env server.db req) server.db).1,
          { db := (attempt (postEvent env server.db req) server.db).2, rateLimits := rows' }) := by
      unfold ingestWebhook countRequest
      rw [hcheck]
    refine Or.inr ⟨?_, ?_, by rw [hserve]; exact hadm', by rw [hserve]; exact hcount⟩
    · rintro ⟨n, hn, hle⟩
      exact absurd hle (not_le_of_gt (hlt n hn))
    · unfold rateLimited call
      rw [hserve]
      rcases attempt_cases (postEvent env server.db req) server.db with
        ⟨db', result, -, hok⟩ | ⟨e, herr, herr'⟩
      · rw [hok]
      · rw [herr']
        cases e with
        | app e => simpa using not_rateLimited_postEvent herr
        | _ => rfl

theorem admitted_ingestWebhook (hadm : AdmittedRateLimits env.schema server.rateLimits)
    (req : IngestRequest) :
    AdmittedRateLimits env.schema (ingestWebhook env server req).2.rateLimits := by
  rcases ingestWebhook_cases hadm req with ⟨-, -, hkeep⟩ | ⟨-, -, hadm', -⟩
  · rw [hkeep]
    exact hadm
  · exact hadm'

/-- A request is counted in its own window and in no other. -/
theorem countOf_ingestWebhook_of_ne (hadm : AdmittedRateLimits env.schema server.rateLimits)
    {window : String × Timestamp} (h : window ≠ windowOf req) :
    countOf (ingestWebhook env server req).2.rateLimits window =
      countOf server.rateLimits window := by
  rcases ingestWebhook_cases hadm req with ⟨-, -, hkeep⟩ | ⟨-, -, -, hcount⟩
  · rw [hkeep]
  · rw [hcount, Function.update_of_ne h]

/-! ### Tokens with different prefixes -/

/-- The windows that requests with the token are counted in. -/
def tokenWindows (token : String) (server : Server) : Timestamp → Option ℕ := fun start =>
  countOf server.rateLimits (resourceKey token, start)

/-- What happened to a request, if it has the token. -/
def rejectionOf (token : String) (c : Posting) : Option Bool :=
  if c.op.webhookToken = token then some (rateLimited c) else none

/-- The requests with the same windows as `token` depend on these windows alone. -/
theorem tokenWindows_step (hadm : AdmittedRateLimits env.schema server.rateLimits)
    (hadm' : AdmittedRateLimits env.schema server'.rateLimits)
    (hview : tokenWindows t server = tokenWindows t server')
    (hkey : resourceKey req.webhookToken = resourceKey t) :
    rateLimited (call (ingestWebhook env) server req) =
        rateLimited (call (ingestWebhook env) server' req) ∧
      tokenWindows t (ingestWebhook env server req).2 =
        tokenWindows t (ingestWebhook env server' req).2 := by
  have hwindow : countOf server.rateLimits (windowOf req) =
      countOf server'.rateLimits (windowOf req) := by
    have hstart := congrFun hview (windowStart req.receivedAt)
    unfold tokenWindows at hstart
    unfold windowOf
    rw [hkey]
    exact hstart
  have hexhausted : Exhausted env server req ↔ Exhausted env server' req := by
    unfold Exhausted
    rw [hwindow]
  rcases ingestWebhook_cases hadm req with ⟨hex, hyes, hkeep⟩ | ⟨hex, hno, -, hcount⟩
  · rcases ingestWebhook_cases hadm' req with ⟨-, hyes', hkeep'⟩ | ⟨hex', -⟩
    · rw [hyes, hyes', hkeep, hkeep']
      exact ⟨rfl, hview⟩
    · exact absurd (hexhausted.1 hex) hex'
  · rcases ingestWebhook_cases hadm' req with ⟨hex', -⟩ | ⟨-, hno', -, hcount'⟩
    · exact absurd (hexhausted.2 hex') hex
    · refine ⟨hno.trans hno'.symm, funext fun start => ?_⟩
      unfold tokenWindows
      rw [hcount, hcount', hwindow]
      by_cases hw : (resourceKey t, start) = windowOf req
      · rw [hw, Function.update_self, Function.update_self]
      · rw [Function.update_of_ne hw, Function.update_of_ne hw]
        exact congrFun hview start

/-- A request with other windows leaves those of `token` alone. -/
theorem tokenWindows_of_ne (hadm : AdmittedRateLimits env.schema server.rateLimits)
    (hkey : resourceKey req.webhookToken ≠ resourceKey t) :
    tokenWindows t (ingestWebhook env server req).2 = tokenWindows t server := by
  funext start
  exact countOf_ingestWebhook_of_ne hadm fun h => hkey (congrArg Prod.fst h).symm

/-- The requests with a token of another prefix are hidden from those with the token `t`. -/
theorem unwinds_rejections (h : resourceKey t' ≠ resourceKey t) :
    Unwinding.Unwinds (ingestWebhook env)
      (fun server => AdmittedRateLimits env.schema server.rateLimits)
      (fun _ req => req.webhookToken = t') (tokenWindows t) (rejectionOf t) where
  keep _ req hadm := admitted_ingestWebhook hadm req
  silent server req hadm hhidden := by
    refine tokenWindows_of_ne hadm ?_
    rw [of_decide_eq_true hhidden]
    exact h
  step server server' req hadm hadm' hview _ _ := by
    by_cases hkey : resourceKey req.webhookToken = resourceKey t
    · obtain ⟨hout, hnext⟩ := tokenWindows_step hadm hadm' hview hkey
      refine ⟨hnext, ?_⟩
      unfold rejectionOf
      rw [hout]
      rfl
    · have hne : req.webhookToken ≠ t := fun heq => hkey (by rw [heq])
      rw [tokenWindows_of_ne hadm hkey, tokenWindows_of_ne hadm' hkey]
      refine ⟨hview, ?_⟩
      unfold rejectionOf
      rw [call_op, call_op, if_neg hne, if_neg hne]

/-- Requests with the token `t` are among those that are not hidden. -/
theorem rejections_eq (h : t ≠ t') (tr : List Posting) :
    rejections t tr =
      (Unwinding.visible (fun _ req => req.webhookToken = t') tr).filterMap (rejectionOf t) := by
  induction tr with
  | nil => rfl
  | cons c tr ih =>
      unfold rejections Unwinding.visible at ih ⊢
      by_cases ht : c.op.webhookToken = t
      · simp [ht, h, rejectionOf, ih]
      · by_cases ht' : c.op.webhookToken = t'
        · simp [ht', Ne.symm h, ih]
        · simp [ht, ht', rejectionOf, ih]

/-- Tokens with different prefixes do not matter to each other. -/
theorem perToken_of_ne (h : t ≠ t') (hkey : resourceKey t' ≠ resourceKey t) : PerToken env t t' := by
  intro server hadm history history' hsame
  have hops : (Unwinding.visible (fun _ req => decide (req.webhookToken = t'))
      (trace (ingestWebhook env) server history)).map Call.op =
      (Unwinding.visible (fun _ req => decide (req.webhookToken = t'))
        (trace (ingestWebhook env) server history')).map Call.op := by
    rw [Unwinding.visible_map_op, Unwinding.visible_map_op]
    simpa using hsame
  obtain ⟨-, hout⟩ := (unwinds_rejections hkey).noninterference hadm hadm rfl hops
  have hcollect := congrArg (List.filterMap id) hout
  rw [List.filterMap_map, List.filterMap_map] at hcollect
  rw [rejections_eq h, rejections_eq h]
  exact hcollect

/-! ### Tokens with the same prefix -/

/-- A request at the first minute, with nothing but a token. -/
def bareRequest (token : String) : IngestRequest where
  webhookToken := token
  body := none
  sourceIp := none
  receivedAt := 0
  parsedAt := 0
  now := 0

/-- How many requests it takes until the next one is refused: the first one always passes. -/
def passes (env : Env) : ℕ := (max env.settings.webhookRateLimitPerMinute 1).toNat

/-- The count of a fresh window after some requests that pass. -/
theorem countOf_replicate (hadm : AdmittedRateLimits env.schema server.rateLimits)
    (req : IngestRequest) (hfresh : countOf server.rateLimits (windowOf req) = none) {k : ℕ}
    (hk : k ≤ passes env) :
    AdmittedRateLimits env.schema
        (final (ingestWebhook env) server (List.replicate k req)).rateLimits ∧
      countOf (final (ingestWebhook env) server (List.replicate k req)).rateLimits (windowOf req) =
        if k = 0 then none else some k := by
  induction k with
  | zero => exact ⟨hadm, hfresh⟩
  | succ k ih =>
      obtain ⟨hbefore, hcount⟩ := ih (by omega)
      rw [List.replicate_succ', final_concat]
      rcases ingestWebhook_cases hbefore req with ⟨⟨n, hn, hle⟩, -⟩ | ⟨-, -, hadm', hnext⟩
      · exfalso
        rw [hcount] at hn
        unfold passes at hk
        by_cases hzero : k = 0
        · simp [hzero] at hn
        · rw [if_neg hzero, Option.some.injEq] at hn
          omega
      · refine ⟨hadm', ?_⟩
        rw [hnext, Function.update_self, hcount]
        by_cases hzero : k = 0
        · simp [hzero, succCount]
        · simp [hzero, succCount]

/-- After as many requests in a fresh window as pass, the window is exhausted. -/
theorem exhausted_replicate (hadm : AdmittedRateLimits env.schema server.rateLimits)
    (req : IngestRequest) (hfresh : countOf server.rateLimits (windowOf req) = none) :
    Exhausted env (final (ingestWebhook env) server (List.replicate (passes env) req)) req := by
  have hpos : passes env ≠ 0 := by
    unfold passes
    omega
  obtain ⟨-, hcount⟩ := countOf_replicate hadm req hfresh le_rfl
  rw [if_neg hpos] at hcount
  refine ⟨_, hcount, ?_⟩
  unfold passes
  omega

theorem rejections_concat (tr : List Posting) (c : Posting) :
    rejections t (tr ++ [c]) =
      rejections t tr ++ if c.op.webhookToken = t then [rateLimited c] else [] := by
  unfold rejections
  rw [List.filter_append, List.map_append]
  by_cases h : c.op.webhookToken = t
  · simp [h]
  · simp [h]

/-- Requests with another token are none of those with the token. -/
theorem rejections_replicate (h : req.webhookToken ≠ t) (k : ℕ) :
    rejections t (trace (ingestWebhook env) server (List.replicate k req)) = [] := by
  unfold rejections
  rw [List.map_eq_nil_iff, List.filter_eq_nil_iff]
  intro c hc
  have hop : c.op ∈ List.replicate k req := by
    rw [← map_op_trace (ingestWebhook env) server (List.replicate k req)]
    exact List.mem_map_of_mem hc
  rw [List.eq_of_mem_replicate hop, decide_eq_true_eq]
  exact h

/-- The requests of another token are enough to have the first request of a token refused. -/
theorem refused_after_others (env : Env) (h : t ≠ t') (hkey : resourceKey t' = resourceKey t)
    (server : Server) (hempty : server.rateLimits = []) :
    rejections t (trace (ingestWebhook env) server
        (List.replicate (passes env) (bareRequest t') ++ [bareRequest t])) = [true] ∧
      rejections t (trace (ingestWebhook env) server [bareRequest t]) = [false] := by
  have hadm : AdmittedRateLimits env.schema server.rateLimits := by
    rw [hempty]
    exact admittedRateLimits_nil env.schema
  have hfresh : ∀ w, countOf server.rateLimits w = none := by
    intro w
    rw [hempty]
    rfl
  have hwindow : windowOf (bareRequest t) = windowOf (bareRequest t') :=
    Prod.ext hkey.symm rfl
  constructor
  · rw [trace_concat, rejections_concat, rejections_replicate (Ne.symm h), call_op, if_pos (by rfl)]
    obtain ⟨hadm', -⟩ := countOf_replicate hadm (bareRequest t') (hfresh _) le_rfl
    have hex : Exhausted env (final (ingestWebhook env) server
        (List.replicate (passes env) (bareRequest t'))) (bareRequest t) := by
      have hother := exhausted_replicate hadm (bareRequest t') (hfresh _)
      unfold Exhausted at hother ⊢
      rwa [hwindow]
    rcases ingestWebhook_cases hadm' (bareRequest t) with ⟨-, hyes, -⟩ | ⟨hnot, -⟩
    · rw [hyes]
      rfl
    · exact absurd hex hnot
  · have hnone : ¬ Exhausted env server (bareRequest t) := by
      rintro ⟨n, hn, -⟩
      rw [hfresh] at hn
      simp at hn
    rcases ingestWebhook_cases hadm (bareRequest t) with ⟨hex, -⟩ | ⟨-, hno, -⟩
    · exact absurd hex hnone
    · have hself : rejections t (trace (ingestWebhook env) server [bareRequest t]) =
          [rateLimited (call (ingestWebhook env) server (bareRequest t))] := by
        simp [rejections, trace, bareRequest]
      rw [hself, hno]

/-- Tokens with the same prefix matter to each other. -/
theorem not_perToken_of_eq (h : t ≠ t') (hkey : resourceKey t' = resourceKey t) :
    ¬ PerToken env t t' := by
  intro hper
  have hrefused := refused_after_others env h hkey ⟨Store.empty, []⟩ rfl
  have hsame := hper ⟨Store.empty, []⟩ (admittedRateLimits_nil env.schema)
    (List.replicate (passes env) (bareRequest t') ++ [bareRequest t]) [bareRequest t] (by
      simp [bareRequest, h])
  rw [hrefused.1, hrefused.2] at hsame
  simp at hsame

end

/-- **The limit is per prefix**: of two tokens the one does not matter to the other exactly if their
first eight characters differ. -/
theorem perToken_iff (env : Env) (t t' : String) (h : t ≠ t') :
    PerToken env t t' ↔ t.toList.take 8 ≠ t'.toList.take 8 := by
  rw [ne_eq, ← resourceKey_eq_iff]
  constructor
  · exact fun hper hkey => not_perToken_of_eq h hkey.symm hper
  · exact fun hkey => perToken_of_ne h fun heq => hkey heq.symm

/-- Two tokens with different prefixes. -/
theorem different_prefixes_perToken :
    PerToken (plainEnv ormSchema) "wh_first-one" "wh_other-one" ↔
      "wh_first-one".toList.take 8 ≠ "wh_other-one".toList.take 8 :=
  perToken_iff (plainEnv ormSchema) "wh_first-one" "wh_other-one" (by decide)

/-- A device with a webhook. -/
def postedServer : Server where
  db :=
    let db := Store.empty.insertDevice (DeviceService.newDevice (plainEnv ormSchema) Uuid.nil 0 {})
    db.insertWebhook (newWebhook (plainEnv ormSchema) (generateDeviceId Uuid.nil) "first-one")
  rateLimits := []

/-- **A caller without a valid token** has the request of a device refused, by requests with a token
that agrees with the device's in its first eight characters. -/
theorem unknown_token_exhausts_limit :
    (∃ webhook, lookup (plainEnv ormSchema) postedServer.db "wh_first-one" = .ok webhook) ∧
      lookup (plainEnv ormSchema) postedServer.db "wh_first-two" =
        .error (.app (UnauthorizedError "invalid webhook token")) ∧
      rejections "wh_first-one" (trace (ingestWebhook (plainEnv ormSchema)) postedServer
        (List.replicate 120 (bareRequest "wh_first-two") ++ [bareRequest "wh_first-one"])) =
          [true] ∧
      ¬ PerToken (plainEnv ormSchema) "wh_first-one" "wh_first-two" := by
  have hkey : resourceKey "wh_first-two" = resourceKey "wh_first-one" := by decide
  have hrefused := refused_after_others (plainEnv ormSchema) (by decide) hkey postedServer rfl
  exact ⟨⟨_, rfl⟩, rfl, hrefused.1, not_perToken_of_eq (by decide) hkey⟩

end SmsForwarder
