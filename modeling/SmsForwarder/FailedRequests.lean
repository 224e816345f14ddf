/-
**What a request that fails leaves behind.**

A request that is refused, or whose route raises, should have done nothing.  Two routes do something
first: a query commits the row of its command before it turns to the device, and a posting is counted
before its body is read.  This module says exactly what they leave, that everything else leaves the
tables as they were, and that the failed requests which left nothing can be dropped from a run.  An
answer that cannot be written as JSON is lost on its way, and no failure in this sense.

Main definitions:

* `SmsForwarder.SystemAnswer.succeeded` — the route has returned;
* `SmsForwarder.countsPosting`, `SmsForwarder.leavesBehind` — a call gets as far as its count, or as
  the row of its command;
* `SmsForwarder.LeftBehind` — what is left of a call that failed.

Main results:

* `SmsForwarder.failed_system` — what is left of it;
* `SmsForwarder.failed_requests` — **a run without the failed calls that left nothing ends in the
  same tables.**
-/

import SmsForwarder.Accountability

set_option relaxedAutoImplicit false
set_option autoImplicit false

namespace SmsForwarder

open Py Tables Runs

/-! ### What is left -/

section

variable {iso : FrpsService.IsoFormat}

/-- The operation did what it was asked to. -/
def SystemAnswer.succeeded : SystemAnswer iso → Bool
  | .response r => r.code = 200
  | .admin outcome => outcome.isOk

/-- The call is a posting that the limiter lets through, which counts it. -/
def countsPosting (e : AuthEnv) (c : SystemCall iso) : Bool :=
  match c.op with
  | .createAdmin _ _ _ => false
  | .request req =>
      match req.route with
      | .ingestWebhook posting => (countRequest e.env c.before.server.rateLimits posting).isOk
      | _ => false

/-- The call commits something before it can fail. -/
def leavesBehind (e : AuthEnv) (c : SystemCall iso) : Bool := logsQuery e c || countsPosting e c

/-- What is left of a call that failed: nothing, the row of its command, or the count of its
posting. -/
inductive LeftBehind (e : AuthEnv) (c : SystemCall iso) : Prop
  | nothing : leavesBehind e c = false → c.after = c.before → LeftBehind e c
  /-- one row at the end of the log, which says who sent which command, and how it failed -/
  | command (req : ApiRequest) (route : QueryRoute) (deviceId : String) (d : DispatchCall)
      (user : User) (row : DeviceCommandLog) (err : PyError) :
      logsQuery e c = true → c.op = .request req → req.route = .query route deviceId d →
      SignedIn e c.before.accounts req user →
      LogsCommand e.env d deviceId route.commandType route.modelDump (some user.id) row →
      LogOutcome e.env (CompletionFails e.env d c.before.server.db deviceId route.commandType
        route.modelDump row) row (.error err) →
      c.after = c.before.withDb { c.before.server.db with
        deviceCommandLogs := c.before.server.db.deviceCommandLogs ++ [row] } → LeftBehind e c
  /-- one more request in the window of the posting, and no change in any other -/
  | count (req : ApiRequest) (posting : IngestRequest) (rateLimits : List RateLimit) :
      countsPosting e c = true → c.op = .request req → req.route = .ingestWebhook posting →
      countOf rateLimits = Function.update (countOf c.before.server.rateLimits) (windowOf posting)
        (some (succCount (countOf c.before.server.rateLimits (windowOf posting)))) →
      c.after = { c.before with server := { c.before.server with rateLimits } } → LeftBehind e c

/-- Either a call leaves nothing, or it was marked as one that leaves something. -/
theorem LeftBehind.after_eq {e : AuthEnv} {c : SystemCall iso} (h : LeftBehind e c)
    (hleaves : leavesBehind e c = false) : c.after = c.before := by
  obtain ⟨hlogs, hcounts⟩ := Bool.or_eq_false_iff.1 hleaves
  cases h with
  | nothing _ hsame => exact hsame
  | command _ _ _ _ _ _ _ hlogs' => exact absurd hlogs (by simp [hlogs'])
  | count _ _ _ hcounts' => exact absurd hcounts (by simp [hcounts'])

end

/-! ### One call -/

section

variable {e : AuthEnv} {iso : FrpsService.IsoFormat} {s : ApiState} {req : ApiRequest}

/-- The routes that commit once, or not at all, leave the tables as they were if they raise. -/
theorem body_of_error {route : Route} {user : Option User} {err : PyError}
    (hadm : s.server.db.Admitted e.env.schema) (h : (route.body e iso s user).1 = .error err)
    (hquery : ∀ query deviceId d, route ≠ .query query deviceId d)
    (hpost : ∀ posting, route ≠ .ingestWebhook posting) : (route.body e iso s user).2 = s := by
  have heffect : StoreEffect e.env iso s.server.db user route (route.body e iso s user).1
      (route.body e iso s user).2.server.db := (effect_body route hadm).1
  have hdb : (route.body e iso s user).2.server.db = s.server.db := by
    rw [h] at heffect
    generalize (route.body e iso s user).2.server.db = db' at heffect
    cases heffect with
    | read => rfl
    | failed => rfl
    | query query deviceId d => exact absurd rfl (hquery query deviceId d)
  have hrows : (route.body e iso s user).2.server.rateLimits = s.server.rateLimits :=
    rateLimits_body hpost
  have haccounts : (route.body e iso s user).2.accounts = s.accounts := accounts_body _ _
  generalize (route.body e iso s user).2 = t at *
  obtain ⟨_, _, _⟩ := t
  simp only at haccounts hdb hrows
  rw [haccounts, hdb, hrows]

/-- A posting that fails has been refused by the limiter, or was counted. -/
theorem ingestWebhook_of_error {env : Env} {server : Server} {posting : IngestRequest}
    {err : PyError} (h : (ingestWebhook env server posting).1 = .error err) :
    ((countRequest env server.rateLimits posting).isOk = false ∧
        (ingestWebhook env server posting).2 = server) ∨
      ∃ rateLimits, countRequest env server.rateLimits posting = .ok rateLimits ∧
        (ingestWebhook env server posting).2 = { server with rateLimits } := by
  unfold ingestWebhook at h ⊢
  cases hcount : countRequest env server.rateLimits posting with
  | error err' => exact Or.inl ⟨rfl, rfl⟩
  | ok rateLimits =>
      refine Or.inr ⟨rateLimits, rfl, ?_⟩
      simp only [hcount] at h ⊢
      rcases attempt_cases (postEvent env server.db posting) server.db with
        ⟨db', result, -, hok⟩ | ⟨err', -, herr⟩
      · rw [hok] at h
        simp at h
      · rw [herr]

/-- What is left of a posting that failed. -/
theorem failed_posting (hadm : s.Admitted e.env.schema) {posting : IngestRequest} {err : PyError}
    {found : Option User} {answer : SystemAnswer iso} (hroute : req.route = .ingestWebhook posting)
    (h : (Route.body e iso s found (.ingestWebhook posting)).1 = .error err) :
    LeftBehind e ⟨s, .request req, answer,
      (Route.body e iso s found (.ingestWebhook posting)).2⟩ := by
  have hraised : (ingestWebhook e.env s.server posting).1 = .error err := map_eq_error.1 h
  have hafter : (Route.body e iso s found (.ingestWebhook posting)).2 =
      { s with server := (ingestWebhook e.env s.server posting).2 } := rfl
  rw [hafter]
  rcases ingestWebhook_of_error hraised with ⟨hrefused, hkeep⟩ | ⟨rateLimits, hcount, hkeep⟩
  · rw [hkeep]
    refine .nothing ?_ rfl
    simp [leavesBehind, logsQuery, countsPosting, hroute, hrefused]
  · rw [hkeep]
    refine .count req posting rateLimits ?_ rfl hroute ?_ rfl
    · simp [countsPosting, hroute, hcount, Except.isOk, Except.toBool]
    · rcases checkRateLimit_cases hadm.rateLimits (fun _ => fits_resourceKey posting.webhookToken)
        e.env.settings.webhookRateLimitPerMinute 60 posting.receivedAt with
        ⟨n, -, -, hcheck⟩ | ⟨-, rows', hcheck, -, hrows⟩
      · exact absurd (hcheck.symm.trans hcount) (by simp)
      · obtain rfl := Except.ok.inj (hcheck.symm.trans hcount)
        exact hrows

/-- What is left of a query that failed. -/
theorem failed_query (hadm : s.Admitted e.env.schema) {route : QueryRoute} {deviceId : String}
    {d : DispatchCall} {err : PyError} {found : Option User} {answer : SystemAnswer iso}
    (hroute : req.route = .query route deviceId d)
    (hauth : authorize e s.accounts req.route.access req.authorization req.now = .ok found)
    (h : (Route.body e iso s found (.query route deviceId d)).1 = .error err) :
    LeftBehind e ⟨s, .request req, answer,
      (Route.body e iso s found (.query route deviceId d)).2⟩ := by
  have hlogs : logsQuery e ⟨s, .request req, answer,
      (Route.body e iso s found (.query route deviceId d)).2⟩ =
        (CommandService.openLog e.env d s.server.db deviceId route.commandType
          route.modelDump (userIdOf found)).isOk := logsQuery_of_query rfl hroute hauth
  have hafter : (Route.body e iso s found (.query route deviceId d)).2 =
      s.withDb (CommandService.dispatch e.env d s.server.db deviceId route.commandType
        route.modelDump (userIdOf found)).2 := rfl
  have haccess : (Route.query route deviceId d).access = .permission route.permission := rfl
  rw [hroute, haccess] at hauth
  obtain ⟨user, rfl, hsigned, -⟩ := (authorize_eq_ok hadm.accounts.2.1.1
    (permission_ne_empty haccess)).1 hauth
  cases hopen : CommandService.openLog e.env d s.server.db deviceId route.commandType
      route.modelDump (userIdOf (some user)) with
  | error err' =>
      obtain ⟨hdispatch, -⟩ := dispatch_of_openLog_error hopen
      refine .nothing ?_ (by rw [hafter, hdispatch]; rfl)
      unfold leavesBehind
      rw [hlogs, hopen]
      simp [countsPosting, hroute, Except.isOk, Except.toBool]
  | ok opened =>
      obtain ⟨row, hrow, hcommand, houtcome⟩ := dispatch_row hopen
      refine .command req route deviceId d user row err ?_ rfl hroute hsigned hcommand ?_
        (by rw [hafter, hrow])
      · rw [hlogs, hopen]
        rfl
      · have hraised : (CommandService.dispatch e.env d s.server.db deviceId route.commandType
            route.modelDump (userIdOf (some user))).1 = .error err := map_eq_error.1 h
        rw [hraised] at houtcome
        exact houtcome

/-- **What is left of a request that failed.** -/
theorem failed_request (hadm : s.Admitted e.env.schema)
    (h : (call (SystemOp.exec e iso) s (.request req)).answer.succeeded = false) :
    LeftBehind e (call (SystemOp.exec e iso) s (.request req)) := by
  rcases exec_request_cases e iso s req with ⟨err, hauth, hcall⟩ | ⟨found, hauth, hcall⟩
  · rw [hcall]
    refine .nothing ?_ rfl
    cases hroute : req.route with
    | ingestWebhook posting => simp [hroute, Route.access, authorize] at hauth
    | query route deviceId d =>
        rw [hroute] at hauth
        simp [leavesBehind, logsQuery, countsPosting, hroute, hauth]
    | _ => simp [leavesBehind, logsQuery, countsPosting, hroute]
  · rw [hcall] at h ⊢
    obtain ⟨err, herr⟩ : ∃ err, (req.route.body e iso s found).1 = .error err := by
      cases hbody : (req.route.body e iso s found).1 with
      | error err => exact ⟨err, rfl⟩
      | ok data =>
          rw [hbody] at h
          simp [SystemAnswer.succeeded, respond, successResponse] at h
    cases hroute : req.route with
    | ingestWebhook posting =>
        rw [hroute] at herr
        exact failed_posting hadm hroute herr
    | query route deviceId d =>
        rw [hroute] at herr
        exact failed_query hadm hroute hauth herr
    | _ =>
        refine .nothing (by simp [leavesBehind, logsQuery, countsPosting, hroute]) ?_
        rw [← hroute]
        exact body_of_error hadm.db herr (by simp [hroute]) (by simp [hroute])

/-- **What is left of an operation that failed.** -/
theorem failed_system {op : SystemOp} (hadm : s.Admitted e.env.schema)
    (h : (call (SystemOp.exec e iso) s op).answer.succeeded = false) :
    LeftBehind e (call (SystemOp.exec e iso) s op) := by
  cases op with
  | request req => exact failed_request hadm h
  | createAdmin salt username password =>
      refine .nothing rfl ?_
      rcases attempt_cases (createAdmin e.bcrypt e.env.schema salt s.accounts username password)
        s.accounts with ⟨a', user, -, hok⟩ | ⟨err, -, herr⟩
      · simp only [call, SystemOp.exec, hok, SystemAnswer.succeeded, Except.isOk,
          Except.toBool] at h
        exact absurd h (by simp)
      · simp only [call, SystemOp.exec, herr]

end

/-- **What fails can be left out of a run**: an operation that is refused, or raises, leaves nothing
but the row of its command or the count of its posting, and without those that left nothing the run
ends in the same tables. -/
theorem failed_requests (e : AuthEnv) (iso : FrpsService.IsoFormat) (s : ApiState)
    (hadm : s.Admitted e.env.schema) (ops : List SystemOp) :
    (∀ c ∈ trace (SystemOp.exec e iso) s ops, c.answer.succeeded = false → LeftBehind e c) ∧
      final (SystemOp.exec e iso) s
          (((trace (SystemOp.exec e iso) s ops).filter fun c =>
            c.answer.succeeded || leavesBehind e c).map Call.op) =
        final (SystemOp.exec e iso) s ops := by
  have keep : ∀ (t : ApiState) (op : SystemOp), t.Admitted e.env.schema →
      (op.exec e iso t).2.Admitted e.env.schema := fun _ op h => admitted_system op h
  refine ⟨fun c hc hfail => ?_, final_filter _ keep (fun t op ht hp => ?_) hadm ops⟩
  · obtain ⟨hbefore, hcall⟩ := before_of_mem_trace _ keep hadm hc
    rw [hcall] at hfail ⊢
    exact failed_system hbefore hfail
  · obtain ⟨hfail, hleaves⟩ := Bool.or_eq_false_iff.1 hp
    exact (failed_system ht hfail).after_eq hleaves

/-! ### A run in which everything fails -/

/-- The administrator asks the device for its battery, and it does not answer. -/
def failingQuery : ApiRequest :=
  { sessionRequest with
    route := .query (.battery {}) (generateDeviceId Uuid.nil) CommandService.silentCall }

/-- Nobody posts something that is no JSON. -/
def failingPosting : ApiRequest :=
  { postingRequest with route := .ingestWebhook (bareRequest "token") }

/-- Nobody asks for the devices. -/
def refusedRequest : ApiRequest := { sessionRequest with authorization := none }

def failingRun : List SystemOp :=
  [.request failingQuery, .request failingPosting, .request refusedRequest]

/-- The query leaves its row, and the posting its count. -/
theorem failing_session :
    (trace plainExec (final plainExec ApiState.empty createdStart) failingRun).map
        (fun c => c.answer.succeeded) = [false, false, false] ∧
      (final plainExec (final plainExec ApiState.empty createdStart)
        failingRun).server.db.deviceCommandLogs.length = 1 ∧
      (final plainExec (final plainExec ApiState.empty createdStart)
        failingRun).server.rateLimits.length = 1 := by
  obtain ⟨row, hquery⟩ :=
    @exec_session (final plainExec ApiState.empty createdStart) (by rw [final_createdStart]; rfl)
      failingQuery.route _ rfl
  have hrun : final plainExec (final plainExec ApiState.empty createdStart) failingRun =
      final plainExec (plainExec (final plainExec ApiState.empty createdStart)
        (.request { sessionRequest with route := failingQuery.route })).2
          [.request failingPosting, .request refusedRequest] := rfl
  have htrace : (trace plainExec (final plainExec ApiState.empty createdStart) failingRun).map
      (fun c => c.answer.succeeded) =
        (plainExec (final plainExec ApiState.empty createdStart)
          (.request { sessionRequest with route := failingQuery.route })).1.succeeded ::
          (trace plainExec (plainExec (final plainExec ApiState.empty createdStart)
            (.request { sessionRequest with route := failingQuery.route })).2
              [.request failingPosting, .request refusedRequest]).map
                (fun c => c.answer.succeeded) := rfl
  rw [hrun, htrace, hquery, final_createdStart]
  exact ⟨rfl, rfl, rfl⟩

theorem failed_requests_session :
    ((∀ c ∈ trace plainExec (final plainExec ApiState.empty createdStart) failingRun,
          c.answer.succeeded = false → LeftBehind (plainAuthEnv ormSchema) c) ∧
        final plainExec (final plainExec ApiState.empty createdStart)
            (((trace plainExec (final plainExec ApiState.empty createdStart)
              failingRun).filter fun c =>
                c.answer.succeeded || leavesBehind (plainAuthEnv ormSchema) c).map Call.op) =
          final plainExec (final plainExec ApiState.empty createdStart) failingRun) ∧
      (trace plainExec (final plainExec ApiState.empty createdStart) failingRun).map
          (fun c => c.answer.succeeded) = [false, false, false] ∧
      (final plainExec (final plainExec ApiState.empty createdStart)
        failingRun).server.db.deviceCommandLogs.length = 1 ∧
      (final plainExec (final plainExec ApiState.empty createdStart)
        failingRun).server.rateLimits.length = 1 :=
  ⟨failed_requests (plainAuthEnv ormSchema) FrpsService.noIso _
    (accountsInvariant_run (plainAuthEnv ormSchema) FrpsService.noIso createdStart).admitted
    failingRun, failing_session⟩

end SmsForwarder
