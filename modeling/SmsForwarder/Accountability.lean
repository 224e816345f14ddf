/-
**Who did what.**

Two tables are kept for the record: the audit log has a row for every tunnel configuration that was
handed out, and the command log a row for every command that was sent to a device.  Both are written
in the commits of the requests they are about, and nothing else ever touches them; so after a run
they can be read off the answers of the requests, in order, with the user, the device and the
outcome.  A command whose result cannot be written as JSON was carried out all the same: its row
says so, and the caller is answered with 500.

Main definitions:

* `SmsForwarder.AuditFor` — a row of the audit log, for the call it records;
* `SmsForwarder.logsQuery` — a query gets a row: it is let in, its device is known, and the database
  takes the row;
* `SmsForwarder.CommandEnd`, `SmsForwarder.CommandFor` — how a command ended, and a row of the
  command log, for the call it records.

Main results:

* `SmsForwarder.audit_run` — **the audit log has the configurations that were handed out**;
* `SmsForwarder.commandLog_run` — **the command log has the commands that were sent, each as it
  ended.**
-/

import SmsForwarder.AccessMatrix
import SmsForwarder.AccountRuns
import SmsForwarder.DispatchEffects
import SmsForwarder.ErrorContract

set_option relaxedAutoImplicit false
set_option autoImplicit false

namespace SmsForwarder

open Py Tables Runs

section

variable {e : AuthEnv} {iso : FrpsService.IsoFormat} {s : ApiState}

/-! ### Calls that were let in -/

/-- What a request does that is not refused: the work of its route. -/
theorem exec_request_cases (e : AuthEnv) (iso : FrpsService.IsoFormat) (s : ApiState)
    (req : ApiRequest) :
    (∃ err, authorize e s.accounts req.route.access req.authorization req.now = .error err ∧
        call (SystemOp.exec e iso) s (.request req) =
          ⟨s, .request req, .response (respond iso req.requestId (.error err)), s⟩) ∨
      ∃ user, authorize e s.accounts req.route.access req.authorization req.now = .ok user ∧
        call (SystemOp.exec e iso) s (.request req) =
          ⟨s, .request req, .response (respond iso req.requestId (req.route.body e iso s user).1),
            (req.route.body e iso s user).2⟩ := by
  rcases serve_cases e iso s req with ⟨err, hauth, hserve⟩ | ⟨user, hauth, hserve⟩
  · refine Or.inl ⟨err, hauth, ?_⟩
    simp only [call, SystemOp.exec, hserve]
  · refine Or.inr ⟨user, hauth, ?_⟩
    simp only [call, SystemOp.exec, hserve]

/-- Nothing but the details of an error comes with an error. -/
theorem data_respond_error (iso : FrpsService.IsoFormat) (requestId : String) (err : PyError) :
    ∃ details, (respond iso requestId (.error err)).data = .details details := by
  cases err <;> exact ⟨_, rfl⟩

/-- What comes of a request: it is refused and changes nothing, or its route is answered and has its
effect. -/
theorem request_effect (hadm : s.Admitted e.env.schema) (req : ApiRequest) :
    (∃ err, call (SystemOp.exec e iso) s (.request req) =
        ⟨s, .request req, .response (respond iso req.requestId (.error err)), s⟩) ∨
      ∃ user outcome s',
        authorize e s.accounts req.route.access req.authorization req.now = .ok user ∧
        req.route.body e iso s user = (outcome, s') ∧
        call (SystemOp.exec e iso) s (.request req) =
          ⟨s, .request req, .response (respond iso req.requestId outcome), s'⟩ ∧
        StoreEffect e.env iso s.server.db user req.route outcome s'.server.db := by
  rcases exec_request_cases e iso s req with ⟨err, -, hcall⟩ | ⟨user, hauth, hcall⟩
  · exact Or.inl ⟨err, hcall⟩
  · exact Or.inr ⟨user, _, _, hauth, rfl, hcall, (effect_body req.route hadm.db).1⟩

/-! ### The audit log -/

/-- The call handed out the configuration of a tunnel. -/
def servesConfig (c : SystemCall iso) : Bool :=
  match c.answer with
  | .response response =>
      match response.data with
      | .frpcConfig _ _ => true
      | _ => false
  | .admin _ => false

/-- The row of the audit log for a call: who got the configuration of which tunnel. -/
def AuditFor (e : AuthEnv) (c : SystemCall iso) (row : AuditLog) : Prop :=
  ∃ req deviceId now user, c.op = .request req ∧ req.route = .getFrpcConfig deviceId now ∧
    SignedIn e c.before.accounts req user ∧
    Holds c.before.accounts user "device:tunnel:manage" ∧
    ∃ t ∈ c.before.server.db.deviceTunnels, t.deviceId = deviceId ∧
      ∃ token, e.env.cipher.decrypt t.authTokenEncrypted = some token ∧
        c.answer = .response (successResponse req.requestId
          (.frpcConfig (t.proxyName ++ "-frpc.toml") (TunnelService.frpcToml e.env t token))) ∧
        row = { TunnelService.configAudit e.env t (some user.id) deviceId with id := row.id }

/-- The kind of data that a route answers with. -/
def Route.gives : Route → ApiData iso → Bool
  | healthz, .healthy => true
  | login _ _, .token _ => true
  | me, .user _ => true
  | createDevice _ _ _, .device _ | getDevice _, .device _ | updateDevice _ _ _, .device _ => true
  | listDevices, .devices _ => true
  | createWebhook _ _, .issued _ | rotateWebhook _ _, .issued _ => true
  | ingestWebhook _, .ingested _ => true
  | getTunnel _, .tunnel _ | getTunnel _, .details _ => true
  | enableTunnel _ _ _, .tunnel _ | updateTunnel _ _, .tunnel _ | disableTunnel _, .tunnel _ => true
  | rotateTunnelToken _ _, .tunnelToken _ => true
  | getFrpcConfig _ _, .frpcConfig _ _ => true
  | listFrpsDevices _ _ _, .frpsDevices _ => true
  | query _ _ _, .dispatched _ => true
  | _, _ => false

/-- A route answers with data of its kind. -/
theorem gives_of_body {route : Route} {user : Option User} {data : ApiData iso}
    (h : (route.body e iso s user).1 = .ok data) : route.gives data = true := by
  have hmap : ∀ {α : Type} {x : Except PyError α} {f : α → ApiData iso},
      (∀ a, route.gives (f a) = true) → x.map f = .ok data → route.gives data = true := by
    intro α x f hf h
    cases x with
    | ok a => rw [← Except.ok.inj h, hf]
    | error err => simp [Except.map] at h
  cases route with
  | healthz | listDevices => rw [← Except.ok.inj h]; rfl
  | me =>
      cases user with
      | some user => rw [← Except.ok.inj h]; rfl
      | none => simp [Route.body] at h
  | getTunnel deviceId => exact hmap (fun found => by cases found <;> rfl) h
  | _ => exact hmap (fun _ => rfl) h

/-- Only one route hands out configurations. -/
theorem route_of_frpcConfig {route : Route} {filename content : String}
    (h : route.gives (.frpcConfig filename content : ApiData iso) = true) :
    ∃ deviceId now, route = .getFrpcConfig deviceId now := by
  cases route with
  | getFrpcConfig deviceId now => exact ⟨deviceId, now, rfl⟩
  | _ => simp [Route.gives] at h

/-- A call hands out a configuration and leaves one row for it, or it leaves the audit log alone. -/
theorem audit_step (hadm : s.Admitted e.env.schema) (op : SystemOp) :
    (servesConfig (call (SystemOp.exec e iso) s op) = false ∧
        (op.exec e iso s).2.server.db.auditLogs = s.server.db.auditLogs) ∨
      (servesConfig (call (SystemOp.exec e iso) s op) = true ∧
        ∃ row, AuditFor e (call (SystemOp.exec e iso) s op) row ∧
          (op.exec e iso s).2.server.db.auditLogs = s.server.db.auditLogs ++ [row]) := by
  show (_ ∧ (call (SystemOp.exec e iso) s op).after.server.db.auditLogs = _) ∨ _ ∧ ∃ row, _ ∧
    (call (SystemOp.exec e iso) s op).after.server.db.auditLogs = _
  cases op with
  | createAdmin salt username password => exact Or.inl ⟨rfl, rfl⟩
  | request req =>
      rcases request_effect hadm req with
        ⟨err, hcall⟩ | ⟨found, outcome, s', hauth, hbody, hcall, heff⟩
      · obtain ⟨details, hdata⟩ := data_respond_error iso req.requestId err
        rw [hcall]
        exact Or.inl ⟨by simp only [servesConfig, hdata], rfl⟩
      · rw [hcall]
        by_cases hroute : ∃ deviceId now, req.route = .getFrpcConfig deviceId now
        · obtain ⟨deviceId, now, hroute⟩ := hroute
          rw [hroute] at hauth heff
          obtain ⟨user, rfl, hsigned, hholds⟩ :=
            (authorize_eq_ok hadm.accounts.2.1.1 (by decide)).1 hauth
          show (_ ∧ s'.server.db.auditLogs = _) ∨ _ ∧ ∃ row, _ ∧ s'.server.db.auditLogs = _
          generalize hdb : s'.server.db = db' at heff ⊢
          cases heff with
          | read _ _ hreads => simp [Route.reads] at hreads
          | failed _ err =>
              obtain ⟨details, hdata⟩ := data_respond_error iso req.requestId err
              exact Or.inl ⟨by simp only [servesConfig, hdata], rfl⟩
          | getFrpcConfig _ _ t token hmem hid hdec =>
              exact Or.inr ⟨rfl, _, ⟨req, deviceId, now, user, rfl, hroute, hsigned, hholds, t,
                hmem, hid, token, hdec, rfl, rfl⟩, rfl⟩
        · refine Or.inl ⟨?_, ?_⟩
          · cases outcome with
            | error err =>
                obtain ⟨details, hdata⟩ := data_respond_error iso req.requestId err
                simp only [servesConfig, hdata]
            | ok data =>
                have hgives := gives_of_body (congrArg Prod.fst hbody)
                cases data with
                | frpcConfig filename content => exact absurd (route_of_frpcConfig hgives) hroute
                | _ => rfl
          · show Part.auditLogs.read _ = Part.auditLogs.read _
            refine read_of_effect heff fun hwrites => hroute ?_
            cases hcase : req.route with
            | getFrpcConfig deviceId now => exact ⟨deviceId, now, rfl⟩
            | _ => simp [hcase, Route.writes] at hwrites

/-- **The audit log has the configurations that were handed out.**  In every run from empty tables
its rows are, in order, those of the calls that were answered with the configuration of a tunnel:
each was made by a user who may manage tunnels, the configuration is that of the tunnel of the
device with its token, and the row says who got it. -/
theorem audit_run (e : AuthEnv) (iso : FrpsService.IsoFormat) (ops : List SystemOp) :
    List.Forall₂ (AuditFor e)
      ((trace (SystemOp.exec e iso) ApiState.empty ops).filter servesConfig)
      (final (SystemOp.exec e iso) ApiState.empty ops).server.db.auditLogs :=
  journal (SystemOp.exec e iso) (fun s => s.server.db.auditLogs)
    (fun _ op h => admitted_system op h) (fun _ op h => audit_step h op)
    (ApiState.admitted_empty e.env.schema) rfl ops

/-! ### The command log -/

/-- How a dispatch ended, as its answer and its row have it, if these are the exceptions with which
the statement fails that completes the row. -/
inductive LogOutcome (env : Env) (fails : PyError → Prop) (row : DeviceCommandLog) :
    Except PyError CommandService.DispatchAnswer → Prop
  | success (answer : CommandService.DispatchAnswer) : row.status = "success" →
      row.completedAt.isSome = true → answer.requestId = row.requestId →
      row.responseSummary = scrub env.runtime (.obj answer.result) →
        LogOutcome env fails row (.ok answer)
  | failed (err : AppError) : row.status = "failed" → row.completedAt.isSome = true →
      LogOutcome env fails row (.error (.app err))
  /-- the statement that completes the row failed -/
  | pending (err : PyError) : fails err → (∀ appError, err ≠ .app appError) →
      row.status = "pending" → row.completedAt = none → LogOutcome env fails row (.error err)

/-- The statement that completes the row fails: the last one of a dispatch that has committed it. -/
def CompletionFails (env : Env) (d : DispatchCall) (db : Store) (deviceId commandType : String)
    (payload : List (Str × Json)) (row : DeviceCommandLog) (err : PyError) : Prop :=
  ∃ device db', requireDevice db deviceId = .ok device ∧
    db' = { db with deviceCommandLogs := db.deviceCommandLogs ++ [row] } ∧
    CommandService.concludeLog env d db' row
      (CommandService.query env d db' device deviceId commandType payload) = .error err

/-- The row says whose command it was, for which device, and what was asked. -/
structure LogsCommand (env : Env) (d : DispatchCall) (deviceId commandType : String)
    (payload : List (Str × Json)) (userId : Option ℤ) (row : DeviceCommandLog) : Prop where
  requestId : row.requestId = generateRequestId d.uuid
  deviceId : row.deviceId = deviceId
  userId : row.userId = userId
  commandType : row.commandType = commandType
  requestSummary : row.requestSummary = scrub env.runtime (.obj payload)

section

variable {env : Env} {d : DispatchCall} {db db' : Store} {device : Device}
  {deviceId commandType status : String} {payload response : List (Str × Json)}
  {userId : Option ℤ} {log : DeviceCommandLog} {errorMsg : Option String} {err : PyError}

/-- An outcome with some exceptions is one with more. -/
theorem LogOutcome.mono {fails fails' : PyError → Prop}
    {answer : Except PyError CommandService.DispatchAnswer} (h : LogOutcome env fails log answer)
    (hsub : ∀ err, fails err → fails' err) : LogOutcome env fails' log answer := by
  cases h with
  | success answer hstatus hdone hid hsummary => exact .success answer hstatus hdone hid hsummary
  | failed err hstatus hdone => exact .failed err hstatus hdone
  | pending err hfails hnot hstatus hdone => exact .pending err (hsub err hfails) hnot hstatus hdone

/-- The statements that log a command do not fail with an application error. -/
theorem createLog_eq_error
    (h : CommandService.createLog env d db device commandType payload userId = .error err) :
    ∀ appError, err ≠ .app appError :=
  ofCodes_nil.1 (raises_createLog userId err h)

theorem finishLog_eq_error
    (h : CommandService.finishLog env d db log status response errorMsg = .error err) :
    ∀ appError, err ≠ .app appError :=
  ofCodes_nil.1 (raises_finishLog log status response errorMsg err h)

/-- The row that the first commit of a dispatch leaves. -/
theorem createLog_eq_ok
    (h : CommandService.createLog env d db device commandType payload userId = .ok (db', log)) :
    log = CommandService.insertedLog db
        (CommandService.newLog env d device commandType payload userId) ∧
      db' = { db with deviceCommandLogs := db.deviceCommandLogs ++ [log] } := by
  obtain ⟨_, -, h⟩ := bind_eq_ok.1 h
  obtain ⟨inserted, hinsert, h⟩ := bind_eq_ok.1 h
  obtain ⟨rfl, -⟩ := commit_eq_ok.1 hinsert
  cases h
  exact ⟨rfl, rfl⟩

/-- What the second commit of a dispatch leaves, or the first one if the second fails. -/
theorem finish_row (mode : Str) (outcome : Except PyError (List (Str × Json)))
    (hdevice : device.deviceId = deviceId)
    (hcreate : CommandService.createLog env d db device commandType payload userId =
      .ok (db', log)) :
    ∃ row, (CommandService.finish env d db' log mode outcome).2 =
        { db with deviceCommandLogs := db.deviceCommandLogs ++ [row] } ∧
      LogsCommand env d deviceId commandType payload userId row ∧
      LogOutcome env
        (fun err => row = log ∧ CommandService.concludeLog env d db' log outcome = .error err) row
        (CommandService.finish env d db' log mode outcome).1 := by
  obtain ⟨hlog, hdb⟩ := createLog_eq_ok hcreate
  have hcommand : LogsCommand env d deviceId commandType payload userId log := by
    rw [hlog]
    exact ⟨rfl, hdevice, rfl, rfl, rfl⟩
  have hpending : log.status = "pending" ∧ log.completedAt = none := by
    rw [hlog]
    exact ⟨rfl, rfl⟩
  unfold CommandService.finish
  cases outcome with
  | ok data =>
      simp only
      cases hfinish : CommandService.finishLog env d db' log "success" data none with
      | ok db'' =>
          obtain ⟨-, hrow⟩ := CommandService.rows_of_statements hcreate hfinish
          exact ⟨_, hrow, ⟨hcommand.1, hcommand.2, hcommand.3, hcommand.4, hcommand.5⟩,
            .success _ rfl rfl rfl rfl⟩
      | error err =>
          exact ⟨log, hdb, hcommand, .pending err ⟨rfl, hfinish⟩ (finishLog_eq_error hfinish)
            hpending.1 hpending.2⟩
  | error raised =>
      simp only
      cases hfinish : CommandService.finishLog env d db' log "failed" []
          (some (CommandService.failure d raised).1) with
      | ok db'' =>
          obtain ⟨-, hrow⟩ := CommandService.rows_of_statements hcreate hfinish
          obtain ⟨appError, happ⟩ := CommandService.failure_app (d := d) raised
          refine ⟨_, hrow, ⟨hcommand.1, hcommand.2, hcommand.3, hcommand.4, hcommand.5⟩, ?_⟩
          simp only [happ]
          exact .failed appError rfl rfl
      | error err =>
          exact ⟨log, hdb, hcommand, .pending err ⟨rfl, hfinish⟩ (finishLog_eq_error hfinish)
            hpending.1 hpending.2⟩

/-- A dispatch up to its first commit. -/
def CommandService.openLog (env : Env) (d : DispatchCall) (db : Store)
    (deviceId commandType : String) (payload : List (Str × Json)) (userId : Option ℤ) :
    Except PyError (Store × DeviceCommandLog) := do
  let device ← requireDevice db deviceId
  CommandService.createLog env d db device commandType payload userId

/-- What a dispatch leaves in the log without its first commit: nothing.  Then the device is unknown,
or the database has refused the row. -/
theorem dispatch_of_openLog_error
    (h : CommandService.openLog env d db deviceId commandType payload userId = .error err) :
    CommandService.dispatch env d db deviceId commandType payload userId = (.error err, db) ∧
      (err = .app (NotFoundError "device not found") ∨ ∀ appError, err ≠ .app appError) := by
  unfold CommandService.openLog at h
  unfold CommandService.dispatch
  cases hdevice : requireDevice db deviceId with
  | error e =>
      obtain rfl : e = err := by
        rw [hdevice] at h
        exact Except.error.inj h
      refine ⟨rfl, ?_⟩
      unfold requireDevice at hdevice
      split at hdevice
      · exact Or.inr fun _ => by simp [← Except.error.inj hdevice]
      · exact Or.inl (Except.error.inj hdevice).symm
      · simp at hdevice
  | ok device =>
      have hcreate :
          CommandService.createLog env d db device commandType payload userId = .error err := by
        rw [hdevice] at h
        exact h
      simp only [hcreate]
      exact ⟨trivial, Or.inr (createLog_eq_error hcreate)⟩

/-- **What a dispatch leaves in the log** with its first commit: one row, which says how it ended. -/
theorem dispatch_row {opened : Store × DeviceCommandLog}
    (h : CommandService.openLog env d db deviceId commandType payload userId = .ok opened) :
    ∃ row, (CommandService.dispatch env d db deviceId commandType payload userId).2 =
        { db with deviceCommandLogs := db.deviceCommandLogs ++ [row] } ∧
      LogsCommand env d deviceId commandType payload userId row ∧
      LogOutcome env (CompletionFails env d db deviceId commandType payload row) row
        (CommandService.dispatch env d db deviceId commandType payload userId).1 := by
  obtain ⟨db', log⟩ := opened
  obtain ⟨device, hdevice, hcreate⟩ := bind_eq_ok.1 h
  unfold CommandService.dispatch
  simp only [hdevice, hcreate]
  obtain ⟨row, hrow, hcommand, houtcome⟩ := finish_row (CommandService.modeOf env payload)
    (CommandService.query env d db' device deviceId commandType payload)
    (requireDevice_eq_ok hdevice).2 hcreate
  refine ⟨row, hrow, hcommand, houtcome.mono ?_⟩
  rintro err ⟨rfl, hconclude⟩
  exact ⟨device, db', hdevice, (createLog_eq_ok hcreate).2, hconclude⟩

end

/-- The query gets a row in the command log: it is let in, its device is known, and the database
takes the row. -/
def logsQuery (e : AuthEnv) (c : SystemCall iso) : Bool :=
  match c.op with
  | .createAdmin _ _ _ => false
  | .request req =>
      match req.route with
      | .query route deviceId d =>
          match authorize e c.before.accounts req.route.access req.authorization req.now with
          | .error _ => false
          | .ok user =>
              (CommandService.openLog e.env d c.before.server.db deviceId route.commandType
                route.modelDump (userIdOf user)).isOk
      | _ => false

/-- A query that is let in gets its row if the database takes it. -/
theorem logsQuery_of_query {c : SystemCall iso} {req : ApiRequest} {route : QueryRoute}
    {deviceId : String} {d : DispatchCall} {found : Option User} (hop : c.op = .request req)
    (hroute : req.route = .query route deviceId d)
    (hauth : authorize e c.before.accounts req.route.access req.authorization req.now = .ok found) :
    logsQuery e c = (CommandService.openLog e.env d c.before.server.db deviceId route.commandType
      route.modelDump (userIdOf found)).isOk := by
  unfold logsQuery
  rw [hop]
  simp only [hauth]
  rw [hroute]

/-- Nothing else gets one. -/
theorem logsQuery_of_not_query {c : SystemCall iso} {req : ApiRequest} (hop : c.op = .request req)
    (h : ∀ route deviceId d, req.route ≠ .query route deviceId d) : logsQuery e c = false := by
  unfold logsQuery
  rw [hop]
  -- the last case of the match is left
  simp only

/-- A request that is refused gets none. -/
theorem logsQuery_of_refused {c : SystemCall iso} {req : ApiRequest} {err : PyError}
    (hop : c.op = .request req)
    (hauth : authorize e c.before.accounts req.route.access req.authorization req.now =
      .error err) : logsQuery e c = false := by
  unfold logsQuery
  rw [hop]
  simp only [hauth]
  split <;> rfl

/-- How a command ended, as its row has it, and the response that is sent to the caller. -/
inductive CommandEnd (iso : FrpsService.IsoFormat) (env : Env) (renders : Json → Bool)
    (requestId : String) (fails : PyError → Prop) (row : DeviceCommandLog) :
    ApiResponse iso → Prop
  /-- the dispatch has returned its result, and the caller gets it if it can be written -/
  | success (answer : CommandService.DispatchAnswer) : row.status = "success" →
      row.completedAt.isSome = true → answer.requestId = row.requestId →
      row.responseSummary = scrub env.runtime (.obj answer.result) →
        CommandEnd iso env renders requestId fails row
          (if renders (.obj answer.result) = true then
            successResponse requestId (.dispatched answer)
          else unhandledErrorHandler iso requestId)
  | failed (err : AppError) : row.status = "failed" → row.completedAt.isSome = true →
      CommandEnd iso env renders requestId fails row (appErrorHandler iso requestId err)
  /-- the statement that completes the row failed -/
  | pending (err : PyError) : fails err → row.status = "pending" → row.completedAt = none →
      CommandEnd iso env renders requestId fails row (unhandledErrorHandler iso requestId)

/-- The row of the command log for a call: whose command it was, for which device, and how it
ended. -/
def CommandFor (e : AuthEnv) (renders : Json → Bool) (c : SystemCall iso)
    (row : DeviceCommandLog) : Prop :=
  ∃ req route deviceId d user response, c.op = .request req ∧
    req.route = .query route deviceId d ∧ SignedIn e c.before.accounts req user ∧
    Holds c.before.accounts user route.permission ∧
    LogsCommand e.env d deviceId route.commandType route.modelDump (some user.id) row ∧
    c.answer = .response response ∧
    CommandEnd iso e.env renders req.requestId
      (CompletionFails e.env d c.before.server.db deviceId route.commandType route.modelDump row)
      row (response.sent renders)

/-- The row of a dispatch, against the response that is sent. -/
theorem LogOutcome.commandEnd {env : Env} {fails : PyError → Prop} {row : DeviceCommandLog}
    {answer : Except PyError CommandService.DispatchAnswer} (h : LogOutcome env fails row answer)
    (iso : FrpsService.IsoFormat) (renders : Json → Bool) (requestId : String) :
    CommandEnd iso env renders requestId fails row
      ((respond iso requestId (answer.map .dispatched)).sent renders) := by
  cases h with
  | success answer hstatus hdone hid hsummary =>
      have hend : CommandEnd iso env renders requestId fails row _ :=
        .success answer hstatus hdone hid hsummary
      have hrendered : (ApiData.dispatched answer : ApiData iso).rendered renders =
          renders (.obj answer.result) := Bool.and_true _
      show CommandEnd iso env renders requestId fails row
        (if (ApiData.dispatched answer : ApiData iso).rendered renders = true then
          successResponse requestId (.dispatched answer)
        else unhandledErrorHandler iso requestId)
      rw [hrendered]
      exact hend
  | failed err hstatus hdone => exact .failed err hstatus hdone
  | pending err hfails hnot hstatus hdone =>
      have hrespond : respond iso requestId (Except.map ApiData.dispatched (.error err)) =
          unhandledErrorHandler iso requestId := by
        cases err with
        | app appError => exact absurd rfl (hnot appError)
        | _ => rfl
      rw [hrespond]
      exact .pending err hfails hstatus hdone

/-- A refused request is answered with 401, 403 or 500. -/
theorem code_of_refused (iso : FrpsService.IsoFormat) (requestId : String) {a : Accounts}
    {access : Access} {credentials : Option Credentials} {now : Timestamp} {err : PyError}
    (hu : UniqueKey User.id a.users)
    (h : authorize e a access credentials now = .error err) :
    (respond iso requestId (.error err)).code ∈ [401, 403, 500] := by
  cases err with
  | app exc =>
      have hcode := code_authorize hu h
      show exc.code.toNat ∈ [401, 403, 500]
      rcases hcode with hcode | hcode <;> simp [hcode, ErrorCode.toNat]
  | _ => simp [respond, unhandledErrorHandler]

/-- A query that gets a row leaves it, and every other call leaves the log alone. -/
theorem command_step (hadm : s.Admitted e.env.schema) (renders : Json → Bool) (op : SystemOp) :
    (logsQuery e (call (SystemOp.exec e iso) s op) = false ∧
        (op.exec e iso s).2.server.db.deviceCommandLogs = s.server.db.deviceCommandLogs) ∨
      (logsQuery e (call (SystemOp.exec e iso) s op) = true ∧
        ∃ row, CommandFor e renders (call (SystemOp.exec e iso) s op) row ∧
          (op.exec e iso s).2.server.db.deviceCommandLogs =
            s.server.db.deviceCommandLogs ++ [row]) := by
  cases op with
  | createAdmin salt username password => exact Or.inl ⟨rfl, rfl⟩
  | request req =>
      rcases exec_request_cases e iso s req with ⟨err, hauth, hcall⟩ | ⟨found, hauth, hcall⟩
      · have hafter : ((SystemOp.request req).exec e iso s).2 = s := congrArg Call.after hcall
        exact Or.inl ⟨logsQuery_of_refused rfl hauth, by rw [hafter]⟩
      · have hafter : ((SystemOp.request req).exec e iso s).2 = (req.route.body e iso s found).2 :=
          congrArg Call.after hcall
        rw [hafter]
        by_cases hroute : ∃ route deviceId d, req.route = .query route deviceId d
        · obtain ⟨route, deviceId, d, hroute⟩ := hroute
          have hlogs := logsQuery_of_query (c := call (SystemOp.exec e iso) s (.request req)) rfl
            hroute hauth
          rw [call_before] at hlogs
          rw [hroute] at hauth
          have haccess : (Route.query route deviceId d).access = .permission route.permission := rfl
          obtain ⟨user, rfl, hsigned, hholds⟩ := (authorize_eq_ok hadm.accounts.2.1.1
            (permission_ne_empty haccess)).1 hauth
          rw [hlogs, hroute]
          cases hopen : CommandService.openLog e.env d s.server.db deviceId route.commandType
              route.modelDump (userIdOf (some user)) with
          | error err =>
              obtain ⟨hdispatch, -⟩ := dispatch_of_openLog_error hopen
              exact Or.inl ⟨rfl, congrArg (fun r => r.2.deviceCommandLogs) hdispatch⟩
          | ok opened =>
              obtain ⟨row, hrow, hcommand, houtcome⟩ := dispatch_row hopen
              refine Or.inr ⟨rfl, row, ⟨req, route, deviceId, d, user, _, rfl, hroute, hsigned,
                hholds, hcommand, congrArg Call.answer hcall, ?_⟩,
                congrArg Store.deviceCommandLogs hrow⟩
              rw [hroute]
              exact houtcome.commandEnd iso renders req.requestId
        · have heff : StoreEffect e.env iso s.server.db found req.route
              (req.route.body e iso s found).1 (req.route.body e iso s found).2.server.db :=
            (effect_body req.route hadm.db).1
          have hkeep : Part.commandLogs.read (req.route.body e iso s found).2.server.db =
              Part.commandLogs.read s.server.db := by
            refine read_of_effect heff fun hwrites => hroute ?_
            cases hcase : req.route with
            | query route deviceId d => exact ⟨route, deviceId, d, rfl⟩
            | _ => simp [hcase, Route.writes] at hwrites
          exact Or.inl ⟨logsQuery_of_not_query rfl
            fun route deviceId d hcase => hroute ⟨route, deviceId, d, hcase⟩, hkeep⟩

/-- A query without a row was refused, or its device is unknown, or the database has refused the
row. -/
theorem code_of_unlogged (hadm : s.Admitted e.env.schema) (renders : Json → Bool)
    {req : ApiRequest} {route : QueryRoute} {deviceId : String} {d : DispatchCall}
    {response : ApiResponse iso} (hroute : req.route = .query route deviceId d)
    (hnone : logsQuery e (call (SystemOp.exec e iso) s (.request req)) = false)
    (hanswer : (call (SystemOp.exec e iso) s (.request req)).answer = .response response) :
    (response.sent renders).code ∈ [401, 403, 404, 500] := by
  rcases exec_request_cases e iso s req with ⟨err, hauth, hcall⟩ | ⟨found, hauth, hcall⟩
  · rw [hcall] at hanswer
    obtain rfl := SystemAnswer.response.inj hanswer
    rw [sent_respond_error]
    have hcode := code_of_refused iso req.requestId hadm.accounts.2.1.1 hauth
    simp only [List.mem_cons, List.not_mem_nil, or_false] at hcode ⊢
    omega
  · rw [hcall] at hanswer
    obtain rfl := SystemAnswer.response.inj hanswer
    rw [logsQuery_of_query rfl hroute hauth, call_before] at hnone
    rw [hroute]
    cases hopen : CommandService.openLog e.env d s.server.db deviceId route.commandType
        route.modelDump (userIdOf found) with
    | ok opened => simp [hopen, Except.isOk, Except.toBool] at hnone
    | error err =>
        obtain ⟨hdispatch, hkind⟩ := dispatch_of_openLog_error hopen
        have hbody : (Route.body e iso s found (.query route deviceId d)).1 = .error err :=
          congrArg (fun r : Except PyError CommandService.DispatchAnswer × Store =>
            r.1.map ApiData.dispatched) hdispatch
        rw [hbody, sent_respond_error]
        rcases hkind with rfl | hnot
        · simp [respond, appErrorHandler, NotFoundError, ErrorCode.toNat]
        · cases err with
          | app exc => exact absurd rfl (hnot exc)
          | _ => simp [respond, unhandledErrorHandler]

/-- **The command log has the commands that were sent, each as it ended.**  In every run from empty
tables its rows are, in order, those of the queries that were let in, whose device is known and whose
row the database takes: who sent which command to which device, with the scrubbed request.  The row
says `success` if the dispatch returned its result, which the caller gets if it can be written as
JSON, and a 500 in place of it if not; it says `failed` if the caller was answered with the code of
an application error; and it is pending if the statement that completes it failed, which is a 500.
Every other query was answered with 401, 403, 404 or 500. -/
theorem commandLog_run (e : AuthEnv) (iso : FrpsService.IsoFormat) (renders : Json → Bool)
    (ops : List SystemOp) :
    List.Forall₂ (CommandFor e renders)
        ((trace (SystemOp.exec e iso) ApiState.empty ops).filter (logsQuery e))
        (final (SystemOp.exec e iso) ApiState.empty ops).server.db.deviceCommandLogs ∧
      ∀ c ∈ trace (SystemOp.exec e iso) ApiState.empty ops, ∀ req route deviceId d response,
        c.op = .request req → req.route = .query route deviceId d → c.answer = .response response →
          logsQuery e c = false → (response.sent renders).code ∈ [401, 403, 404, 500] := by
  constructor
  · exact journal (SystemOp.exec e iso) (fun s => s.server.db.deviceCommandLogs)
      (fun _ op h => admitted_system op h) (fun _ op h => command_step h renders op)
      (ApiState.admitted_empty e.env.schema) rfl ops
  · intro c hc req route deviceId d response hop hroute hanswer hnone
    obtain ⟨hadm, hcall⟩ := before_of_mem_trace (SystemOp.exec e iso)
      (fun _ op h => admitted_system op h) (ApiState.admitted_empty e.env.schema) hc
    rw [hop] at hcall
    rw [hcall] at hanswer hnone
    exact code_of_unlogged hadm renders hroute hnone hanswer

end

end SmsForwarder
