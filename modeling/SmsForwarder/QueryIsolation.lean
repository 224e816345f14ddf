/-
**Queries change nothing that is ever read.**

A query, in whichever mode and however it ends, leaves a row in the log of the commands, and no
other request reads that log.  So the queries of a run can be taken out, or others put in, and every
other request is answered as before and leaves the other tables as before: the owner of a device can
look at it as often as is wanted, and a device that answers badly does no harm.

Main definitions:

* `SmsForwarder.Store.unlogged`, `SmsForwarder.ApiState.unlogged` — the tables but for that log.

Main results:

* `SmsForwarder.commit_unlogged` — what is committed without the log;
* `SmsForwarder.exec_unlogged` — the other operations do the same without the log;
* `SmsForwarder.queries_invisible` — **runs that differ in queries only are the same to everyone
  else.**
-/

import SmsForwarder.IngestRaces
import SmsForwarder.QuerySignatures
import SmsForwarder.Unwinding

set_option relaxedAutoImplicit false
set_option autoImplicit false

namespace SmsForwarder

open Py Tables Runs

/-! ### The tables without the log -/

/-- The tables but for the log of the commands. -/
def Store.unlogged (db : Store) : Store := { db with deviceCommandLogs := [] }

def ApiState.unlogged (s : ApiState) : ApiState := s.withDb s.server.db.unlogged

/-- The database holds the log. -/
def LogAdmitted (schema : Schema) (db : Store) : Prop :=
  (schema.enforceLengths = true → ∀ l ∈ db.deviceCommandLogs, l.fits) ∧
    UniqueLogs db.deviceCommandLogs

/-- What a call returns and leaves, without the log. -/
def notLogged {α : Type} (r : Store × α) : Store × α := (r.1.unlogged, r.2)

/-- The call does without the log what it does with it. -/
def Overlooks {α : Type} (schema : Schema) (call : Store → Except PyError (Store × α)) : Prop :=
  ∀ db, LogAdmitted schema db → call db.unlogged = (call db).map notLogged

section

variable {schema : Schema} {db : Store}

theorem logAdmitted_of_admitted (h : db.Admitted schema) : LogAdmitted schema db :=
  ⟨fun hs => (h.1 hs).2.2.2.2.1, h.2.2.2.2.2.1⟩

theorem uniqueLogs_nil : UniqueLogs [] := ⟨uniqueKey_nil _, uniqueKey_nil _⟩

theorem fits_unlogged (h : ∀ l ∈ db.deviceCommandLogs, l.fits) : db.unlogged.Fits ↔ db.Fits := by
  constructor
  · rintro ⟨hd, ht, hw, he, -, ha⟩
    exact ⟨hd, ht, hw, he, h, ha⟩
  · rintro ⟨hd, ht, hw, he, -, ha⟩
    exact ⟨hd, ht, hw, he, by simp [Store.unlogged], ha⟩

theorem unique_unlogged (h : UniqueLogs db.deviceCommandLogs) :
    db.unlogged.Unique schema ↔ db.Unique schema := by
  constructor
  · rintro ⟨hd, ht, hw, he, -, ha⟩
    exact ⟨hd, ht, hw, he, h, ha⟩
  · rintro ⟨hd, ht, hw, he, -, ha⟩
    exact ⟨hd, ht, hw, he, uniqueLogs_nil, ha⟩

theorem Store.Admitted.unlogged (h : db.Admitted schema) : db.unlogged.Admitted schema :=
  ⟨fun hs => (fits_unlogged (h.1 hs).2.2.2.2.1).2 (h.1 hs), (unique_unlogged h.2.2.2.2.2.1).2 h.2⟩

/-- A commit that leaves the log alone does the same without it. -/
theorem commit_unlogged (h : LogAdmitted schema db) :
    commit schema db.unlogged = (commit schema db).map Store.unlogged := by
  have hfits : schema.enforceLengths = true ∧ ¬ db.unlogged.Fits ↔
      schema.enforceLengths = true ∧ ¬ db.Fits :=
    and_congr_right fun hs => not_congr (fits_unlogged (h.1 hs))
  unfold commit
  rw [if_congr hfits rfl (if_congr (unique_unlogged h.2) rfl rfl)]
  split
  · rfl
  · split <;> rfl

end

/-! ### The services -/

section

variable {env : Env} {db : Store} {deviceId : String}

theorem overlooks_createDevice (uuid : Uuid) (nonce : ℕ) (payload : DeviceCreate) :
    Overlooks env.schema fun db => DeviceService.create env db uuid nonce payload := by
  intro db h
  unfold DeviceService.create
  exact bind_congr_map
    (@commit_unlogged _ (db.insertDevice (DeviceService.newDevice env uuid nonce payload)) h)
    fun db' _ => rfl

theorem overlooks_updateDevice (nonce : ℕ) (payload : DeviceUpdate) :
    Overlooks env.schema fun db => DeviceService.update env db deviceId nonce payload := by
  intro db h
  have hflush : ∀ device, DeviceService.flushUpdate env nonce payload device db.unlogged =
      (DeviceService.flushUpdate env nonce payload device db).map Store.unlogged := by
    intro device
    unfold DeviceService.flushUpdate
    exact bind_congr_map_right fun new _ => @commit_unlogged _ (db.writeDevice device new) h
  unfold DeviceService.update
  refine bind_congr_map_right fun device _ => ?_
  refine bind_congr_map_right fun _ _ => ?_
  exact bind_congr_map (hflush device) fun db' _ => rfl

theorem overlooks_createWebhook (secret : String) :
    Overlooks env.schema fun db => WebhookService.create env db deviceId secret := by
  intro db h
  unfold WebhookService.create
  refine bind_congr_map_right fun device _ => ?_
  exact bind_congr_map
    (@commit_unlogged _ (db.insertWebhook (WebhookService.newWebhook env deviceId secret)) h)
    fun db' _ => rfl

/-- The flush of the disabled rows is one of the webhooks alone. -/
theorem writeDisabled_unlogged (items : List DeviceWebhook) :
    WebhookService.writeDisabled items db.unlogged =
        (WebhookService.writeDisabled items db).unlogged ∧
      (WebhookService.writeDisabled items db).deviceCommandLogs = db.deviceCommandLogs := by
  induction items generalizing db with
  | nil => exact ⟨rfl, rfl⟩
  | cons item items ih => exact @ih (db.writeWebhook item (WebhookService.disabledWebhook item))

theorem overlooks_rotateWebhook (secret : String) :
    Overlooks env.schema fun db => WebhookService.rotate env db deviceId secret := by
  intro db h
  have hflush : ∀ items, WebhookService.flushRotate env deviceId secret items db.unlogged =
      (WebhookService.flushRotate env deviceId secret items db).map Store.unlogged := by
    intro items
    obtain ⟨hwrite, hlogs⟩ := @writeDisabled_unlogged db items
    unfold WebhookService.flushRotate
    rw [hwrite]
    have hlog : LogAdmitted env.schema ((WebhookService.writeDisabled items db).insertWebhook
        (WebhookService.newWebhook env deviceId secret)) := by
      unfold LogAdmitted Store.insertWebhook
      simp only [hlogs]
      exact h
    exact commit_unlogged hlog
  unfold WebhookService.rotate
  refine bind_congr_map_right fun device _ => ?_
  exact bind_congr_map (hflush (WebhookService.deviceItems db deviceId)) fun db' _ => rfl

theorem overlooks_enableTunnel (nonce : ℕ) (payload : TunnelEnableIn) :
    Overlooks env.schema fun db => TunnelService.enable env db deviceId nonce payload := by
  intro db h
  have hflush : ∀ port device tunnel,
      TunnelService.flushEnable env deviceId nonce payload port device tunnel db.unlogged =
        (TunnelService.flushEnable env deviceId nonce payload port device tunnel db).map
          Store.unlogged := by
    intro port device tunnel
    have hwrite : TunnelService.writeEnable env deviceId nonce payload port device tunnel
        db.unlogged =
          (TunnelService.writeEnable env deviceId nonce payload port device tunnel db).unlogged := by
      cases tunnel <;> rfl
    have hlog : LogAdmitted env.schema
        (TunnelService.writeEnable env deviceId nonce payload port device tunnel db) := by
      cases tunnel <;> exact h
    unfold TunnelService.flushEnable
    rw [hwrite, commit_unlogged hlog]
    cases commit env.schema
        (TunnelService.writeEnable env deviceId nonce payload port device tunnel db) with
    | ok db' => rfl
    | error err => cases err <;> rfl
  unfold TunnelService.enable
  refine bind_congr_map_right fun device _ => ?_
  refine bind_congr_map_right fun tunnel _ => ?_
  refine bind_congr_map_right fun _ _ => ?_
  refine bind_congr_map_right fun port _ => ?_
  refine bind_congr_map (hflush port device tunnel) fun db' _ => ?_
  cases tunnel <;> rfl

theorem overlooks_updateTunnel (payload : TunnelUpdateIn) :
    Overlooks env.schema fun db => TunnelService.update env db deviceId payload := by
  intro db h
  unfold TunnelService.update
  refine bind_congr_map_right fun tunnel _ => ?_
  exact bind_congr_map
    (@commit_unlogged _ (db.writeTunnel tunnel (TunnelService.updatedTunnel payload tunnel)) h)
    fun db' _ => rfl

theorem overlooks_disableTunnel :
    Overlooks env.schema fun db => TunnelService.disable env db deviceId := by
  intro db h
  unfold TunnelService.disable
  refine bind_congr_map_right fun device _ => ?_
  refine bind_congr_map_right fun tunnel _ => ?_
  exact bind_congr_map
    (@commit_unlogged _ ((db.writeDevice device (TunnelService.restoredDevice device tunnel)).writeTunnel
      tunnel (TunnelService.disabledTunnel tunnel)) h)
    fun db' _ => rfl

theorem overlooks_rotateToken (nonce : ℕ) :
    Overlooks env.schema fun db => TunnelService.rotateToken env db deviceId nonce := by
  intro db h
  unfold TunnelService.rotateToken
  refine bind_congr_map_right fun tunnel _ => ?_
  exact bind_congr_map (@commit_unlogged _ (db.writeTunnel tunnel _) h) fun db' _ => rfl

theorem overlooks_renderFrpcConfig (userId : Option ℤ) (now : Timestamp) :
    Overlooks env.schema fun db => TunnelService.renderFrpcConfig env db deviceId userId now := by
  intro db h
  unfold TunnelService.renderFrpcConfig
  refine bind_congr_map_right fun tunnel _ => ?_
  refine bind_congr_map_right fun token _ => ?_
  exact bind_congr_map
    (@commit_unlogged _ ((db.writeTunnel tunnel { tunnel with lastConfigGeneratedAt := some now })
      |>.insertAuditLog (TunnelService.configAudit env tunnel userId deviceId)) h)
    fun db' _ => rfl

/-- A posting does to the other tables what it does without the log. -/
theorem overlooks_ingest (webhook : DeviceWebhook) (c : WebhookService.IngestCall) :
    Overlooks env.schema fun db => WebhookService.ingest env db webhook c := by
  intro db h
  have hadd : ∀ event, WebhookService.addEvent env db.unlogged event c =
      (WebhookService.addEvent env db event c).map notLogged := by
    intro event
    have hflush : WebhookService.flushEvent env db.unlogged event c =
        (WebhookService.flushEvent env db event c).map Store.unlogged := by
      unfold WebhookService.flushEvent
      rw [← run_map, ← @commit_unlogged _ (db.insertEvent event) h]
      rfl
    unfold WebhookService.addEvent
    rw [hflush]
    cases WebhookService.flushEvent env db event c with
    | ok working => rfl
    | error err =>
        cases err with
        | integrityError => exact run_map .rollback notLogged (.ok (db, true))
        | _ => rfl
  have hcall : ∀ (working : Store) (device : Device) (webhook : DeviceWebhook) (duplicate : Bool),
      LogAdmitted env.schema working →
      WebhookService.flushCall env working.unlogged device webhook duplicate c =
        (WebhookService.flushCall env working device webhook duplicate c).map Store.unlogged := by
    intro working device webhook duplicate hworking
    unfold WebhookService.flushCall
    rw [← run_map, ← run_map, ← @commit_unlogged _ ((working.writeDevice device
      (WebhookService.calledDevice duplicate c.now device)).writeWebhook webhook
        (WebhookService.calledWebhook c.now webhook)) hworking]
    rfl
  unfold WebhookService.ingest
  refine bind_congr_map_right fun fields _ => ?_
  refine bind_congr_map_right fun eventId _ => ?_
  refine bind_congr_map_right fun event _ => ?_
  refine bind_congr_map (hadd event) fun added hadded => ?_
  obtain ⟨working, duplicate⟩ := added
  refine bind_congr_map_right fun webhook _ => ?_
  refine bind_congr_map_right fun device _ => ?_
  refine bind_congr_map (hcall working device webhook duplicate ?_) fun db' _ => rfl
  obtain rfl : working = workingStore duplicate event db := addEvent_working hadded
  cases duplicate <;> exact h

theorem overlooks_postEvent (req : IngestRequest) :
    Overlooks env.schema fun db => postEvent env db req := by
  intro db h
  unfold postEvent
  refine bind_congr_map_right fun payload _ => ?_
  exact bind_congr_map_right fun webhook _ => overlooks_ingest webhook _ db h

/-- The limiter counts the posting, and the log has no part in it. -/
theorem ingestWebhook_unlogged {server : Server} (h : LogAdmitted env.schema server.db)
    (req : IngestRequest) :
    ingestWebhook env { server with db := server.db.unlogged } req =
      ((ingestWebhook env server req).1,
        { (ingestWebhook env server req).2 with
          db := (ingestWebhook env server req).2.db.unlogged }) := by
  unfold ingestWebhook
  simp only
  cases countRequest env server.rateLimits req with
  | error err => rfl
  | ok rateLimits =>
      have hpost : postEvent env server.db.unlogged req =
          (postEvent env server.db req).map notLogged := overlooks_postEvent req server.db h
      simp only
      rw [hpost]
      cases postEvent env server.db req with
      | ok r => rfl
      | error err => rfl

end

/-! ### The other operations -/

section

variable {e : AuthEnv} {iso : FrpsService.IsoFormat} {s : ApiState}

/-- A route that commits. -/
theorem committed_unlogged {α : Type} {call : Store → Except PyError (Store × α)}
    {data : α → ApiData iso} {schema : Schema} (h : Overlooks schema call)
    (hlog : LogAdmitted schema s.server.db) :
    committed iso s.unlogged call data =
      ((committed iso s call data).1, (committed iso s call data).2.unlogged) := by
  unfold committed
  show (((attempt (call s.server.db.unlogged) s.server.db.unlogged).1.map data,
    s.unlogged.withDb (attempt (call s.server.db.unlogged) s.server.db.unlogged).2) : _ × _) = _
  rw [h _ hlog]
  cases call s.server.db with
  | ok r => rfl
  | error err => rfl

/-- The routes that dispatch nothing do without the log what they do with it. -/
theorem body_unlogged (hadm : s.server.db.Admitted e.env.schema) (user : Option User)
    (route : Route) (hroute : route.queries = false) :
    route.body e iso s.unlogged user =
      ((route.body e iso s user).1, (route.body e iso s user).2.unlogged) := by
  have hlog := logAdmitted_of_admitted hadm
  cases route with
  | healthz | login | listDevices | getDevice | getTunnel | listFrpsDevices => rfl
  | me => cases user <;> rfl
  | createDevice uuid nonce payload =>
      exact committed_unlogged (overlooks_createDevice uuid nonce payload) hlog
  | updateDevice deviceId nonce payload =>
      exact committed_unlogged (overlooks_updateDevice nonce payload) hlog
  | createWebhook deviceId secret => exact committed_unlogged (overlooks_createWebhook secret) hlog
  | rotateWebhook deviceId secret => exact committed_unlogged (overlooks_rotateWebhook secret) hlog
  | ingestWebhook req =>
      show (_, _) = _
      unfold ApiState.unlogged ApiState.withDb
      simp only [Route.body, ingestWebhook_unlogged hlog]
  | enableTunnel deviceId nonce payload =>
      exact committed_unlogged (overlooks_enableTunnel nonce payload) hlog
  | updateTunnel deviceId payload => exact committed_unlogged (overlooks_updateTunnel payload) hlog
  | disableTunnel deviceId => exact committed_unlogged (overlooks_disableTunnel) hlog
  | rotateTunnelToken deviceId nonce => exact committed_unlogged (overlooks_rotateToken nonce) hlog
  | getFrpcConfig deviceId now => exact committed_unlogged (overlooks_renderFrpcConfig _ now) hlog
  | query route deviceId d => simp [Route.queries] at hroute

/-- **The operations that dispatch nothing** do without the log what they do with it. -/
theorem exec_unlogged (hadm : s.Admitted e.env.schema) (op : SystemOp) (hop : op.queries = false) :
    op.exec e iso s.unlogged = ((op.exec e iso s).1, (op.exec e iso s).2.unlogged) := by
  cases op with
  | createAdmin salt username password => rfl
  | request req =>
      have hbody := fun user => @body_unlogged e iso s hadm.db user req.route hop
      have hauthorize : authorize e s.unlogged.accounts = authorize e s.accounts := rfl
      simp only [SystemOp.exec]
      unfold serve
      simp only [hauthorize]
      cases authorize e s.accounts req.route.access req.authorization req.now with
      | error err => rfl
      | ok user =>
          simp only [hbody]

/-- A query changes the log alone. -/
theorem unlogged_query {op : SystemOp} (hop : op.queries = true) :
    (op.exec e iso s).2.unlogged = s.unlogged := by
  cases op with
  | createAdmin salt username password => simp [SystemOp.queries] at hop
  | request req =>
      show (serve e iso s req).2.unlogged = s.unlogged
      rcases serve_cases e iso s req with ⟨err, -, hserve⟩ | ⟨user, -, hserve⟩
      · rw [hserve]
      · rw [hserve]
        have hroute : req.route.queries = true := hop
        cases hcase : req.route with
        | query route deviceId d =>
            obtain ⟨logs, hlogs⟩ := dispatch_logs e.env d s.server.db deviceId route.commandType
              route.modelDump (userIdOf user)
            show (s.withDb (CommandService.dispatch e.env d s.server.db deviceId route.commandType
              route.modelDump (userIdOf user)).2).unlogged = s.unlogged
            rw [hlogs]
            rfl
        | _ => simp [hcase, Route.queries] at hroute

end

/-- **Queries change nothing that is ever read.**  Two runs that start alike and differ in queries
only, whatever was asked, in whichever mode and however it ended, give every other request the same
answer, and end in the same tables but for the log of the commands. -/
theorem queries_invisible (e : AuthEnv) (iso : FrpsService.IsoFormat) (s : ApiState)
    (hadm : s.Admitted e.env.schema) (ops ops' : List SystemOp)
    (hsame : ops.filter (fun op => !op.queries) = ops'.filter fun op => !op.queries) :
    (final (SystemOp.exec e iso) s ops).unlogged = (final (SystemOp.exec e iso) s ops').unlogged ∧
      ((trace (SystemOp.exec e iso) s ops).filter fun c => !c.op.queries).map Call.answer =
        ((trace (SystemOp.exec e iso) s ops').filter fun c => !c.op.queries).map Call.answer := by
  have hunwinds : Unwinding.Unwinds (SystemOp.exec e iso) (fun s => s.Admitted e.env.schema)
      (fun _ op => op.queries) ApiState.unlogged Call.answer :=
    Unwinding.unwinds_of_projection (fun _ op h => admitted_system op h)
      (fun _ _ _ hop => unlogged_query hop) fun t op ht hop => by
        have hexec := @exec_unlogged e iso t ht op hop
        have hanswer : (op.exec e iso t.unlogged).1 = (op.exec e iso t).1 := by rw [hexec]
        refine ⟨?_, hanswer.symm⟩
        rw [hexec]
        rfl
  refine hunwinds.noninterference hadm hadm rfl ?_
  rw [Unwinding.visible_map_op SystemOp.queries, Unwinding.visible_map_op SystemOp.queries]
  exact hsame

/-- The administrator asks the device for its battery. -/
def queryRequest : ApiRequest :=
  { sessionRequest with
    route := .query (.battery { mode := .realtime }) (generateDeviceId Uuid.nil) signedCall }

theorem queries_invisible_session :
    (final plainExec ApiState.empty
        (createdStart ++ [.request queryRequest, .request sessionRequest])).unlogged =
        (final plainExec ApiState.empty (createdStart ++ [.request sessionRequest])).unlogged ∧
      ((trace plainExec ApiState.empty
          (createdStart ++ [.request queryRequest, .request sessionRequest])).filter
        fun c => !c.op.queries).map Call.answer =
        ((trace plainExec ApiState.empty (createdStart ++ [.request sessionRequest])).filter
          fun c => !c.op.queries).map Call.answer :=
  queries_invisible (plainAuthEnv ormSchema) FrpsService.noIso ApiState.empty
    (ApiState.admitted_empty ormSchema) _ _ rfl

end SmsForwarder
