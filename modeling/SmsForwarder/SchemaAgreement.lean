/-
**The tables of the tests and those of the deployment.**

The tests create the tables from the ORM models, the container from the migrations, and the two
differ in one constraint: the models allow a device one tunnel row, the migrations any number.
Requests that are served one after the other never notice.  Whatever is asked, the answers and the
tables are the same, because the code looks before it inserts; so what the tests show of such runs
is true of the deployment.

Main definitions:

* `SmsForwarder.AuthEnv.constrained` — the server on tables with the constraint, or without it;
* `SmsForwarder.OneTunnelEach` — what the constraint says.

Main results:

* `SmsForwarder.commit_constrained` — where it holds anyway, a commit does not depend on it;
* `SmsForwarder.body_constrained`, `SmsForwarder.exec_constrained` — nor does a route or an
  operation;
* `SmsForwarder.schemas_agree` — **every run is the same on both.**
-/

import SmsForwarder.Accountability
import SmsForwarder.IngestRaces

set_option relaxedAutoImplicit false
set_option autoImplicit false

namespace SmsForwarder

open Py Tables Runs

/-! ### The constraint -/

/-- The server on tables that have the constraint on `device_tunnels.device_id`, or lack it. -/
def Env.constrained (env : Env) (unique : Bool) : Env :=
  { env with schema := { env.schema with uniqueTunnelDevice := unique } }

def AuthEnv.constrained (e : AuthEnv) (unique : Bool) : AuthEnv :=
  { e with env := e.env.constrained unique }

/-- Every device has one tunnel row at most. -/
def OneTunnelEach (db : Store) : Prop := UniqueKey DeviceTunnel.deviceId db.deviceTunnels

/-- The call does the same with the constraint and without it. -/
def IgnoresConstraint {α : Type} (env : Env) (call : Env → Store → Except PyError (Store × α)) :
    Prop :=
  ∀ db, OneTunnelEach db → call (env.constrained true) db = call (env.constrained false) db

section

variable {env : Env} {db : Store}

theorem unique_constrained (h : OneTunnelEach db) (unique : Bool) :
    db.Unique (env.constrained unique).schema ↔ db.Unique (env.constrained true).schema := by
  constructor
  · rintro ⟨hd, ⟨hi, hp, -⟩, hrest⟩
    exact ⟨hd, ⟨hi, hp, fun _ => h⟩, hrest⟩
  · rintro ⟨hd, ⟨hi, hp, -⟩, hrest⟩
    exact ⟨hd, ⟨hi, hp, fun _ => h⟩, hrest⟩

/-- Where the constraint holds anyway, a commit does not depend on it. -/
theorem commit_constrained (h : OneTunnelEach db) :
    commit (env.constrained true).schema db = commit (env.constrained false).schema db := by
  unfold commit
  exact if_congr Iff.rfl rfl (if_congr (unique_constrained h false).symm rfl rfl)

/-- What comes after such a commit may be any of the same computations. -/
theorem bind_commit_constrained {α : Type} {f g : Store → Except PyError α} (h : OneTunnelEach db)
    (hfg : ∀ db', f db' = g db') :
    (commit (env.constrained true).schema db >>= f) =
      (commit (env.constrained false).schema db >>= g) := by
  rw [commit_constrained h]
  exact bind_congr_right fun db' _ => hfg db'

/-- A row that is rewritten keeps its device. -/
theorem OneTunnelEach.writeTunnel (h : OneTunnelEach db) {read new : DeviceTunnel}
    (hdevice : new.deviceId = read.deviceId) : OneTunnelEach (db.writeTunnel read new) := by
  refine (uniqueKey_updateKey fun cur _ _ => ?_).2 h
  simp [DeviceTunnel.merge, mergeColumn, hdevice]

/-- A row is inserted for a device that has none. -/
theorem OneTunnelEach.insertTunnel (h : OneTunnelEach db) {new : DeviceTunnel}
    (hnew : ∀ t ∈ db.deviceTunnels, t.deviceId ≠ new.deviceId) :
    OneTunnelEach (db.insertTunnel new) :=
  uniqueKey_concat.2 ⟨h, hnew⟩

end

/-! ### The services -/

section

variable {env : Env} {deviceId : String}

theorem ignores_createDevice (uuid : Uuid) (nonce : ℕ) (payload : DeviceCreate) :
    IgnoresConstraint env fun env db => DeviceService.create env db uuid nonce payload := by
  intro db h
  exact bind_commit_constrained h fun db' => rfl

theorem ignores_updateDevice (nonce : ℕ) (payload : DeviceUpdate) :
    IgnoresConstraint env fun env db => DeviceService.update env db deviceId nonce payload := by
  intro db h
  have hflush : ∀ device, DeviceService.flushUpdate (env.constrained true) nonce payload device db =
      DeviceService.flushUpdate (env.constrained false) nonce payload device db := by
    intro device
    unfold DeviceService.flushUpdate
    exact bind_congr_right fun new _ => @commit_constrained env (db.writeDevice device new) h
  unfold DeviceService.update
  simp only [hflush]

theorem ignores_createWebhook (secret : String) :
    IgnoresConstraint env fun env db => WebhookService.create env db deviceId secret := by
  intro db h
  refine bind_congr_right fun device _ => ?_
  exact bind_commit_constrained h fun db' => rfl

/-- The webhooks that are disabled have no part in it. -/
theorem OneTunnelEach.writeDisabled {db : Store} (h : OneTunnelEach db)
    (items : List DeviceWebhook) :
    OneTunnelEach (WebhookService.writeDisabled items db) := by
  induction items generalizing db with
  | nil => exact h
  | cons item items ih =>
      exact @ih (db.writeWebhook item (WebhookService.disabledWebhook item)) h

theorem ignores_rotateWebhook (secret : String) :
    IgnoresConstraint env fun env db => WebhookService.rotate env db deviceId secret := by
  intro db h
  refine bind_congr_right fun device _ => ?_
  exact bind_commit_constrained (h.writeDisabled (WebhookService.deviceItems db deviceId))
    fun db' => rfl

/-- **The code looks before it inserts**: only a device that has no row gets one. -/
theorem OneTunnelEach.writeEnable {db : Store} (h : OneTunnelEach db) {nonce : ℕ}
    {payload : TunnelEnableIn} {port : ℤ} {device : Device} {tunnel : Option DeviceTunnel}
    (ht : TunnelService.getTunnel db deviceId = .ok tunnel) :
    OneTunnelEach
      (TunnelService.writeEnable env deviceId nonce payload port device tunnel db) := by
  unfold TunnelService.getTunnel at ht
  split at ht
  · simp at ht
  · rename_i found hfound
    obtain rfl := Except.ok.inj ht
    cases found with
    | none =>
        have hnone := oneOrNone_eq_none_row.1 hfound
        refine @OneTunnelEach.insertTunnel (db.writeDevice device _) h _ fun t hmem => ?_
        have hother := hnone t hmem
        exact of_decide_eq_false hother
    | some t => exact @OneTunnelEach.writeTunnel (db.writeDevice device _) h _ _ rfl

/-- The flush of `enable` does not depend on the constraint if what it writes meets it. -/
theorem flushEnable_constrained {db : Store} {nonce : ℕ} {payload : TunnelEnableIn} {port : ℤ}
    {device : Device} {tunnel : Option DeviceTunnel}
    (hwrite : OneTunnelEach
      (TunnelService.writeEnable env deviceId nonce payload port device tunnel db)) :
    TunnelService.flushEnable (env.constrained true) deviceId nonce payload port device tunnel db =
      TunnelService.flushEnable (env.constrained false) deviceId nonce payload port device tunnel
        db := by
  have hcommit : commit (env.constrained true).schema (TunnelService.writeEnable
        (env.constrained true) deviceId nonce payload port device tunnel db) =
      commit (env.constrained false).schema (TunnelService.writeEnable
        (env.constrained false) deviceId nonce payload port device tunnel db) :=
    commit_constrained hwrite
  unfold TunnelService.flushEnable
  simp only [hcommit]

theorem ignores_enableTunnel (nonce : ℕ) (payload : TunnelEnableIn) :
    IgnoresConstraint env fun env db => TunnelService.enable env db deviceId nonce payload := by
  intro db h
  unfold TunnelService.enable
  refine bind_congr_right fun device _ => ?_
  refine bind_congr_right fun tunnel ht => ?_
  refine bind_congr_right fun _ _ => ?_
  refine bind_congr_right fun port _ => ?_
  rw [flushEnable_constrained (h.writeEnable ht)]
  rfl

theorem ignores_updateTunnel (payload : TunnelUpdateIn) :
    IgnoresConstraint env fun env db => TunnelService.update env db deviceId payload := by
  intro db h
  refine bind_congr_right fun tunnel _ => ?_
  exact bind_commit_constrained (h.writeTunnel rfl) fun db' => rfl

theorem ignores_disableTunnel :
    IgnoresConstraint env fun env db => TunnelService.disable env db deviceId := by
  intro db h
  refine bind_congr_right fun device _ => ?_
  refine bind_congr_right fun tunnel _ => ?_
  exact bind_commit_constrained (OneTunnelEach.writeTunnel h rfl) fun db' => rfl

theorem ignores_rotateToken (nonce : ℕ) :
    IgnoresConstraint env fun env db => TunnelService.rotateToken env db deviceId nonce := by
  intro db h
  refine bind_congr_right fun tunnel _ => ?_
  exact bind_commit_constrained (h.writeTunnel rfl) fun db' => rfl

theorem ignores_renderFrpcConfig (userId : Option ℤ) (now : Timestamp) :
    IgnoresConstraint env fun env db =>
      TunnelService.renderFrpcConfig env db deviceId userId now := by
  intro db h
  refine bind_congr_right fun tunnel _ => ?_
  refine bind_congr_right fun token _ => ?_
  exact bind_commit_constrained (OneTunnelEach.writeTunnel h rfl) fun db' => rfl

/-- The insertion of an event has no part in it. -/
theorem addEvent_constrained {db : Store} (h : OneTunnelEach db) (event : DeviceEvent)
    (c : WebhookService.IngestCall) :
    WebhookService.addEvent (env.constrained true) db event c =
      WebhookService.addEvent (env.constrained false) db event c := by
  unfold WebhookService.addEvent WebhookService.flushEvent
  rw [@commit_constrained env (db.insertEvent event) h]

theorem ignores_ingest (webhook : DeviceWebhook) (c : WebhookService.IngestCall) :
    IgnoresConstraint env fun env db => WebhookService.ingest env db webhook c := by
  intro db h
  refine bind_congr_right fun fields _ => ?_
  refine bind_congr_right fun eventId _ => ?_
  refine bind_congr_right fun event _ => ?_
  rw [addEvent_constrained h]
  refine bind_congr_right fun added hadded => ?_
  obtain ⟨working, duplicate⟩ := added
  refine bind_congr_right fun held _ => ?_
  refine bind_congr_right fun device _ => ?_
  have hworking : OneTunnelEach working := by
    obtain rfl : working = workingStore duplicate event db := addEvent_working hadded
    cases duplicate <;> exact h
  have hflush : WebhookService.flushCall (env.constrained true) working device held duplicate c =
      WebhookService.flushCall (env.constrained false) working device held duplicate c := by
    unfold WebhookService.flushCall
    rw [@commit_constrained env ((working.writeDevice device
      (WebhookService.calledDevice duplicate c.now device)).writeWebhook held
        (WebhookService.calledWebhook c.now held)) hworking]
  simp only [hflush]
  rfl

theorem ignores_postEvent (req : IngestRequest) :
    IgnoresConstraint env fun env db => postEvent env db req := by
  intro db h
  refine bind_congr_right fun payload _ => ?_
  exact bind_congr_right fun webhook _ => ignores_ingest webhook _ db h

theorem ingestWebhook_constrained {server : Server} (h : OneTunnelEach server.db)
    (req : IngestRequest) :
    ingestWebhook (env.constrained true) server req =
      ingestWebhook (env.constrained false) server req := by
  have hpost : postEvent (env.constrained true) server.db req =
      postEvent (env.constrained false) server.db req := ignores_postEvent req server.db h
  have hcount : countRequest (env.constrained true) server.rateLimits req =
      countRequest (env.constrained false) server.rateLimits req := rfl
  unfold ingestWebhook
  simp only [hcount, hpost]

/-- A dispatch commits rows of the log alone. -/
theorem dispatch_constrained {db : Store} (h : OneTunnelEach db) (d : DispatchCall)
    (commandType : String) (payload : List (Str × Json)) (userId : Option ℤ) :
    CommandService.dispatch (env.constrained true) d db deviceId commandType payload userId =
      CommandService.dispatch (env.constrained false) d db deviceId commandType payload userId := by
  have hcreate : ∀ device,
      CommandService.createLog (env.constrained true) d db device commandType payload userId =
        CommandService.createLog (env.constrained false) d db device commandType payload userId := by
    intro device
    refine bind_congr_right fun _ _ => ?_
    exact bind_commit_constrained h fun db' => rfl
  have hfinishLog : ∀ db' log status response errorMsg, OneTunnelEach db' →
      CommandService.finishLog (env.constrained true) d db' log status response errorMsg =
        CommandService.finishLog (env.constrained false) d db' log status response errorMsg := by
    intro db' log status response errorMsg h'
    refine bind_congr_right fun _ _ => ?_
    exact @commit_constrained env (db'.writeCommandLog log _) h'
  have hfinish : ∀ db' log mode outcome, OneTunnelEach db' →
      CommandService.finish (env.constrained true) d db' log mode outcome =
        CommandService.finish (env.constrained false) d db' log mode outcome := by
    intro db' log mode outcome h'
    unfold CommandService.finish
    cases outcome with
    | ok data => simp only [hfinishLog db' log _ _ _ h']
    | error err => simp only [hfinishLog db' log _ _ _ h']
  unfold CommandService.dispatch
  cases requireDevice db deviceId with
  | error err => rfl
  | ok device =>
      simp only [hcreate]
      cases hlog : CommandService.createLog (env.constrained false) d db device commandType payload
          userId with
      | error err => rfl
      | ok stored =>
          simp only
          have hstored : OneTunnelEach stored.1 := by
            rw [(createLog_eq_ok hlog).2]
            exact h
          exact hfinish _ _ _ _ hstored

end

/-! ### Runs -/

section

variable {e : AuthEnv} {iso : FrpsService.IsoFormat} {s : ApiState}

/-- A route that commits. -/
theorem committed_constrained {α : Type} {call : Env → Store → Except PyError (Store × α)}
    {data : α → ApiData iso} (h : IgnoresConstraint e.env call) (hone : OneTunnelEach s.server.db) :
    committed iso s (call (e.constrained true).env) data =
      committed iso s (call (e.constrained false).env) data := by
  have hcall :
      call (e.constrained true).env s.server.db = call (e.constrained false).env s.server.db :=
    h s.server.db hone
  unfold committed
  rw [hcall]

/-- No route notices the constraint. -/
theorem body_constrained (hone : OneTunnelEach s.server.db) (user : Option User) (route : Route) :
    route.body (e.constrained true) iso s user = route.body (e.constrained false) iso s user := by
  cases route with
  | healthz | login | listDevices | getDevice | getTunnel | listFrpsDevices => rfl
  | me => cases user <;> rfl
  | createDevice uuid nonce payload =>
      exact committed_constrained (ignores_createDevice uuid nonce payload) hone
  | updateDevice deviceId nonce payload =>
      exact committed_constrained (ignores_updateDevice nonce payload) hone
  | createWebhook deviceId secret => exact committed_constrained (ignores_createWebhook secret) hone
  | rotateWebhook deviceId secret => exact committed_constrained (ignores_rotateWebhook secret) hone
  | ingestWebhook req =>
      have hingest := @ingestWebhook_constrained e.env _ hone req
      show (_, _) = (_, _)
      unfold AuthEnv.constrained
      simp only [hingest]
  | enableTunnel deviceId nonce payload =>
      exact committed_constrained (ignores_enableTunnel nonce payload) hone
  | updateTunnel deviceId payload => exact committed_constrained (ignores_updateTunnel payload) hone
  | disableTunnel deviceId => exact committed_constrained ignores_disableTunnel hone
  | rotateTunnelToken deviceId nonce =>
      exact committed_constrained (ignores_rotateToken nonce) hone
  | getFrpcConfig deviceId now =>
      exact committed_constrained (ignores_renderFrpcConfig _ now) hone
  | query route deviceId d =>
      have hdispatch := @dispatch_constrained e.env deviceId _ hone d
        route.commandType route.modelDump (userIdOf user)
      show (_, _) = (_, _)
      unfold AuthEnv.constrained
      simp only [hdispatch]

/-- **No operation notices the constraint.** -/
theorem exec_constrained (hone : OneTunnelEach s.server.db) (op : SystemOp) :
    op.exec (e.constrained true) iso s = op.exec (e.constrained false) iso s := by
  cases op with
  | createAdmin salt username password => rfl
  | request req =>
      have hserve :
          serve (e.constrained true) iso s req = serve (e.constrained false) iso s req := by
        have hauthorize : authorize (e.constrained true) = authorize (e.constrained false) := rfl
        unfold serve
        simp only [hauthorize, body_constrained hone]
      show ((.response (serve (e.constrained true) iso s req).1, _) :
        SystemAnswer iso × ApiState) = _
      rw [hserve]
      rfl

end

/-- **The tables of the tests and those of the deployment.**  Every run from empty tables, of
requests and of runs of `create_admin`, is the same whether the tables have the constraint that the
models declare or lack it as the migrations do: each operation has the same answer, and leaves the
same tables. -/
theorem schemas_agree (e : AuthEnv) (iso : FrpsService.IsoFormat) (ops : List SystemOp) :
    trace (SystemOp.exec (e.constrained true) iso) ApiState.empty ops =
        trace (SystemOp.exec (e.constrained false) iso) ApiState.empty ops ∧
      final (SystemOp.exec (e.constrained true) iso) ApiState.empty ops =
        final (SystemOp.exec (e.constrained false) iso) ApiState.empty ops := by
  refine run_congr _ (I := fun s => s.Admitted (e.constrained true).env.schema)
    (fun _ op h => admitted_system op h) (fun s op h => exec_constrained ?_ op)
    (ApiState.admitted_empty _) ops
  -- with the constraint, the tables of the run meet it
  exact h.db.2.2.1.2.2 rfl

end SmsForwarder
