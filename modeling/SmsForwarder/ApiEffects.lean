/-
**What a request does to the store.**

The routes that write make one service call each, and that call ends in one commit or in an
exception.  This module says once, for all routes, what a request that was let in can do to the
tables of the devices, with the guards that were passed and the data that was returned; everything
that holds along runs of the API is a case analysis over these effects.

Main definitions:

* `SmsForwarder.Route.reads` — the routes that write nothing;
* `SmsForwarder.StoreEffect` — the effects;
* `SmsForwarder.ApiState.Admitted` — the tables the database can hold.

Main results:

* `SmsForwarder.effect_body`, `SmsForwarder.effect_system` — **a request has one of the effects**;
* `SmsForwarder.admitted_serve`, `SmsForwarder.admitted_system` — the database accepts the tables
  after every request, and after every run of `create_admin`.
-/

import SmsForwarder.AcceptedBodies
import SmsForwarder.Api

set_option relaxedAutoImplicit false
set_option autoImplicit false

namespace SmsForwarder

open Py Tables Runs

/-! ### Effects -/

/-- The routes that write nothing. -/
def Route.reads : Route → Bool
  | healthz | login _ _ | me | listDevices | getDevice _ | getTunnel _
  | listFrpsDevices _ _ _ => true
  | _ => false

/-- The row of an event is the one that the posting asks for, and the answer says whether the device
has an event with its identifier already. -/
structure IngestedAs (env : Env) (db : Store) (req : IngestRequest) (deviceId : String)
    (event : DeviceEvent) (result : WebhookService.IngestResult) : Prop where
  bound : ∃ fields, req.body = some (.obj fields) ∧
    WebhookService.bindEvent env deviceId result.eventId
      (parseWebhookPayload env.runtime fields req.parsedAt) (ingestCall req (.obj fields)) =
        .ok event ∧
    result.eventType = storedType (declaredType env.runtime fields)
  duplicate : result.duplicate = true ↔ WebhookService.Recorded db deviceId event.eventId

/-- What a request that was let in does to the store, with what its route returned or raised. -/
inductive StoreEffect (env : Env) (iso : FrpsService.IsoFormat) (db : Store) (user : Option User) :
    Route → Except PyError (ApiData iso) → Store → Prop
  | read (route : Route) (outcome : Except PyError (ApiData iso)) :
      route.reads = true → StoreEffect env iso db user route outcome db
  | failed (route : Route) (err : PyError) : StoreEffect env iso db user route (.error err) db
  | createDevice (uuid : Uuid) (nonce : ℕ) (payload : DeviceCreate) :
      StoreEffect env iso db user (.createDevice uuid nonce payload)
        (.ok (.device (deviceOut (DeviceService.newDevice env uuid nonce payload))))
        (db.insertDevice (DeviceService.newDevice env uuid nonce payload))
  | updateDevice (deviceId : String) (nonce : ℕ) (payload : DeviceUpdate) (device new : Device) :
      device ∈ db.devices → device.deviceId = deviceId →
      DeviceService.assign env nonce payload device = .ok new →
      (payload.baseUrl.isSome = true →
        ∀ t ∈ db.deviceTunnels, t.deviceId = deviceId → t.enabled = false) →
      StoreEffect env iso db user (.updateDevice deviceId nonce payload)
        (.ok (.device (deviceOut new))) (db.writeDevice device new)
  | createWebhook (deviceId secret : String) : (∃ device ∈ db.devices, device.deviceId = deviceId) →
      StoreEffect env iso db user (.createWebhook deviceId secret)
        (.ok (.issued (WebhookService.issuedToken env secret)))
        (db.insertWebhook (WebhookService.newWebhook env deviceId secret))
  | rotateWebhook (deviceId secret : String) : (∃ device ∈ db.devices, device.deviceId = deviceId) →
      StoreEffect env iso db user (.rotateWebhook deviceId secret)
        (.ok (.issued (WebhookService.issuedToken env secret)))
        (Store.insertWebhook
          { db with
            deviceWebhooks := db.deviceWebhooks.map (WebhookService.rotatedWebhook deviceId) }
          (WebhookService.newWebhook env deviceId secret))
  | ingestWebhook (req : IngestRequest) (webhook : DeviceWebhook) (device : Device)
      (event : DeviceEvent) (result : WebhookService.IngestResult) :
      webhook ∈ db.deviceWebhooks → webhook.enabled = true →
      webhook.webhookTokenHash = WebhookService.hashToken env req.webhookToken →
      device ∈ db.devices → device.deviceId = webhook.deviceId →
      event.deviceId = webhook.deviceId →
      IngestedAs env db req webhook.deviceId event result →
      StoreEffect env iso db user (.ingestWebhook req) (.ok (.ingested result))
        (calledStore db webhook device event result.duplicate req.now)
  | enableTunnel (deviceId : String) (nonce : ℕ) (payload : TunnelEnableIn) (device : Device)
      (tunnel : Option DeviceTunnel) (port : ℤ) :
      device ∈ db.devices → device.deviceId = deviceId →
      TunnelService.getTunnel db deviceId = .ok tunnel →
      (∀ t, tunnel = some t → t.enabled = false) →
      TunnelService.choosePort env.settings payload.remotePort
        (db.deviceTunnels.map DeviceTunnel.remotePort) = .ok port →
      StoreEffect env iso db user (.enableTunnel deviceId nonce payload)
        (.ok (.tunnel (tunnelOut
          (TunnelService.enabledTunnel env deviceId nonce payload port device tunnel))))
        (TunnelService.writeEnable env deviceId nonce payload port device tunnel db)
  | updateTunnel (deviceId : String) (payload : TunnelUpdateIn) (t : DeviceTunnel) :
      t ∈ db.deviceTunnels → t.deviceId = deviceId →
      StoreEffect env iso db user (.updateTunnel deviceId payload)
        (.ok (.tunnel (tunnelOut (TunnelService.updatedTunnel payload t))))
        (db.writeTunnel t (TunnelService.updatedTunnel payload t))
  | disableTunnel (deviceId : String) (device : Device) (t : DeviceTunnel) :
      device ∈ db.devices → device.deviceId = deviceId →
      t ∈ db.deviceTunnels → t.deviceId = deviceId →
      StoreEffect env iso db user (.disableTunnel deviceId)
        (.ok (.tunnel (tunnelOut (TunnelService.disabledTunnel t))))
        ((db.writeDevice device (TunnelService.restoredDevice device t)).writeTunnel t
          (TunnelService.disabledTunnel t))
  | rotateTunnelToken (deviceId : String) (nonce : ℕ) (t : DeviceTunnel) :
      t ∈ db.deviceTunnels → t.deviceId = deviceId →
      StoreEffect env iso db user (.rotateTunnelToken deviceId nonce)
        (.ok (.tunnelToken env.settings.frpsAuthToken))
        (db.writeTunnel t
          { t with authTokenEncrypted := env.cipher.encrypt nonce env.settings.frpsAuthToken })
  | getFrpcConfig (deviceId : String) (now : Timestamp) (t : DeviceTunnel) (token : String) :
      t ∈ db.deviceTunnels → t.deviceId = deviceId →
      env.cipher.decrypt t.authTokenEncrypted = some token →
      StoreEffect env iso db user (.getFrpcConfig deviceId now)
        (.ok (.frpcConfig (t.proxyName ++ "-frpc.toml") (TunnelService.frpcToml env t token)))
        ((db.writeTunnel t { t with lastConfigGeneratedAt := some now }).insertAuditLog
          (TunnelService.configAudit env t (userIdOf user) deviceId))
  | query (route : QueryRoute) (deviceId : String) (d : DispatchCall)
      (outcome : Except PyError (ApiData iso)) (logs : List DeviceCommandLog) :
      StoreEffect env iso db user (.query route deviceId d) outcome
        { db with deviceCommandLogs := logs }

/-! ### The routes have these effects -/

section

variable {e : AuthEnv} {iso : FrpsService.IsoFormat} {s : ApiState} {user : Option User}

/-- A service call that commits has the effect of its success, or fails and has none. -/
theorem effect_committed {α : Type} {route : Route} {call : Store → Except PyError (Store × α)}
    {data : α → ApiData iso}
    (h : ∀ db' a, call s.server.db = .ok (db', a) →
      StoreEffect e.env iso s.server.db user route (.ok (data a)) db' ∧ db'.Admitted e.env.schema)
    (hadm : s.server.db.Admitted e.env.schema) :
    StoreEffect e.env iso s.server.db user route (committed iso s call data).1
        (committed iso s call data).2.server.db ∧
      (committed iso s call data).2.server.db.Admitted e.env.schema := by
  unfold committed
  rcases attempt_cases (call s.server.db) s.server.db with ⟨db', a, hok, hcall⟩ | ⟨err, -, hcall⟩
  · rw [hcall]
    exact h db' a hok
  · rw [hcall]
    exact ⟨StoreEffect.failed route err, hadm⟩

/-- A route that reads leaves the tables alone. -/
theorem body_of_reads {route : Route} (h : route.reads = true) :
    (route.body e iso s user).2 = s := by
  cases route with
  | me => cases user <;> rfl
  | healthz | login | listDevices | getDevice | getTunnel | listFrpsDevices => rfl
  | _ => simp [Route.reads] at h

/-- A dispatch changes the log of the commands alone. -/
theorem dispatch_logs (env : Env) (d : DispatchCall) (db : Store) (deviceId commandType : String)
    (payload : List (Str × Json)) (userId : Option ℤ) :
    ∃ logs, (CommandService.dispatch env d db deviceId commandType payload userId).2 =
      { db with deviceCommandLogs := logs } := by
  rcases CommandService.dispatch_store_cases env d db deviceId commandType payload userId with
    hkeep | ⟨device, db', log, hcreate, hend⟩
  · exact ⟨db.deviceCommandLogs, hkeep⟩
  · obtain ⟨u, -, hcreate⟩ := bind_eq_ok.1 hcreate
    obtain ⟨inserted, hcommit, hcreate⟩ := bind_eq_ok.1 hcreate
    obtain ⟨rfl, -⟩ := commit_eq_ok.1 hcommit
    cases hcreate
    rcases hend with hlogged | ⟨status, response, errorMsg, hfinish⟩
    · exact ⟨_, hlogged⟩
    · obtain ⟨u, -, hfinish⟩ := bind_eq_ok.1 hfinish
      exact ⟨_, (commit_eq_ok.1 hfinish).1⟩

theorem body_of_requestJson {req : IngestRequest} {payload : Json}
    (h : requestJson req = .ok payload) : req.body = some payload := by
  unfold requestJson at h
  split at h
  · rename_i found hfound
    rw [hfound, Except.ok.inj h]
  · simp at h

/-- A posting that is answered came with the token of an enabled webhook. -/
theorem effect_ingest (req : IngestRequest) (hadm : s.server.db.Admitted e.env.schema) :
    StoreEffect e.env iso s.server.db user (.ingestWebhook req)
        (Route.body e iso s user (.ingestWebhook req)).1
        (Route.body e iso s user (.ingestWebhook req)).2.server.db ∧
      (Route.body e iso s user (.ingestWebhook req)).2.server.db.Admitted e.env.schema := by
  show StoreEffect e.env iso s.server.db user (.ingestWebhook req)
      ((SmsForwarder.ingestWebhook e.env s.server req).1.map .ingested)
      (SmsForwarder.ingestWebhook e.env s.server req).2.db ∧
    (SmsForwarder.ingestWebhook e.env s.server req).2.db.Admitted e.env.schema
  unfold SmsForwarder.ingestWebhook
  cases hcount : countRequest e.env s.server.rateLimits req with
  | error err => exact ⟨StoreEffect.failed _ err, hadm⟩
  | ok rateLimits =>
      rcases attempt_cases (postEvent e.env s.server.db req) s.server.db with
        ⟨db', result, hpost, hattempt⟩ | ⟨err, -, hattempt⟩
      · obtain ⟨payload, hjson, hrest⟩ := bind_eq_ok.1 hpost
        obtain ⟨webhook, hlookup, hingest⟩ := bind_eq_ok.1 hrest
        obtain ⟨hmem, hhash, hen⟩ := (WebhookService.lookup_eq_ok hadm.2.2.2.1.2).1 hlookup
        obtain ⟨fields, event, hfields, hbind, htype, hdup, device, hdev, hid, hdb, hadm'⟩ :=
          WebhookService.ingest_eq_ok hadm hmem hingest
        obtain rfl : payload = .obj fields := hfields
        have hevent := (WebhookService.bindEvent_eq_ok hbind).1
        simp only at hdb hadm'
        simp only [hattempt]
        rw [hdb] at hadm' ⊢
        rw [hevent] at hdup
        exact ⟨StoreEffect.ingestWebhook req webhook device event result hmem hen hhash hdev hid
          hevent ⟨⟨fields, body_of_requestJson hjson, hbind, htype⟩, hdup⟩, hadm'⟩
      · simp only [hattempt]
        exact ⟨StoreEffect.failed _ err, hadm⟩

/-- The row that a device update returns is the one it wrote. -/
theorem refreshDevice_writeDevice {db : Store} {device new : Device}
    (hu : UniqueKey Device.id db.devices) (hmem : device ∈ db.devices) (hid : new.id = device.id) :
    refreshDevice (db.writeDevice device new) device = new := by
  have hself : device.merge new device = new := Device.merge_self hid
  unfold refreshDevice Store.writeDevice
  rw [lookup_updateKey hu hu hmem (by rw [hself, hid]), if_pos rfl, hself]
  rfl

/-- The row that a tunnel update returns is the one it wrote. -/
theorem refreshTunnel_written {db : Store} {t new : DeviceTunnel}
    (hu : UniqueKey DeviceTunnel.id db.deviceTunnels) (ht : t ∈ db.deviceTunnels)
    (hid : new.id = t.id) : TunnelService.refreshTunnel (db.writeTunnel t new) t = new := by
  have hself : t.merge new t = new := DeviceTunnel.merge_self hid
  unfold TunnelService.refreshTunnel Store.writeTunnel
  rw [lookup_updateKey hu hu ht (by rw [hself, hid]), if_pos rfl, hself]
  rfl

/-- **A request has one of the effects**, and the database accepts the store it leaves. -/
theorem effect_body (route : Route) (hadm : s.server.db.Admitted e.env.schema) :
    StoreEffect e.env iso s.server.db user route (route.body e iso s user).1
        (route.body e iso s user).2.server.db ∧
      (route.body e iso s user).2.server.db.Admitted e.env.schema := by
  have hread : ∀ route : Route, route.reads = true →
      StoreEffect e.env iso s.server.db user route (route.body e iso s user).1
          (route.body e iso s user).2.server.db ∧
        (route.body e iso s user).2.server.db.Admitted e.env.schema := by
    intro route h
    rw [body_of_reads h]
    exact ⟨StoreEffect.read route _ h, hadm⟩
  cases route with
  | healthz | login | me | listDevices | getDevice | getTunnel | listFrpsDevices =>
      exact hread _ rfl
  | createDevice uuid nonce payload =>
      refine effect_committed (fun db' a hok => ?_) hadm
      obtain ⟨hdb, hadm'⟩ := DeviceService.create_eq_ok hok
      obtain ⟨stored, -, hret⟩ := bind_eq_ok.1 hok
      cases hret
      simp only at hdb hadm'
      rw [hdb] at hadm' ⊢
      exact ⟨StoreEffect.createDevice uuid nonce payload, hadm'⟩
  | updateDevice deviceId nonce payload =>
      refine effect_committed (fun db' a hok => ?_) hadm
      obtain ⟨device, hget, hrest⟩ := bind_eq_ok.1 hok
      obtain ⟨u, hguard, hrest⟩ := bind_eq_ok.1 hrest
      obtain ⟨stored, hflush, hret⟩ := bind_eq_ok.1 hrest
      obtain ⟨new, hassign, hcommit⟩ := bind_eq_ok.1 hflush
      obtain ⟨rfl, hadm'⟩ := commit_eq_ok.1 hcommit
      obtain ⟨hmem, hid⟩ := requireDevice_eq_ok hget
      cases hret
      rw [refreshDevice_writeDevice hadm.2.1.1 hmem (DeviceService.assign_eq_ok hassign).1]
      exact ⟨StoreEffect.updateDevice deviceId nonce payload device new hmem hid hassign
        (DeviceService.ensureUnmanaged_eq_ok hguard), hadm'⟩
  | createWebhook deviceId secret =>
      refine effect_committed (fun db' a hok => ?_) hadm
      obtain ⟨hdev, hdb, hadm', hret⟩ := WebhookService.create_eq_ok hok
      simp only at hdb hadm' hret
      rw [hdb] at hadm' ⊢
      rw [hret]
      exact ⟨StoreEffect.createWebhook deviceId secret hdev, hadm'⟩
  | rotateWebhook deviceId secret =>
      refine effect_committed (fun db' a hok => ?_) hadm
      obtain ⟨hdev, hdb, hadm', hret⟩ := WebhookService.rotate_eq_ok hadm.2.2.2.1.1 hok
      simp only at hdb hadm' hret
      rw [hdb] at hadm' ⊢
      rw [hret]
      exact ⟨StoreEffect.rotateWebhook deviceId secret hdev, hadm'⟩
  | ingestWebhook req => exact effect_ingest req hadm
  | enableTunnel deviceId nonce payload =>
      refine effect_committed (fun db' a hok => ?_) hadm
      obtain ⟨device, hmem, tunnel, port, hid, ht, hoff, hport, hdb, hadm', hrow⟩ :=
        TunnelService.enable_eq_ok hok
      simp only at hdb hadm' hrow
      rw [hdb] at hadm' hrow ⊢
      rw [TunnelService.refreshTunnel_writeEnable hadm' ht] at hrow
      have hout : tunnelOut a = tunnelOut
          (TunnelService.enabledTunnel e.env deviceId nonce payload port device tunnel) := by
        rw [hrow]
        cases tunnel <;> rfl
      rw [hout]
      exact ⟨StoreEffect.enableTunnel deviceId nonce payload device tunnel port hmem hid ht hoff
        hport, hadm'⟩
  | updateTunnel deviceId payload =>
      refine effect_committed (fun db' a hok => ?_) hadm
      obtain ⟨t, ht, hrest⟩ := bind_eq_ok.1 hok
      obtain ⟨stored, hcommit, hret⟩ := bind_eq_ok.1 hrest
      obtain ⟨-, hmem, hid⟩ := TunnelService.requireTunnel_eq_ok ht
      obtain ⟨rfl, hadm'⟩ := commit_eq_ok.1 hcommit
      cases hret
      have hrow : TunnelService.refreshTunnel
          (s.server.db.writeTunnel t (TunnelService.updatedTunnel payload t)) t =
            TunnelService.updatedTunnel payload t :=
        refreshTunnel_written hadm.2.2.1.1 hmem rfl
      rw [hrow]
      exact ⟨StoreEffect.updateTunnel deviceId payload t hmem hid, hadm'⟩
  | disableTunnel deviceId =>
      refine effect_committed (fun db' a hok => ?_) hadm
      obtain ⟨device, hdevice, hrest⟩ := bind_eq_ok.1 hok
      obtain ⟨t, ht, hrest⟩ := bind_eq_ok.1 hrest
      obtain ⟨stored, hcommit, hret⟩ := bind_eq_ok.1 hrest
      obtain ⟨hdev, hid⟩ := requireDevice_eq_ok hdevice
      obtain ⟨-, hmem, htid⟩ := TunnelService.requireTunnel_eq_ok ht
      obtain ⟨rfl, hadm'⟩ := commit_eq_ok.1 hcommit
      cases hret
      have hrow : TunnelService.refreshTunnel
          ((s.server.db.writeDevice device (TunnelService.restoredDevice device t)).writeTunnel t
            (TunnelService.disabledTunnel t)) t = TunnelService.disabledTunnel t :=
        refreshTunnel_written (by exact hadm.2.2.1.1) hmem rfl
      rw [hrow]
      exact ⟨StoreEffect.disableTunnel deviceId device t hdev hid hmem htid, hadm'⟩
  | rotateTunnelToken deviceId nonce =>
      refine effect_committed (fun db' a hok => ?_) hadm
      obtain ⟨t, hmem, hid, hdb, hadm'⟩ := TunnelService.rotateToken_eq_ok hok
      obtain ⟨t', -, hrest⟩ := bind_eq_ok.1 hok
      obtain ⟨stored, -, hret⟩ := bind_eq_ok.1 hrest
      cases hret
      simp only at hdb hadm'
      rw [hdb] at hadm' ⊢
      exact ⟨StoreEffect.rotateTunnelToken deviceId nonce t hmem hid, hadm'⟩
  | getFrpcConfig deviceId now =>
      refine effect_committed (fun db' a hok => ?_) hadm
      obtain ⟨t, hmem, hid, hdb, hadm', token, htoken, hret⟩ :=
        TunnelService.renderFrpcConfig_eq_ok hok
      simp only at hdb hadm' hret
      rw [hdb] at hadm' ⊢
      rw [hret]
      exact ⟨StoreEffect.getFrpcConfig deviceId now t token hmem hid htoken, hadm'⟩
  | query route deviceId d =>
      obtain ⟨logs, hlogs⟩ := dispatch_logs e.env d s.server.db deviceId route.commandType
        route.modelDump (userIdOf user)
      refine ⟨?_, admitted_dispatch hadm⟩
      show StoreEffect e.env iso s.server.db user (.query route deviceId d) _
        (CommandService.dispatch e.env d s.server.db deviceId route.commandType route.modelDump
          (userIdOf user)).2
      rw [hlogs]
      exact StoreEffect.query route deviceId d _ logs

end

/-! ### The database accepts the tables -/

/-- The tables the database can hold. -/
structure ApiState.Admitted (schema : Schema) (s : ApiState) : Prop where
  accounts : s.accounts.Admitted schema
  db : s.server.db.Admitted schema
  rateLimits : AdmittedRateLimits schema s.server.rateLimits

theorem ApiState.admitted_empty (schema : Schema) : ApiState.empty.Admitted schema where
  accounts := by simp [ApiState.empty, Accounts.Admitted, Accounts.Fits, Accounts.Consistent]
  db := Store.admitted_empty schema
  rateLimits := admittedRateLimits_nil schema

section

variable {e : AuthEnv} {iso : FrpsService.IsoFormat} {s : ApiState} {req : ApiRequest}

/-- The rows of the limiter change at a posting only. -/
theorem rateLimits_body {route : Route} {user : Option User}
    (h : ∀ req, route ≠ .ingestWebhook req) :
    (route.body e iso s user).2.server.rateLimits = s.server.rateLimits := by
  cases route with
  | ingestWebhook req => exact absurd rfl (h req)
  | me => cases user <;> rfl
  | _ => rfl

/-- What an operation does to the store: a run of `create_admin` nothing, a request one of the
effects.  A request that is refused has failed. -/
theorem effect_system (op : SystemOp) (hadm : s.server.db.Admitted e.env.schema) :
    (∃ salt username password, op = .createAdmin salt username password ∧
        (op.exec e iso s).2.server = s.server) ∨
      ∃ req user outcome db', op = .request req ∧
        (op.exec e iso s).1 = .response (respond iso req.requestId outcome) ∧
        (op.exec e iso s).2.server.db = db' ∧
        StoreEffect e.env iso s.server.db user req.route outcome db' := by
  cases op with
  | createAdmin salt username password => exact Or.inl ⟨salt, username, password, rfl, rfl⟩
  | request req =>
      have hexec : (SystemOp.request req).exec e iso s =
          (.response (serve e iso s req).1, (serve e iso s req).2) := rfl
      rw [hexec]
      rcases serve_cases e iso s req with ⟨err, -, hserve⟩ | ⟨user, -, hserve⟩
      · rw [hserve]
        exact Or.inr ⟨req, none, .error err, _, rfl, rfl, rfl, StoreEffect.failed req.route err⟩
      · rw [hserve]
        exact Or.inr ⟨req, user, _, _, rfl, rfl, rfl, (effect_body req.route hadm).1⟩

/-- **The database accepts the tables after every request.** -/
theorem admitted_serve (hadm : s.Admitted e.env.schema) :
    (serve e iso s req).2.Admitted e.env.schema := by
  rcases serve_cases e iso s req with ⟨err, -, hserve⟩ | ⟨user, -, hserve⟩
  · rw [hserve]
    exact hadm
  · rw [hserve]
    refine ⟨?_, (effect_body req.route hadm.db).2, ?_⟩
    · rw [accounts_body]
      exact hadm.accounts
    · by_cases hpost : ∃ posting, req.route = .ingestWebhook posting
      · obtain ⟨posting, hroute⟩ := hpost
        rw [hroute]
        exact admitted_ingestWebhook hadm.rateLimits posting
      · rw [rateLimits_body fun posting hroute => hpost ⟨posting, hroute⟩]
        exact hadm.rateLimits

/-- The database accepts the accounts the command leaves. -/
theorem admitted_createAdmin {b : Bcrypt} {schema : Schema} {salt : ℕ} {a : Accounts}
    {username : String} {password : Str} {r : Accounts × User}
    (h : createAdmin b schema salt a username password = .ok r) :
    r.1.Admitted schema := by
  unfold createAdmin at h
  split at h
  · simp at h
  · obtain ⟨hash, -, h⟩ := bind_eq_ok.1 h
    obtain ⟨flushed, -, h⟩ := bind_eq_ok.1 h
    obtain ⟨missing, -, h⟩ := bind_eq_ok.1 h
    obtain ⟨stored, hcommit, h⟩ := bind_eq_ok.1 h
    obtain ⟨rfl, hadm⟩ := Accounts.commit_eq_ok.1 hcommit
    cases h
    exact hadm

/-- The database accepts the tables after every operation. -/
theorem admitted_system (op : SystemOp) (hadm : s.Admitted e.env.schema) :
    (op.exec e iso s).2.Admitted e.env.schema := by
  cases op with
  | request req => exact admitted_serve hadm
  | createAdmin salt username password =>
      refine ⟨?_, hadm.db, hadm.rateLimits⟩
      refine attempt_keeps (P := fun a : Accounts => a.Admitted e.env.schema) hadm.accounts
        fun a' user hok => admitted_createAdmin hok

end

end SmsForwarder
