/-
**Who can change what.**

The permissions of the API are texts that the routes ask for one by one, and what a route writes is
decided in the services.  This module puts the two together: for every part of the tables, the
permissions that let a caller change it, and whether a phone can change it with nothing but the
token of a webhook.  The matrix holds of every call of every run, judged by the accounts as they
were when the run began, because no request changes the accounts.

Main definitions:

* `SmsForwarder.Part`, `SmsForwarder.Part.read` — the parts of the store, by groups of columns;
* `SmsForwarder.Part.writers`, `SmsForwarder.Part.posted` — the matrix;
* `SmsForwarder.Authorized` — a call had the authority to change a part.

Main results:

* `SmsForwarder.read_of_effect` — a request leaves the parts alone that its route does not write;
* `SmsForwarder.changes_authorized` — **whatever a run changes was changed with authority.**
-/

import SmsForwarder.ApiEffects
import SmsForwarder.SessionRuns

set_option relaxedAutoImplicit false
set_option autoImplicit false

namespace SmsForwarder

open Py Tables Runs

/-! ### Parts of the store -/

/-- The columns of a device that its administrator sets. -/
def Device.settings (d : Device) : ℕ × String × Option String × String × Option String :=
  (d.id, d.deviceId, d.deviceName, d.channelType, d.signSecretEncrypted)

/-- The columns of a device that its postings write. -/
def Device.activity (d : Device) : ℕ × String × Bool × Option Timestamp × Option Timestamp × ℕ :=
  (d.id, d.status, d.isActive, d.lastSeenAt, d.lastWebhookAt, d.webhookCount)

/-- The address of a device. -/
def Device.address (d : Device) : ℕ × Option String := (d.id, d.baseUrl)

/-- The columns of a webhook that say which token it has, and whether it is enabled. -/
def DeviceWebhook.tokenColumns (w : DeviceWebhook) : ℕ × String × String × String × Bool :=
  (w.id, w.deviceId, w.webhookTokenHash, w.webhookTokenPrefix, w.enabled)

/-- The columns of a webhook that its postings write. -/
def DeviceWebhook.activity (w : DeviceWebhook) : ℕ × Option Timestamp × ℕ :=
  (w.id, w.lastCalledAt, w.calledCount)

/-- The parts of the store. -/
inductive Part
  | deviceSettings
  | deviceAddresses
  | deviceActivity
  | tunnels
  | webhookCredentials
  | webhookActivity
  | events
  | commandLogs
  | auditLogs
  deriving DecidableEq

/-- What a part of a store holds. -/
def Part.Value : Part → Type
  | deviceSettings => List (ℕ × String × Option String × String × Option String)
  | deviceAddresses => List (ℕ × Option String)
  | deviceActivity => List (ℕ × String × Bool × Option Timestamp × Option Timestamp × ℕ)
  | tunnels => List DeviceTunnel
  | webhookCredentials => List (ℕ × String × String × String × Bool)
  | webhookActivity => List (ℕ × Option Timestamp × ℕ)
  | events => List DeviceEvent
  | commandLogs => List DeviceCommandLog
  | auditLogs => List AuditLog

/-- The part of a store. -/
def Part.read (db : Store) : (part : Part) → part.Value
  | deviceSettings => db.devices.map Device.settings
  | deviceAddresses => db.devices.map Device.address
  | deviceActivity => db.devices.map Device.activity
  | tunnels => db.deviceTunnels
  | webhookCredentials => db.deviceWebhooks.map DeviceWebhook.tokenColumns
  | webhookActivity => db.deviceWebhooks.map DeviceWebhook.activity
  | events => db.deviceEvents
  | commandLogs => db.deviceCommandLogs
  | auditLogs => db.auditLogs

/-! ### The matrix -/

/-- The permissions with which a part can be changed. -/
def Part.writers : Part → List String
  | deviceSettings => ["device:admin"]
  | deviceAddresses => ["device:admin", "device:tunnel:manage"]
  | deviceActivity => ["device:admin"]
  | tunnels => ["device:tunnel:manage"]
  | webhookCredentials => ["device:webhook:manage"]
  | webhookActivity => ["device:webhook:manage"]
  | events => []
  | commandLogs =>
      ["device:view", "device:sms:query", "device:call:query", "device:contact:query",
        "device:battery:query", "device:location:query"]
  | auditLogs => ["device:tunnel:manage"]

/-- The parts that a phone changes, with the token of a webhook. -/
def Part.posted : Part → Bool
  | deviceActivity | webhookActivity | events => true
  | _ => false

/-- The parts a route writes. -/
def Route.writes : Route → List Part
  | createDevice _ _ _ => [.deviceSettings, .deviceAddresses, .deviceActivity]
  | updateDevice _ _ _ => [.deviceSettings, .deviceAddresses]
  | createWebhook _ _ | rotateWebhook _ _ => [.webhookCredentials, .webhookActivity]
  | ingestWebhook _ => [.deviceActivity, .webhookActivity, .events]
  | enableTunnel _ _ _ | disableTunnel _ => [.deviceAddresses, .tunnels]
  | updateTunnel _ _ | rotateTunnelToken _ _ => [.tunnels]
  | getFrpcConfig _ _ => [.tunnels, .auditLogs]
  | query _ _ _ => [.commandLogs]
  | _ => []

/-- A route that writes a part asks for one of its permissions, or is the one phones post to. -/
theorem access_of_writes {route : Route} {part : Part} (h : part ∈ route.writes) :
    (∃ permission ∈ part.writers, route.access = .permission permission) ∨
      part.posted = true ∧ ∃ req, route = .ingestWebhook req := by
  cases route with
  | query route deviceId d =>
      obtain rfl := List.mem_singleton.1 h
      refine Or.inl ⟨route.permission, ?_, rfl⟩
      cases route <;> simp [Part.writers, QueryRoute.permission]
  | ingestWebhook req =>
      refine Or.inr ⟨?_, req, rfl⟩
      simp only [Route.writes, List.mem_cons, List.not_mem_nil, or_false] at h
      rcases h with rfl | rfl | rfl <;> rfl
  | healthz | login | me | listDevices | getDevice | getTunnel | listFrpsDevices =>
      simp [Route.writes] at h
  | _ =>
      left
      simp only [Route.writes, List.mem_cons, List.not_mem_nil, or_false] at h
      rcases h with rfl | rfl | rfl <;> simp [Part.writers, Route.access]

/-! ### What the effects leave alone -/

section

variable {db : Store}

/-- Columns that a session has not changed are not written. -/
theorem map_writeDevice {β : Type} {f : Device → β} {device new : Device}
    (h : ∀ cur, f (device.merge new cur) = f cur) :
    (db.writeDevice device new).devices.map f = db.devices.map f :=
  map_updateKey fun cur _ _ => h cur

theorem settings_merge {device new cur : Device} (h : new.settings = device.settings) :
    (device.merge new cur).settings = cur.settings := by
  simp only [Device.settings, Prod.mk.injEq] at h ⊢
  obtain ⟨-, hdev, hname, hchannel, hsecret⟩ := h
  simp [Device.merge, hdev, hname, hchannel, hsecret]

theorem activity_merge {device new cur : Device} (h : new.activity = device.activity) :
    (device.merge new cur).activity = cur.activity := by
  simp only [Device.activity, Prod.mk.injEq] at h ⊢
  obtain ⟨-, hstatus, hactive, hseen, hwebhook, hcount⟩ := h
  simp [Device.merge, hstatus, hactive, hseen, hwebhook, hcount]

theorem address_merge {device new cur : Device} (h : new.address = device.address) :
    (device.merge new cur).address = cur.address := by
  simp only [Device.address, Prod.mk.injEq] at h ⊢
  simp [Device.merge, h.2]

theorem tokenColumns_merge {webhook new cur : DeviceWebhook}
    (h : new.tokenColumns = webhook.tokenColumns) :
    (webhook.merge new cur).tokenColumns = cur.tokenColumns := by
  simp only [DeviceWebhook.tokenColumns, Prod.mk.injEq] at h ⊢
  obtain ⟨-, hdev, hhash, hprefix, hen⟩ := h
  simp [DeviceWebhook.merge, hdev, hhash, hprefix, hen]

/-- An update of a device does not touch its activity. -/
theorem activity_assign {env : Env} {nonce : ℕ} {payload : DeviceUpdate} {device new : Device}
    (h : DeviceService.assign env nonce payload device = .ok new) :
    new.activity = device.activity := by
  unfold DeviceService.assign at h
  split at h
  · simp at h
  · rw [← Except.ok.inj h]
    rfl

/-- An `enable` changes the address of a device at most. -/
theorem syncedDevice_rest {env : Env} {payload : TunnelEnableIn} {port : ℤ} {device : Device} :
    (TunnelService.syncedDevice env payload port device).settings = device.settings ∧
      (TunnelService.syncedDevice env payload port device).activity = device.activity := by
  unfold TunnelService.syncedDevice
  split <;> exact ⟨rfl, rfl⟩

variable {env : Env} {iso : FrpsService.IsoFormat} {user : Option User} {db' : Store}

/-- The commit of an `enable` writes a device row and a tunnel row. -/
theorem writeEnable_tables (env : Env) (db : Store) (deviceId : String) (nonce : ℕ)
    (payload : TunnelEnableIn) (port : ℤ) (device : Device) (tunnel : Option DeviceTunnel) :
    ∃ tunnels, TunnelService.writeEnable env deviceId nonce payload port device tunnel db =
      { db.writeDevice device (TunnelService.syncedDevice env payload port device) with
        deviceTunnels := tunnels } := by
  unfold TunnelService.writeEnable
  cases tunnel with
  | none => exact ⟨_, rfl⟩
  | some t => exact ⟨_, rfl⟩

/-- **A request leaves the parts alone that its route does not write.** -/
theorem read_of_effect {route : Route} {outcome : Except PyError (ApiData iso)} {part : Part}
    (heff : StoreEffect env iso db user route outcome db') (h : part ∉ route.writes) :
    part.read db' = part.read db := by
  cases heff with
  | read => rfl
  | failed => rfl
  | createDevice => cases part <;> first | rfl | simp [Route.writes] at h
  | updateDevice deviceId nonce payload device new _ _ hassign _ =>
      cases part with
      | deviceSettings | deviceAddresses => simp [Route.writes] at h
      | deviceActivity =>
          exact map_writeDevice fun cur => activity_merge (activity_assign hassign)
      | _ => rfl
  | createWebhook => cases part <;> first | rfl | simp [Route.writes] at h
  | rotateWebhook => cases part <;> first | rfl | simp [Route.writes] at h
  | ingestWebhook req webhook device event result =>
      cases part with
      | deviceActivity | webhookActivity | events => simp [Route.writes] at h
      | deviceSettings =>
          show (calledStore db webhook device event result.duplicate req.now).devices.map _ = _
          rw [calledStore_devices]
          exact map_updateKey fun cur _ _ => settings_merge (by rfl)
      | deviceAddresses =>
          show (calledStore db webhook device event result.duplicate req.now).devices.map _ = _
          rw [calledStore_devices]
          exact map_updateKey fun cur _ _ => address_merge (by rfl)
      | webhookCredentials =>
          show (calledStore db webhook device event result.duplicate req.now).deviceWebhooks.map _ =
            _
          rw [calledStore_webhooks]
          exact map_updateKey fun cur _ _ => tokenColumns_merge (by rfl)
      | tunnels | commandLogs | auditLogs => cases hdup : result.duplicate <;> rfl
  | enableTunnel deviceId nonce payload device tunnel port =>
      obtain ⟨tunnels, hstore⟩ := writeEnable_tables env db deviceId nonce payload port device tunnel
      rw [hstore]
      cases part with
      | deviceAddresses | tunnels => simp [Route.writes] at h
      | deviceSettings => exact map_writeDevice fun cur => settings_merge syncedDevice_rest.1
      | deviceActivity => exact map_writeDevice fun cur => activity_merge syncedDevice_rest.2
      | _ => rfl
  | updateTunnel => cases part <;> first | rfl | simp [Route.writes] at h
  | disableTunnel deviceId device t =>
      cases part with
      | deviceAddresses | tunnels => simp [Route.writes] at h
      | deviceSettings => exact map_writeDevice fun cur => settings_merge (by rfl)
      | deviceActivity => exact map_writeDevice fun cur => activity_merge (by rfl)
      | _ => rfl
  | rotateTunnelToken => cases part <;> first | rfl | simp [Route.writes] at h
  | getFrpcConfig => cases part <;> first | rfl | simp [Route.writes] at h
  | query => cases part <;> first | rfl | simp [Route.writes] at h

end

/-! ### Every run -/

/-- An executed request of a run. -/
abbrev ApiCall (iso : FrpsService.IsoFormat) := Call ApiState ApiRequest (ApiResponse iso)

/-- The call had the authority to change the part: its token named an active user with one of the
permissions of the part, or it was a posting with the token of an enabled webhook. -/
def Authorized (e : AuthEnv) {iso : FrpsService.IsoFormat} (a : Accounts) (part : Part)
    (c : ApiCall iso) : Prop :=
  (∃ permission ∈ part.writers, c.op.route.access = .permission permission ∧
      ∃ user, SignedIn e a c.op user ∧ Holds a user permission) ∨
    (part.posted = true ∧ ∃ req, c.op.route = .ingestWebhook req ∧
      ∃ w ∈ c.before.server.db.deviceWebhooks, w.enabled = true ∧
        w.webhookTokenHash = WebhookService.hashToken e.env req.webhookToken)

section

variable {e : AuthEnv} {iso : FrpsService.IsoFormat} {s : ApiState} {req : ApiRequest}

/-- A request that changed a part had the authority to. -/
theorem authorized_of_changed (hadm : s.Admitted e.env.schema) {part : Part}
    (h : part.read (serve e iso s req).2.server.db ≠ part.read s.server.db) :
    Authorized e s.accounts part (call (serve e iso) s req) := by
  rcases serve_cases e iso s req with ⟨err, -, hserve⟩ | ⟨found, hauth, hserve⟩
  · rw [hserve] at h
    exact absurd rfl h
  · rw [hserve] at h
    have heff : StoreEffect e.env iso s.server.db found req.route (req.route.body e iso s found).1
        (req.route.body e iso s found).2.server.db := (effect_body req.route hadm.db).1
    have hwrites : part ∈ req.route.writes := by
      by_contra hnot
      exact h (read_of_effect heff hnot)
    rcases access_of_writes hwrites with ⟨permission, hperm, haccess⟩ | ⟨hposted, posting, hroute⟩
    · rw [haccess] at hauth
      obtain ⟨user, -, hsigned, hholds⟩ := (authorize_eq_ok hadm.accounts.2.1.1
        (permission_ne_empty haccess)).1 hauth
      exact Or.inl ⟨permission, hperm, haccess, user, hsigned, hholds⟩
    · refine Or.inr ⟨hposted, posting, hroute, ?_⟩
      rw [hroute] at heff h
      -- a posting that fails leaves the store alone, so this one has found its webhook
      generalize (Route.body e iso s found (.ingestWebhook posting)).1 = outcome at heff
      generalize (Route.body e iso s found (.ingestWebhook posting)).2.server.db = db' at heff h
      cases heff with
      | read _ _ hreads => simp [Route.reads] at hreads
      | failed => exact absurd rfl h
      | ingestWebhook _ webhook device event result hmem hen hhash =>
          exact ⟨webhook, hmem, hen, hhash⟩

end

/-- **Whatever a run changes was changed with authority.**  In every run of requests the accounts
stay as they are, and a call that changes a part of the store was made by a user who holds a
permission of that part, or by a phone with the token of an enabled webhook, if phones write the
part; so what differs after a run was changed by such a call. -/
theorem changes_authorized (e : AuthEnv) (iso : FrpsService.IsoFormat) (s : ApiState)
    (hadm : s.Admitted e.env.schema) (reqs : List ApiRequest) :
    (final (serve e iso) s reqs).accounts = s.accounts ∧
      (∀ c ∈ trace (serve e iso) s reqs, ∀ part : Part,
        part.read c.after.server.db ≠ part.read c.before.server.db →
          Authorized e s.accounts part c) ∧
      ∀ part : Part, part.read (final (serve e iso) s reqs).server.db ≠ part.read s.server.db →
        ∃ c ∈ trace (serve e iso) s reqs, Authorized e s.accounts part c := by
  have hkeep : ∀ (s' : ApiState) (req : ApiRequest),
      s'.Admitted e.env.schema ∧ s'.accounts = s.accounts →
        (serve e iso s' req).2.Admitted e.env.schema ∧
          (serve e iso s' req).2.accounts = s.accounts := fun s' req h =>
    ⟨admitted_serve h.1, accounts_serve.trans h.2⟩
  have hcalls : ∀ c ∈ trace (serve e iso) s reqs, ∀ part : Part,
      part.read c.after.server.db ≠ part.read c.before.server.db →
        Authorized e s.accounts part c := by
    intro c hc part hne
    obtain ⟨⟨hadm', haccounts⟩, hcall⟩ := before_of_mem_trace (serve e iso) hkeep ⟨hadm, rfl⟩ hc
    rw [hcall] at hne ⊢
    rw [← haccounts]
    exact authorized_of_changed hadm' hne
  refine ⟨(final_of_keep (serve e iso) hkeep ⟨hadm, rfl⟩ reqs).2, hcalls, fun part hne => ?_⟩
  obtain ⟨c, hc, hchanged⟩ :=
    exists_call_of_ne (serve e iso) (fun s : ApiState => part.read s.server.db) hne
  exact ⟨c, hc, hcalls c hc part hchanged⟩

/-- The administrator creates a device, and so changes the settings of the devices. -/
theorem changes_authorized_session :
    ∃ c ∈ trace (serve (plainAuthEnv ormSchema) FrpsService.noIso)
        (final plainExec ApiState.empty sessionStart) [createRequest],
      Authorized (plainAuthEnv ormSchema) (final plainExec ApiState.empty sessionStart).accounts
        .deviceSettings c := by
  have hinv := accountsInvariant_run (plainAuthEnv ormSchema) FrpsService.noIso sessionStart
  refine (changes_authorized (plainAuthEnv ormSchema) FrpsService.noIso
    (final plainExec ApiState.empty sessionStart) hinv.admitted [createRequest]).2.2
      .deviceSettings ?_
  have hcreated : (final (serve (plainAuthEnv ormSchema) FrpsService.noIso)
      (final plainExec ApiState.empty sessionStart) [createRequest]) =
        final plainExec ApiState.empty createdStart := rfl
  rw [hcreated, final_createdStart]
  exact List.cons_ne_nil _ _

end SmsForwarder
