/-
**The tables of the devices in every state of the server.**

The services were studied one by one, each with the calls of its own.  In the server the calls of
all of them are made through routes, in any order, beside requests that are refused and postings.
The soundness of the tunnels and the agreement of the counters hold there too: each effect of a
request keeps both, and the number of answered postings is read off the responses.

Main definitions:

* `SmsForwarder.namesDevice`, `SmsForwarder.answeredFor` — the device a posting is for, and the
  answered postings for a device;
* `SmsForwarder.ServerSound` — what holds of the tables.

Main results:

* `SmsForwarder.tunnelsSound_effect`, `SmsForwarder.countsSound_effect` — each effect keeps them;
* `SmsForwarder.serverSound_run` — **the tables are sound after every run of the API.**
-/

import SmsForwarder.ApiEffects

set_option relaxedAutoImplicit false
set_option autoImplicit false

namespace SmsForwarder

open Py Tables Runs

/-! ### Tunnels -/

section

variable {env : Env} {iso : FrpsService.IsoFormat} {db db' : Store} {user : Option User}
  {route : Route} {outcome : Except PyError (ApiData iso)}

/-- **Each effect keeps the tunnels sound.** -/
theorem tunnelsSound_effect (hadm : db.Admitted env.schema) (h : TunnelsSound env db)
    (heffect : StoreEffect env iso db user route outcome db') : TunnelsSound env db' := by
  obtain ⟨hdu, -⟩ := hadm.2.1
  obtain ⟨htu, -⟩ := hadm.2.2.1
  cases heffect with
  | read | failed => exact h
  | createDevice uuid nonce payload => exact h.insertDevice rfl
  | updateDevice deviceId nonce payload device new hmem hid hassign hguard =>
      obtain ⟨hnew, hdev, -⟩ := DeviceService.assign_eq_ok hassign
      exact h.writeDevice hdu hmem hnew hdev
  | createWebhook | rotateWebhook => exact h.congr rfl fun _ => Iff.rfl
  | ingestWebhook req webhook device event result =>
      refine h.congr ?_ fun id => ⟨exists_device_of_deviceKeys deviceKeys_calledStore.symm,
        exists_device_of_deviceKeys deviceKeys_calledStore⟩
      cases result.duplicate <;> rfl
  | enableTunnel deviceId nonce payload device tunnel port hmem hid ht _ hport =>
      exact tunnelsSound_writeEnable hadm h hmem hid ht (TunnelService.choosePort_eq_ok hport)
  | updateTunnel deviceId payload t hmem hid =>
      exact h.writeTunnel htu hmem rfl rfl (rowSound_updated (h.rows t hmem))
  | disableTunnel deviceId device t hdev hid hmem htid =>
      have hrestored : TunnelsSound env
          (db.writeDevice device (TunnelService.restoredDevice device t)) :=
        h.writeDevice hdu hdev rfl rfl
      exact hrestored.writeTunnel htu hmem rfl rfl (rowSound_disabled (h.rows t hmem))
  | rotateTunnelToken deviceId nonce t hmem hid =>
      exact h.writeTunnel htu hmem rfl rfl
        { h.rows t hmem with token := env.cipher.decrypt_encrypt _ _ }
  | getFrpcConfig deviceId now t token hmem hid htoken =>
      have hserved : TunnelsSound env
          (db.writeTunnel t { t with lastConfigGeneratedAt := some now }) :=
        h.writeTunnel htu hmem rfl rfl { h.rows t hmem with }
      exact hserved.congr rfl fun _ => Iff.rfl
  | query => exact h.congr rfl fun _ => Iff.rfl

/-! ### Counters -/

/-- The token in the path of a posting is that of a webhook of the device. -/
def namesDevice (env : Env) (db : Store) (token deviceId : String) : Bool :=
  db.deviceWebhooks.any fun w =>
    w.webhookTokenHash = WebhookService.hashToken env token && w.deviceId = deviceId

/-- With the hashes unique, a token names the device of its webhook alone. -/
theorem namesDevice_eq {webhook : DeviceWebhook} {token deviceId : String}
    (hu : UniqueKey DeviceWebhook.webhookTokenHash db.deviceWebhooks)
    (hmem : webhook ∈ db.deviceWebhooks)
    (hhash : webhook.webhookTokenHash = WebhookService.hashToken env token) :
    namesDevice env db token deviceId = decide (webhook.deviceId = deviceId) := by
  rw [Bool.eq_iff_iff, decide_eq_true_eq]
  unfold namesDevice
  rw [List.any_eq_true]
  constructor
  · rintro ⟨w, hw, hboth⟩
    obtain ⟨hsame, hid⟩ := by simpa using hboth
    rw [hu.eq hmem hw (hhash.trans hsame.symm)]
    exact hid
  · intro hid
    exact ⟨webhook, hmem, by simp [hhash, hid]⟩

/-- The posting of a route, if it was answered, is for the device. -/
def Route.answeredFor (env : Env) (db : Store) (deviceId : String) : Route → ApiData iso → Bool
  | .ingestWebhook req, .ingested _ => namesDevice env db req.webhookToken deviceId
  | _, _ => false

/-- The counts of a device after a request. -/
def countsAfter (env : Env) (db : Store) (calls : String → ℕ) (route : Route)
    (response : ApiResponse iso) (deviceId : String) : ℕ :=
  calls deviceId + if route.answeredFor env db deviceId response.data then 1 else 0

/-- An error answers no posting. -/
theorem answeredFor_error {requestId deviceId : String} (err : PyError) :
    route.answeredFor env db deviceId (respond iso requestId (.error err)).data = false := by
  cases err <;> cases route <;> rfl

/-- A response that is not to a posting answers none. -/
theorem answeredFor_of_ne {deviceId : String} {data : ApiData iso}
    (h : ∀ req, route ≠ .ingestWebhook req) : route.answeredFor env db deviceId data = false := by
  cases route with
  | ingestWebhook req => exact absurd rfl (h req)
  | _ => rfl

/-- The columns of a device that the counters look at. -/
def countedColumns (d : Device) : String × ℕ × Bool × String :=
  (d.deviceId, d.webhookCount, d.isActive, d.status)

/-- A write of a device row leaves a column alone if the new row has what the old one had. -/
theorem column_writeDevice {α : Type} (column : Device → α) {device new : Device}
    (hu : UniqueKey Device.id db.devices) (hmem : device ∈ db.devices) (hid : new.id = device.id)
    (hcolumn : column new = column device) :
    (db.writeDevice device new).devices.map column = db.devices.map column := by
  refine map_updateKey fun cur hcur hk => ?_
  obtain rfl := hu.eq hcur hmem hk
  rw [Device.merge_self hid]
  exact hcolumn

/-- Columns of a device that the counters do not look at may change. -/
theorem countsSound_congr {calls : String → ℕ} (h : CountsSound calls db)
    (hdevices : db'.devices.map countedColumns = db.devices.map countedColumns)
    (hwebhooks : db'.deviceWebhooks = db.deviceWebhooks)
    (hevents : db'.deviceEvents = db.deviceEvents) : CountsSound calls db' := by
  -- a device of either store has a device of the other with the same columns
  have hback : ∀ d' ∈ db'.devices, ∃ d ∈ db.devices, d.deviceId = d'.deviceId ∧
      d.webhookCount = d'.webhookCount ∧ d.isActive = d'.isActive ∧ d.status = d'.status := by
    intro d' hd'
    have hcol := List.mem_map_of_mem (f := countedColumns) hd'
    rw [hdevices] at hcol
    obtain ⟨d, hd, heq⟩ := List.mem_map.1 hcol
    simp only [countedColumns, Prod.mk.injEq] at heq
    exact ⟨d, hd, heq⟩
  have howned : ∀ deviceId, (∃ d ∈ db.devices, d.deviceId = deviceId) →
      ∃ d' ∈ db'.devices, d'.deviceId = deviceId := by
    rintro deviceId ⟨d, hd, rfl⟩
    have hcol := List.mem_map_of_mem (f := countedColumns) hd
    rw [← hdevices] at hcol
    obtain ⟨d', hd', heq⟩ := List.mem_map.1 hcol
    exact ⟨d', hd', (Prod.mk.inj heq).1⟩
  have hstored : ∀ deviceId, storedEvents db' deviceId = storedEvents db deviceId := by
    intro deviceId
    unfold storedEvents
    rw [hevents]
  refine ⟨fun w hw => ?_, fun e he => ?_, fun d' hd' => ?_, fun deviceId => ?_, fun d' hd' => ?_⟩
  · rw [hwebhooks] at hw
    exact howned _ (h.webhooksOwned w hw)
  · rw [hevents] at he
    exact howned _ (h.eventsOwned e he)
  · obtain ⟨d, hd, hid, hcount, -⟩ := hback d' hd'
    rw [hstored, ← hid, ← hcount]
    exact h.webhookCount d hd
  · rw [← h.calledCount deviceId]
    unfold totalCalls
    rw [hwebhooks]
  · obtain ⟨d, hd, hid, -, hactive, hstatus⟩ := hback d' hd'
    rw [← hid, ← hactive, ← hstatus]
    exact h.active d hd

/-- What an update assigns is in none of the columns that the counters look at. -/
theorem countedColumns_assign {nonce : ℕ} {payload : DeviceUpdate} {device new : Device}
    (h : DeviceService.assign env nonce payload device = .ok new) :
    countedColumns new = countedColumns device := by
  unfold DeviceService.assign at h
  split at h
  · simp at h
  · obtain rfl := Except.ok.inj h
    rfl

/-- **Each effect keeps the counters sound.** -/
theorem countsSound_effect {calls : String → ℕ} (hadm : db.Admitted env.schema)
    (h : CountsSound calls db) (requestId : String)
    (heffect : StoreEffect env iso db user route outcome db') (hadm' : db'.Admitted env.schema) :
    CountsSound (countsAfter env db calls route (respond iso requestId outcome)) db' := by
  obtain ⟨hdu, -⟩ := hadm.2.1
  have hother : (∀ req, route ≠ .ingestWebhook req) →
      countsAfter env db calls route (respond iso requestId outcome) = calls := by
    intro hne
    funext deviceId
    simp [countsAfter, answeredFor_of_ne hne]
  cases heffect with
  | read _ _ hreads =>
      rw [hother (by rintro req rfl; simp [Route.reads] at hreads)]
      exact h
  | failed _ err =>
      have hnone : countsAfter env db calls route (respond iso requestId (.error err)) = calls := by
        funext deviceId
        simp [countsAfter, answeredFor_error]
      rw [hnone]
      exact h
  | createDevice uuid nonce payload =>
      rw [hother (by simp)]
      have hcreate : DeviceService.create env db uuid nonce payload =
          .ok (db.insertDevice (DeviceService.newDevice env uuid nonce payload), _) :=
        bind_eq_ok.2 ⟨_, commit_eq_ok.2 ⟨rfl, hadm'⟩, rfl⟩
      exact countsSound_register h hcreate
  | updateDevice deviceId nonce payload device new hmem hid hassign hguard =>
      rw [hother (by simp)]
      exact countsSound_congr h (column_writeDevice countedColumns hdu hmem
        (DeviceService.assign_eq_ok hassign).1 (countedColumns_assign hassign)) rfl rfl
  | createWebhook deviceId secret hd =>
      rw [hother (by simp)]
      exact countsSound_insertWebhook h hd
  | rotateWebhook deviceId secret hd =>
      rw [hother (by simp)]
      exact countsSound_insertWebhook (countsSound_rotated h deviceId) hd
  | ingestWebhook req webhook device event result hmem hen hhash hdev hid hevent =>
      have hcalls : countsAfter env db calls (.ingestWebhook req)
          (respond iso requestId (.ok (.ingested result))) =
            fun id => calls id + if webhook.deviceId = id then 1 else 0 := by
        funext id
        show calls id + (if namesDevice env db req.webhookToken id = true then 1 else 0) = _
        rw [namesDevice_eq hadm.2.2.2.1.2 hmem hhash]
        simp
      rw [hcalls]
      exact countsSound_ingest hadm h hmem hdev hid hevent
  | enableTunnel deviceId nonce payload device tunnel port hmem hid ht _ hport =>
      rw [hother (by simp)]
      have hcols : countedColumns (TunnelService.syncedDevice env payload port device) =
          countedColumns device := by
        unfold TunnelService.syncedDevice
        split <;> rfl
      have hwrite := column_writeDevice countedColumns hdu hmem TunnelService.syncedDevice_keys.1 hcols
      cases tunnel with
      | none => exact countsSound_congr h hwrite rfl rfl
      | some t => exact countsSound_congr h hwrite rfl rfl
  | updateTunnel =>
      rw [hother (by simp)]
      exact countsSound_congr h rfl rfl rfl
  | disableTunnel deviceId device t hdev hid hmem htid =>
      rw [hother (by simp)]
      have hwrite : (db.writeDevice device (TunnelService.restoredDevice device t)).devices.map
          countedColumns = db.devices.map countedColumns :=
        column_writeDevice countedColumns hdu hdev rfl rfl
      exact countsSound_congr h hwrite rfl rfl
  | rotateTunnelToken | getFrpcConfig | query =>
      rw [hother (by simp)]
      exact countsSound_congr h rfl rfl rfl

end

/-! ### Runs -/

/-- The call is a posting for the device that was answered. -/
def answeredFor {iso : FrpsService.IsoFormat} (env : Env) (deviceId : String)
    (c : Call ApiState SystemOp (SystemAnswer iso)) : Bool :=
  match c.op, c.answer with
  | .request req, .response response =>
      req.route.answeredFor env c.before.server.db deviceId response.data
  | _, _ => false

/-- What holds of the tables of the devices after a run. -/
structure ServerSound {iso : FrpsService.IsoFormat} (env : Env) (s : ApiState)
    (tr : List (Call ApiState SystemOp (SystemAnswer iso))) : Prop where
  admitted : s.Admitted env.schema
  tunnels : TunnelsSound env s.server.db
  counts : CountsSound (fun deviceId => tr.countP (answeredFor env deviceId)) s.server.db

section

variable {e : AuthEnv} {iso : FrpsService.IsoFormat} {s : ApiState}
  {tr : List (Call ApiState SystemOp (SystemAnswer iso))}

theorem serverSound_empty : ServerSound e.env ApiState.empty
    ([] : List (Call ApiState SystemOp (SystemAnswer iso))) where
  admitted := ApiState.admitted_empty _
  tunnels := tunnelsSound_empty _
  counts := countsSound_empty

/-- Every operation keeps the tables sound. -/
theorem serverSound_step (op : SystemOp) (h : ServerSound e.env s tr) :
    ServerSound e.env (op.exec e iso s).2 (tr ++ [call (SystemOp.exec e iso) s op]) := by
  have hadm' : (op.exec e iso s).2.Admitted e.env.schema := admitted_system op h.admitted
  rcases @effect_system e iso s op h.admitted.db with
    ⟨salt, username, password, rfl, hserver⟩ | ⟨req, user, outcome, db', rfl, hanswer, hdb, heffect⟩
  · have hcalls : (fun deviceId => (tr ++ [call (SystemOp.exec e iso) s
        (.createAdmin salt username password)]).countP (answeredFor e.env deviceId)) =
          fun deviceId => tr.countP (answeredFor e.env deviceId) := by
      funext deviceId
      rw [List.countP_append, List.countP_singleton]
      rfl
    refine ⟨hadm', ?_, ?_⟩
    · rw [hserver]
      exact h.tunnels
    · rw [hcalls, hserver]
      exact h.counts
  · have hcalls : (fun deviceId => (tr ++ [call (SystemOp.exec e iso) s (.request req)]).countP
        (answeredFor e.env deviceId)) =
          countsAfter e.env s.server.db (fun deviceId => tr.countP (answeredFor e.env deviceId))
            req.route (respond iso req.requestId outcome) := by
      funext deviceId
      rw [List.countP_append, List.countP_singleton]
      show _ + (if answeredFor e.env deviceId ⟨s, .request req,
        (SystemOp.exec e iso s (.request req)).1, _⟩ = true then 1 else 0) = _
      rw [hanswer]
      rfl
    have hadmdb : db'.Admitted e.env.schema := by
      rw [← hdb]
      exact hadm'.db
    refine ⟨hadm', ?_, ?_⟩
    · rw [hdb]
      exact tunnelsSound_effect h.admitted.db h.tunnels heffect
    · rw [hcalls, hdb]
      exact countsSound_effect h.admitted.db h.counts req.requestId heffect hadmdb

end

/-- **The tables of the devices are sound after every run of the API**: with the calls of all
services mixed, refused and failing ones among them, the tunnels are sound, and the counters agree
with the stored events and with the postings that were answered. -/
theorem serverSound_run (e : AuthEnv) (iso : FrpsService.IsoFormat) (ops : List SystemOp) :
    ServerSound e.env (final (SystemOp.exec e iso) ApiState.empty ops)
      (trace (SystemOp.exec e iso) ApiState.empty ops) :=
  run_induction (SystemOp.exec e iso) (P := ServerSound e.env) serverSound_empty
    (fun _ _ op h => serverSound_step op h) ops

end SmsForwarder
