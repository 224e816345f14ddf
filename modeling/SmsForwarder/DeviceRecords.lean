/-
**What the API says about a device.**

The services keep the rows of a device in two tables, and several routes write to each of them.
From outside, a device is a record that the answers of earlier requests determine: each answered
request says what it has changed, and a posting is for the device that its token was given for.
This module takes the record from the requests of a run and their answers, with no look at the
tables, and shows that every later answer agrees with it: the reads show the record, and the calls
that the record rules out are refused.

Main definitions:

* `SmsForwarder.DeviceRecord`, `SmsForwarder.Happening`, `SmsForwarder.DeviceRecord.after` — a
  record, what an answered request says about it, and the record after that;
* `SmsForwarder.issuedTo` — the token was given for the device;
* `SmsForwarder.record`, `SmsForwarder.created` — the record of a device and the list of the
  devices, from the history of a run;
* `SmsForwarder.shown` — the record that the tables hold;
* `SmsForwarder.Route.expected` — the answer that the records determine.

Main results:

* `SmsForwarder.tokenKeys_effect` — the webhooks are those of the tokens that were given;
* `SmsForwarder.shown_effect` — each effect does to the tables what its answer says about the
  record;
* `SmsForwarder.answers_follow_history` — **every answer that the records determine is given.**
-/

import SmsForwarder.ApiInvariants
import SmsForwarder.EventProvenance

set_option relaxedAutoImplicit false
set_option autoImplicit false

namespace SmsForwarder

open Py Tables Runs

/-! ### Records -/

/-- What the API shows of a device, and the `base_url` that `disable` puts back. -/
@[ext]
structure DeviceRecord where
  device : DeviceOut
  tunnel : Option TunnelOut
  previousBaseUrl : Option String
  deriving DecidableEq

/-- What an answered request says about the record of its device. -/
inductive Happening
  /-- the device was created or updated -/
  | saved (device : DeviceOut)
  /-- an event was posted -/
  | posted (duplicate : Bool) (now : Timestamp)
  | enabled (tunnel : TunnelOut) (synced : Bool)
  | changed (tunnel : TunnelOut)
  | disabled (tunnel : TunnelOut)
  /-- the configuration of the tunnel was rendered -/
  | served (now : Timestamp)

/-- The record after that. -/
def DeviceRecord.after (record : Option DeviceRecord) : Happening → Option DeviceRecord
  | .saved device => some
      { device
        tunnel := record.bind DeviceRecord.tunnel
        previousBaseUrl := record.bind DeviceRecord.previousBaseUrl }
  | .posted duplicate now => record.map fun r =>
      { r with
        device := { r.device with
          lastSeenAt := some now
          lastWebhookAt := some now
          isActive := true
          status := "active"
          webhookCount := r.device.webhookCount + if duplicate then 0 else 1 } }
  | .enabled tunnel synced => record.map fun r =>
      { device :=
          if synced then { r.device with baseUrl := some tunnel.internalBaseUrl } else r.device
        tunnel := some tunnel
        previousBaseUrl := r.device.baseUrl }
  | .changed tunnel => record.map fun r => { r with tunnel := some tunnel }
  | .disabled tunnel => record.map fun r =>
      { r with
        device := { r.device with baseUrl := r.previousBaseUrl }
        tunnel := some tunnel }
  | .served now => record.map fun r =>
      { r with
        tunnel := r.tunnel.map fun tunnel => { tunnel with lastConfigGeneratedAt := some now } }

section

variable {iso : FrpsService.IsoFormat}

/-- A token with the hash of this one was given for the device. -/
def issuedTo (env : Env) (tr : List (SystemCall iso)) (deviceId token : String) : Bool :=
  (tr.filterMap issuedIn).any fun issued =>
    issued.1 = deviceId &&
      WebhookService.hashToken env issued.2 = WebhookService.hashToken env token

/-- What the answer of a route says about a device, if one knows whose the posted tokens are. -/
def Route.happening (owns : (token : String) → Bool) (deviceId : String) :
    Route → ApiData iso → Option Happening
  | .createDevice _ _ _, .device device =>
      if device.deviceId = deviceId then some (.saved device) else none
  | .updateDevice id _ _, .device device => if id = deviceId then some (.saved device) else none
  | .ingestWebhook req, .ingested result =>
      if owns req.webhookToken then some (.posted result.duplicate req.now) else none
  | .enableTunnel id _ payload, .tunnel tunnel =>
      if id = deviceId then some (.enabled tunnel payload.syncDeviceBaseUrl) else none
  | .updateTunnel id _, .tunnel tunnel => if id = deviceId then some (.changed tunnel) else none
  | .disableTunnel id, .tunnel tunnel => if id = deviceId then some (.disabled tunnel) else none
  | .getFrpcConfig id now, .frpcConfig _ _ => if id = deviceId then some (.served now) else none
  | _, _ => none

/-- The device that a route has created. -/
def Route.creates : Route → ApiData iso → Option String
  | .createDevice _ _ _, .device device => some device.deviceId
  | _, _ => none

/-- What a request and its answer say about a device, after those before it. -/
def happening (env : Env) (earlier : List (SystemCall iso)) (deviceId : String)
    (op : SystemOp) (answer : SystemAnswer iso) : Option Happening :=
  match op, answer with
  | .request req, .response response =>
      req.route.happening (issuedTo env earlier deviceId) deviceId response.data
  | _, _ => none

/-- The record of a device, from the requests of a run and their answers. -/
def record (env : Env) (tr : List (SystemCall iso)) (deviceId : String) : Option DeviceRecord :=
  ((withHistory [] tr).filterMap fun q =>
    happening env q.1 deviceId q.2.op q.2.answer).foldl DeviceRecord.after none

/-- The devices of a run, in the order in which they were created. -/
def created (tr : List (SystemCall iso)) : List String :=
  tr.filterMap fun c =>
    match c.op, c.answer with
    | .request req, .response response => req.route.creates response.data
    | _, _ => none

end

/-! ### The tables -/

/-- The record that the tables hold. -/
def shown (db : Store) (deviceId : String) : Option DeviceRecord :=
  (lookup Device.deviceId deviceId db.devices).map fun device =>
    let tunnel := lookup DeviceTunnel.deviceId deviceId db.deviceTunnels
    { device := deviceOut device
      tunnel := tunnel.map tunnelOut
      previousBaseUrl := tunnel.bind DeviceTunnel.previousBaseUrl }

section

variable {db db' : Store} {device new : Device} {t newT : DeviceTunnel} {deviceId : String}

theorem shown_congr (hdevices : db'.devices = db.devices)
    (htunnels : db'.deviceTunnels = db.deviceTunnels) : shown db' deviceId = shown db deviceId := by
  unfold shown
  rw [hdevices, htunnels]

theorem shown_of_mem (hu : UniqueDevices db.devices) (hmem : device ∈ db.devices)
    (hid : device.deviceId = deviceId) :
    shown db deviceId = some
      { device := deviceOut device
        tunnel := (lookup DeviceTunnel.deviceId deviceId db.deviceTunnels).map tunnelOut
        previousBaseUrl := (lookup DeviceTunnel.deviceId deviceId db.deviceTunnels).bind
          DeviceTunnel.previousBaseUrl } := by
  unfold shown
  rw [(lookup_eq_some_iff hu.2).2 ⟨hmem, hid⟩]
  rfl

theorem shown_eq_none : shown db deviceId = none ↔ ∀ d ∈ db.devices, d.deviceId ≠ deviceId := by
  unfold shown
  rw [Option.map_eq_none_iff, lookup_eq_none_iff]

/-- A device with a tunnel has a record that shows it. -/
theorem shown_of_tunnel {env : Env} (hu : UniqueDevices db.devices) (h : TunnelsSound env db)
    (hmem : t ∈ db.deviceTunnels) (hid : t.deviceId = deviceId) :
    ∃ r, shown db deviceId = some r ∧ r.tunnel = some (tunnelOut t) ∧
      r.previousBaseUrl = t.previousBaseUrl := by
  obtain ⟨d, hd, hdid⟩ := h.owned t hmem
  refine ⟨_, shown_of_mem hu hd (hdid.trans hid), ?_⟩
  rw [(lookup_eq_some_iff h.oneRow).2 ⟨hmem, hid⟩]
  exact ⟨rfl, rfl⟩

/-- A write of a device row shows in the record of the device. -/
theorem shown_writeDevice (new : Device) (hu : UniqueDevices db.devices)
    (hmem : device ∈ db.devices) (hid : new.id = device.id) (hdev : new.deviceId = device.deviceId) :
    shown (db.writeDevice device new) deviceId =
      if device.deviceId = deviceId then
        (shown db deviceId).map fun r => { r with device := deviceOut new }
      else shown db deviceId := by
  have hself : device.merge new device = new := Device.merge_self hid
  have hlookup : lookup Device.deviceId deviceId (db.writeDevice device new).devices =
      if device.deviceId = deviceId then some new else
        lookup Device.deviceId deviceId db.devices := by
    unfold Store.writeDevice
    rw [lookup_updateKey hu.1 hu.2 hmem (by rw [hself, hdev]), hself]
  have htunnels : (db.writeDevice device new).deviceTunnels = db.deviceTunnels := rfl
  by_cases h : device.deviceId = deviceId
  · rw [if_pos h, shown_of_mem hu hmem h]
    unfold shown
    rw [hlookup, if_pos h, htunnels]
    rfl
  · rw [if_neg h] at hlookup ⊢
    unfold shown
    rw [hlookup, htunnels]

/-- A write of a tunnel row shows in the record of the device. -/
theorem shown_writeTunnel (newT : DeviceTunnel) (hu : UniqueKey DeviceTunnel.id db.deviceTunnels)
    (hone : UniqueKey DeviceTunnel.deviceId db.deviceTunnels) (hmem : t ∈ db.deviceTunnels)
    (hid : newT.id = t.id) (hdev : newT.deviceId = t.deviceId) :
    shown (db.writeTunnel t newT) deviceId =
      if t.deviceId = deviceId then
        (shown db deviceId).map fun r =>
          { r with tunnel := some (tunnelOut newT), previousBaseUrl := newT.previousBaseUrl }
      else shown db deviceId := by
  have hself : t.merge newT t = newT := DeviceTunnel.merge_self hid
  have hlookup : lookup DeviceTunnel.deviceId deviceId (db.writeTunnel t newT).deviceTunnels =
      if t.deviceId = deviceId then some newT else
        lookup DeviceTunnel.deviceId deviceId db.deviceTunnels := by
    unfold Store.writeTunnel
    rw [lookup_updateKey hu hone hmem (by rw [hself, hdev]), hself]
  have hdevices : (db.writeTunnel t newT).devices = db.devices := rfl
  unfold shown
  rw [hlookup, hdevices]
  by_cases h : t.deviceId = deviceId
  · rw [if_pos h, if_pos h, Option.map_map]
    rfl
  · rw [if_neg h, if_neg h]

/-- A new tunnel row shows in the record of the device. -/
theorem shown_insertTunnel
    (hone : UniqueKey DeviceTunnel.deviceId (db.insertTunnel newT).deviceTunnels) :
    shown (db.insertTunnel newT) deviceId =
      if newT.deviceId = deviceId then
        (shown db deviceId).map fun r =>
          { r with tunnel := some (tunnelOut newT), previousBaseUrl := newT.previousBaseUrl }
      else shown db deviceId := by
  have hlookup : lookup DeviceTunnel.deviceId deviceId (db.insertTunnel newT).deviceTunnels =
      if newT.deviceId = deviceId then
        some { newT with id := nextKey DeviceTunnel.id db.deviceTunnels } else
        lookup DeviceTunnel.deviceId deviceId db.deviceTunnels := by
    unfold Store.insertTunnel at hone ⊢
    rw [lookup_concat hone]
  have hdevices : (db.insertTunnel newT).devices = db.devices := rfl
  unfold shown
  rw [hlookup, hdevices]
  by_cases h : newT.deviceId = deviceId
  · rw [if_pos h, if_pos h, Option.map_map]
    rfl
  · rw [if_neg h, if_neg h]

/-- A new device has a record without a tunnel. -/
theorem shown_insertDevice (hu : UniqueKey Device.deviceId (db.insertDevice new).devices)
    (hnone : ∀ t ∈ db.deviceTunnels, t.deviceId ≠ new.deviceId) :
    shown (db.insertDevice new) deviceId =
      if new.deviceId = deviceId then
        some { device := deviceOut new, tunnel := none, previousBaseUrl := none }
      else shown db deviceId := by
  have hlookup : lookup Device.deviceId deviceId (db.insertDevice new).devices =
      if new.deviceId = deviceId then some { new with id := nextKey Device.id db.devices } else
        lookup Device.deviceId deviceId db.devices := by
    unfold Store.insertDevice at hu ⊢
    rw [lookup_concat hu]
  have htunnels : (db.insertDevice new).deviceTunnels = db.deviceTunnels := rfl
  unfold shown
  rw [hlookup, htunnels]
  by_cases h : new.deviceId = deviceId
  · have hlook : lookup DeviceTunnel.deviceId deviceId db.deviceTunnels = none :=
      lookup_eq_none_iff.2 fun t ht => h ▸ hnone t ht
    rw [if_pos h, if_pos h, hlook]
    rfl
  · rw [if_neg h, if_neg h]

end

/-! ### Each effect does what its answer says -/

/-- The device and the hash of every token that is in the table. -/
def tokenKeys (db : Store) : List (String × String) :=
  db.deviceWebhooks.map fun w => (w.deviceId, w.webhookTokenHash)

/-- The device of a token that was given, and its hash. -/
def issuedKey (env : Env) (issued : String × String) : String × String :=
  (issued.1, WebhookService.hashToken env issued.2)

section

variable {env : Env} {iso : FrpsService.IsoFormat} {db db' : Store} {user : Option User}
  {route : Route} {outcome : Except PyError (ApiData iso)} {deviceId : String}
  {owns : String → Bool}

/-- An error says nothing about a device. -/
theorem happening_error {requestId : String} (err : PyError) :
    route.happening owns deviceId (respond iso requestId (.error err)).data = none := by
  cases err <;> cases route <;> rfl

/-- **The webhooks are those of the tokens that were given**: an effect adds the one that its answer
has given, and a rotation keeps the rows that it disables. -/
theorem tokenKeys_effect (hadm : db.Admitted env.schema) (requestId : String)
    (heffect : StoreEffect env iso db user route outcome db') :
    tokenKeys db' = tokenKeys db ++
      (route.issued (respond iso requestId outcome).data).toList.map (issuedKey env) := by
  have hkeys : ∀ db : Store, tokenKeys db =
      (credentials db).map fun x => (x.deviceId, x.tokenHash) := by
    intro db
    unfold tokenKeys credentials
    rw [List.map_map]
    rfl
  rw [hkeys, hkeys, credentials_effect hadm requestId heffect]
  unfold credentialsAfter
  rw [List.map_append, List.map_map, List.map_map]
  rfl

/-- A posted token that is in the table was given for the device of its row, and for no other. -/
theorem issuedTo_of_mem {tr : List (SystemCall iso)} {webhook : DeviceWebhook} {token : String}
    (hu : UniqueKey DeviceWebhook.webhookTokenHash db.deviceWebhooks)
    (hkeys : tokenKeys db = (tr.filterMap issuedIn).map (issuedKey env))
    (hmem : webhook ∈ db.deviceWebhooks)
    (hhash : webhook.webhookTokenHash = WebhookService.hashToken env token) :
    issuedTo env tr deviceId token = decide (webhook.deviceId = deviceId) := by
  have hiff : issuedTo env tr deviceId token = true ↔
      (deviceId, WebhookService.hashToken env token) ∈ tokenKeys db := by
    rw [hkeys]
    unfold issuedTo
    generalize tr.filterMap issuedIn = given
    simp [issuedKey]
  have hrow : (deviceId, WebhookService.hashToken env token) ∈ tokenKeys db ↔
      webhook.deviceId = deviceId := by
    unfold tokenKeys
    rw [List.mem_map]
    constructor
    · rintro ⟨w, hw, heq⟩
      obtain ⟨hid, hsame⟩ := Prod.mk.inj heq
      obtain rfl := hu.eq hw hmem (hsame.trans hhash.symm)
      exact hid
    · rintro rfl
      exact ⟨webhook, hmem, by rw [hhash]⟩
  rw [Bool.eq_iff_iff, hiff, hrow, decide_eq_true_eq]

/-- What an `enable` does to the record of its device. -/
theorem shown_writeEnable {id : String} {nonce : ℕ} {payload : TunnelEnableIn} {port : ℤ}
    {device : Device} {tunnel : Option DeviceTunnel} (hadm : db.Admitted env.schema)
    (h : TunnelsSound env db) (hmem : device ∈ db.devices) (hid : device.deviceId = id)
    (ht : TunnelService.getTunnel db id = .ok tunnel) :
    shown (TunnelService.writeEnable env id nonce payload port device tunnel db) deviceId =
      if id = deviceId then
        DeviceRecord.after (shown db deviceId)
          (.enabled
            (tunnelOut (TunnelService.enabledTunnel env id nonce payload port device tunnel))
            payload.syncDeviceBaseUrl)
      else shown db deviceId := by
  obtain ⟨-, hdu, ⟨htu, -⟩, -⟩ := hadm
  have hkeys := @TunnelService.syncedDevice_keys env payload port device
  have hdb : TunnelsSound env
      (db.writeDevice device (TunnelService.syncedDevice env payload port device)) :=
    h.writeDevice hdu.1 hmem hkeys.1 hkeys.2
  have hdevice : shown (db.writeDevice device (TunnelService.syncedDevice env payload port device))
      deviceId = if device.deviceId = deviceId then
        (shown db deviceId).map fun r =>
          { r with device := deviceOut (TunnelService.syncedDevice env payload port device) }
      else shown db deviceId := shown_writeDevice _ hdu hmem hkeys.1 hkeys.2
  have hnew : shown (TunnelService.writeEnable env id nonce payload port device tunnel db) deviceId =
      if id = deviceId then
        (shown (db.writeDevice device (TunnelService.syncedDevice env payload port device))
          deviceId).map fun r =>
            { r with
              tunnel := some
                (tunnelOut (TunnelService.enabledTunnel env id nonce payload port device tunnel))
              previousBaseUrl := device.baseUrl }
      else shown (db.writeDevice device (TunnelService.syncedDevice env payload port device))
        deviceId := by
    cases tunnel with
    | none =>
        have hnone := TunnelService.getTunnel_eq_none ht
        exact shown_insertTunnel (uniqueKey_concat.2 ⟨hdb.oneRow, hnone⟩)
    | some t =>
        obtain ⟨htmem, rfl⟩ := TunnelService.getTunnel_eq_some ht
        exact shown_writeTunnel _ htu hdb.oneRow htmem rfl rfl
  rw [hnew, hdevice]
  by_cases heq : id = deviceId
  · rw [if_pos heq, if_pos heq, if_pos (hid.trans heq), shown_of_mem hdu hmem (hid.trans heq)]
    unfold TunnelService.syncedDevice DeviceRecord.after
    cases payload.syncDeviceBaseUrl <;> cases tunnel <;> rfl
  · rw [if_neg heq, if_neg heq, if_neg fun hc => heq (hid.symm.trans hc)]

/-- **Each effect does to the tables what its answer says** about the record of a device. -/
theorem shown_effect (hadm : db.Admitted env.schema) (hadm' : db'.Admitted env.schema)
    (h : TunnelsSound env db) (requestId : String)
    (howns : ∀ w ∈ db.deviceWebhooks, ∀ token,
      w.webhookTokenHash = WebhookService.hashToken env token →
        owns token = decide (w.deviceId = deviceId))
    (heffect : StoreEffect env iso db user route outcome db') :
    shown db' deviceId =
      (route.happening owns deviceId (respond iso requestId outcome).data).toList.foldl
        DeviceRecord.after (shown db deviceId) := by
  obtain ⟨-, hdu, ⟨htu, -⟩, -⟩ := id hadm
  cases heffect with
  | read _ outcome hreads =>
      have hnone : ∀ data : ApiData iso, route.happening owns deviceId data = none := by
        intro data
        cases route with
        | healthz | login | me | listDevices | getDevice | getTunnel | listFrpsDevices => rfl
        | _ => simp [Route.reads] at hreads
      rw [hnone]
      rfl
  | failed _ err =>
      rw [happening_error]
      rfl
  | createDevice uuid nonce payload =>
      have hnew : ∀ d ∈ db.devices, d.deviceId ≠ generateDeviceId uuid := by
        have hu : UniqueKey Device.deviceId
            (db.insertDevice (DeviceService.newDevice env uuid nonce payload)).devices :=
          hadm'.2.1.2
        exact (uniqueKey_concat.1 hu).2
      have hnone : ∀ t ∈ db.deviceTunnels, t.deviceId ≠ generateDeviceId uuid := by
        intro t ht heq
        obtain ⟨d, hd, hid⟩ := h.owned t ht
        exact hnew d hd (hid.trans heq)
      rw [shown_insertDevice hadm'.2.1.2 hnone]
      show (if generateDeviceId uuid = deviceId then _ else _) =
        (if generateDeviceId uuid = deviceId then _ else none : Option Happening).toList.foldl _ _
      by_cases heq : generateDeviceId uuid = deviceId
      · rw [if_pos heq, if_pos heq, shown_eq_none.2 fun d hd => heq ▸ hnew d hd]
        rfl
      · rw [if_neg heq, if_neg heq]
        rfl
  | updateDevice id nonce payload device new hmem hid hassign hguard =>
      obtain ⟨hnew, hdev, -⟩ := DeviceService.assign_eq_ok hassign
      rw [shown_writeDevice new hdu hmem hnew hdev]
      show _ = (if id = deviceId then _ else none : Option Happening).toList.foldl _ _
      rw [hid]
      by_cases heq : id = deviceId
      · rw [if_pos heq, if_pos heq, shown_of_mem hdu hmem (hid.trans heq)]
        rfl
      · rw [if_neg heq, if_neg heq]
        rfl
  | createWebhook | rotateWebhook | query => exact shown_congr rfl rfl
  | ingestWebhook req webhook device event result hmem hen hhash hdev hid hevent =>
      have hwrite : shown (calledStore db webhook device event result.duplicate req.now) deviceId =
          shown (db.writeDevice device
            (WebhookService.calledDevice result.duplicate req.now device)) deviceId := by
        unfold calledStore
        cases result.duplicate <;> exact shown_congr rfl rfl
      rw [hwrite, shown_writeDevice (WebhookService.calledDevice result.duplicate req.now device) hdu
        hdev rfl rfl]
      show _ = (if owns req.webhookToken = true then _ else none : Option Happening).toList.foldl _ _
      rw [howns webhook hmem req.webhookToken hhash, ← hid]
      by_cases heq : device.deviceId = deviceId
      · rw [if_pos heq, if_pos (decide_eq_true heq), shown_of_mem hdu hdev heq]
        unfold WebhookService.calledDevice
        cases result.duplicate <;> rfl
      · rw [if_neg heq, if_neg (by simpa using heq)]
        rfl
  | enableTunnel id nonce payload device tunnel port hmem hid ht _ hport =>
      rw [shown_writeEnable hadm h hmem hid ht]
      show _ = (if id = deviceId then _ else none : Option Happening).toList.foldl _ _
      by_cases heq : id = deviceId
      · rw [if_pos heq, if_pos heq]
        rfl
      · rw [if_neg heq, if_neg heq]
        rfl
  | updateTunnel id payload t hmem hid =>
      rw [shown_writeTunnel (TunnelService.updatedTunnel payload t) htu h.oneRow hmem rfl rfl, hid]
      show _ = (if id = deviceId then _ else none : Option Happening).toList.foldl _ _
      by_cases heq : id = deviceId
      · obtain ⟨r, hr, htunnel, hprev⟩ := shown_of_tunnel hdu h hmem (hid.trans heq)
        rw [if_pos heq, if_pos heq, hr, Option.map_some]
        exact congrArg some (DeviceRecord.ext rfl rfl hprev.symm)
      · rw [if_neg heq, if_neg heq]
        rfl
  | disableTunnel id device t hdev hid hmem htid =>
      have hdb : TunnelsSound env
          (db.writeDevice device (TunnelService.restoredDevice device t)) :=
        h.writeDevice hdu.1 hdev rfl rfl
      have hdevice : shown (db.writeDevice device (TunnelService.restoredDevice device t)) deviceId =
          if device.deviceId = deviceId then
            (shown db deviceId).map fun r =>
              { r with device := deviceOut (TunnelService.restoredDevice device t) }
          else shown db deviceId := shown_writeDevice _ hdu hdev rfl rfl
      have hwrite : shown ((db.writeDevice device (TunnelService.restoredDevice device t)).writeTunnel
          t (TunnelService.disabledTunnel t)) deviceId = _ :=
        shown_writeTunnel _ htu hdb.oneRow hmem rfl rfl
      rw [hwrite, hdevice, hid, htid]
      show _ = (if id = deviceId then _ else none : Option Happening).toList.foldl _ _
      by_cases heq : id = deviceId
      · have hlook : lookup DeviceTunnel.deviceId deviceId db.deviceTunnels = some t :=
          (lookup_eq_some_iff h.oneRow).2 ⟨hmem, htid.trans heq⟩
        rw [if_pos heq, if_pos heq, if_pos heq, shown_of_mem hdu hdev (hid.trans heq), hlook]
        rfl
      · rw [if_neg heq, if_neg heq, if_neg heq]
        rfl
  | rotateTunnelToken id nonce t hmem hid =>
      have hwrite : shown (db.writeTunnel t
          { t with authTokenEncrypted := env.cipher.encrypt nonce env.settings.frpsAuthToken })
            deviceId = _ := shown_writeTunnel _ htu h.oneRow hmem rfl rfl
      rw [hwrite]
      show _ = shown db deviceId
      by_cases heq : t.deviceId = deviceId
      · obtain ⟨r, hr, htunnel, hprev⟩ := shown_of_tunnel hdu h hmem heq
        rw [if_pos heq, hr, Option.map_some]
        exact congrArg some (DeviceRecord.ext rfl htunnel.symm hprev.symm)
      · rw [if_neg heq]
  | getFrpcConfig id now t token hmem hid htoken =>
      have hwrite : shown (db.writeTunnel t { t with lastConfigGeneratedAt := some now }) deviceId =
          _ := shown_writeTunnel _ htu h.oneRow hmem rfl rfl
      show shown (db.writeTunnel t { t with lastConfigGeneratedAt := some now }) deviceId =
        (if id = deviceId then _ else none : Option Happening).toList.foldl _ _
      rw [hwrite, hid]
      by_cases heq : id = deviceId
      · obtain ⟨r, hr, htunnel, hprev⟩ := shown_of_tunnel hdu h hmem (hid.trans heq)
        rw [if_pos heq, if_pos heq, hr, Option.map_some]
        refine congrArg some (DeviceRecord.ext rfl ?_ hprev.symm)
        show _ = r.tunnel.map _
        rw [htunnel]
        rfl
      · rw [if_neg heq, if_neg heq]
        rfl

/-- The rows of the devices are in the order in which they were created. -/
def Ordered (db : Store) (ids : List String) : Prop :=
  (db.devices.map Device.id).Pairwise (· < ·) ∧ db.devices.map Device.deviceId = ids

theorem ordered_of_deviceKeys {ids : List String} (h : Ordered db ids)
    (hkeys : deviceKeys db' = deviceKeys db) : Ordered db' ids := by
  have hids : db'.devices.map Device.id = db.devices.map Device.id := by
    have hmap := congrArg (List.map Prod.fst) hkeys
    unfold deviceKeys at hmap
    rwa [List.map_map, List.map_map] at hmap
  have hnames : db'.devices.map Device.deviceId = db.devices.map Device.deviceId := by
    have hmap := congrArg (List.map Prod.snd) hkeys
    unfold deviceKeys at hmap
    rwa [List.map_map, List.map_map] at hmap
  unfold Ordered
  rw [hids, hnames]
  exact h

/-- **Each effect adds the device that its answer has created**, and no other. -/
theorem ordered_effect {ids : List String} (hadm : db.Admitted env.schema) (h : Ordered db ids)
    (requestId : String) (heffect : StoreEffect env iso db user route outcome db') :
    Ordered db' (ids ++ (route.creates (respond iso requestId outcome).data).toList) := by
  obtain ⟨hdu, -⟩ := hadm.2.1
  have hkeep : ∀ {db' : Store}, deviceKeys db' = deviceKeys db → Ordered db' (ids ++ []) :=
    fun hkeys => by
      rw [List.append_nil]
      exact ordered_of_deviceKeys h hkeys
  cases heffect with
  | read _ outcome hreads =>
      have hnone : ∀ data : ApiData iso, route.creates data = none := by
        intro data
        cases route with
        | createDevice => simp [Route.reads] at hreads
        | _ => rfl
      rw [hnone]
      exact hkeep rfl
  | failed _ err =>
      have hnone : route.creates (respond iso requestId (.error err)).data = none := by
        cases err <;> cases route <;> rfl
      rw [hnone]
      exact hkeep rfl
  | createDevice uuid nonce payload =>
      show Ordered (db.insertDevice (DeviceService.newDevice env uuid nonce payload))
        (ids ++ [generateDeviceId uuid])
      unfold Store.insertDevice
      constructor
      · rw [List.map_append, List.pairwise_append]
        refine ⟨h.1, List.pairwise_singleton _ _, fun a ha b hb => ?_⟩
        obtain ⟨d, hd, rfl⟩ := List.mem_map.1 ha
        obtain rfl := List.mem_singleton.1 hb
        exact lt_nextKey hd
      · rw [List.map_append, h.2]
        rfl
  | updateDevice id nonce payload device new hmem hid hassign hguard =>
      obtain ⟨hnew, hdev, -⟩ := DeviceService.assign_eq_ok hassign
      exact hkeep (column_writeDevice _ hdu hmem hnew (by rw [hnew, hdev]))
  | ingestWebhook req webhook device event result => exact hkeep deviceKeys_calledStore
  | enableTunnel id nonce payload device tunnel port hmem hid ht _ hport =>
      obtain ⟨hnew, hdev⟩ := @TunnelService.syncedDevice_keys env payload port device
      have hkeys : deviceKeys
          (db.writeDevice device (TunnelService.syncedDevice env payload port device)) =
            deviceKeys db := column_writeDevice _ hdu hmem hnew (by rw [hnew, hdev])
      cases tunnel with
      | none => exact hkeep hkeys
      | some t => exact hkeep hkeys
  | disableTunnel id device t hdev hid hmem htid =>
      have hkeys : deviceKeys (db.writeDevice device (TunnelService.restoredDevice device t)) =
          deviceKeys db := column_writeDevice _ hdu hdev rfl rfl
      exact hkeep hkeys
  | _ => exact hkeep rfl

end

/-! ### The answers that the records determine -/

section

variable {iso : FrpsService.IsoFormat}

/-- The device that a route names in its path. -/
def Route.deviceId? : Route → Option String
  | .getDevice id | .updateDevice id _ _ | .createWebhook id _ | .rotateWebhook id _ | .getTunnel id
  | .enableTunnel id _ _ | .updateTunnel id _ | .disableTunnel id | .rotateTunnelToken id _
  | .getFrpcConfig id _ | .query _ id _ => some id
  | _ => none

/-- The tunnel of the record is on. -/
def DeviceRecord.managed (r : DeviceRecord) : Bool := r.tunnel.any TunnelOut.enabled

/-- The answer of a route about the device with this record, where the record determines it. -/
def DeviceRecord.answers (r : DeviceRecord) : Route → Option (Except PyError (ApiData iso))
  | .getDevice _ => some (.ok (.device r.device))
  | .getTunnel _ =>
      some (.ok (match r.tunnel with
        | some tunnel => .tunnel tunnel
        | none => .details []))
  | .updateDevice _ _ payload =>
      if payload.baseUrl.isSome && r.managed then
        some (conflict "base_url is managed by tunnel")
      else none
  | .enableTunnel _ _ _ =>
      if r.managed then some (conflict "device tunnel already enabled") else none
  | .updateTunnel _ _ | .disableTunnel _ | .rotateTunnelToken _ _ | .getFrpcConfig _ _ =>
      if r.tunnel.isNone then some (notFound "device tunnel not found") else none
  | _ => none

/-- The answer of a route, where the records determine it: no route about a device works before the
device is created, and the list has the newest device first. -/
def Route.expected (records : String → Option DeviceRecord) (ids : List String) (route : Route) :
    Option (Except PyError (ApiData iso)) :=
  match route, route.deviceId? with
  | .listDevices, _ =>
      let items := (ids.reverse.filterMap records).map DeviceRecord.device
      some (.ok (.devices { items, total := items.length }))
  | _, some id =>
      match records id with
      | none => some (notFound "device not found")
      | some r => r.answers route
  | _, none => none

variable {e : AuthEnv} {s : ApiState} {user : Option User} {ids : List String} {id : String}

/-- A device without a record is not found. -/
theorem requireDevice_of_shown_none {db : Store} (h : shown db id = none) :
    requireDevice db id = notFound "device not found" := by
  have hnone : oneOrNone (fun d : Device => d.deviceId = id) db.devices = some none :=
    oneOrNone_eq_none_row.2 fun d hd => by simpa using shown_eq_none.1 h d hd
  unfold requireDevice
  rw [hnone]

theorem committed_of_error {α : Type} {call : Store → Except PyError (Store × α)}
    {data : α → ApiData iso} {err : PyError} (h : call s.server.db = .error err) :
    (committed iso s call data).1 = .error err := by
  unfold committed
  rw [h]
  rfl

/-- No route about a device works without it. -/
theorem body_of_missing {route : Route} (hroute : route.deviceId? = some id)
    (h : shown s.server.db id = none) :
    (route.body e iso s user).1 = notFound "device not found" := by
  have hnone := requireDevice_of_shown_none h
  cases route with
  | getDevice =>
      obtain rfl := Option.some.inj hroute
      show (requireDevice s.server.db _).map _ = _
      rw [hnone]
      rfl
  | getTunnel =>
      obtain rfl := Option.some.inj hroute
      show (requireDevice s.server.db _ >>= _).map _ = _
      rw [hnone]
      rfl
  | query route deviceId d =>
      obtain rfl := Option.some.inj hroute
      show (CommandService.dispatch e.env d s.server.db deviceId route.commandType route.modelDump
        (userIdOf user)).1.map _ = _
      unfold CommandService.dispatch
      rw [hnone]
      rfl
  | updateTunnel | rotateTunnelToken | getFrpcConfig =>
      obtain rfl := Option.some.inj hroute
      refine committed_of_error ?_
      show ((requireDevice s.server.db _ >>= _) >>= _) = _
      rw [hnone]
      rfl
  | updateDevice | createWebhook | rotateWebhook | enableTunnel | disableTunnel =>
      obtain rfl := Option.some.inj hroute
      refine committed_of_error ?_
      show (requireDevice s.server.db _ >>= _) = _
      rw [hnone]
      rfl
  | _ => simp [Route.deviceId?] at hroute

/-- What a record says about the rows of its device. -/
theorem rows_of_shown {db : Store} {r : DeviceRecord} (hu : UniqueDevices db.devices)
    (h : TunnelsSound e.env db) (hr : shown db id = some r) :
    ∃ device tunnel, requireDevice db id = .ok device ∧ r.device = deviceOut device ∧
      TunnelService.getTunnel db id = .ok tunnel ∧ r.tunnel = tunnel.map tunnelOut := by
  unfold shown at hr
  obtain ⟨device, hlookup, rfl⟩ := Option.map_eq_some_iff.1 hr
  obtain ⟨hmem, rfl⟩ := (lookup_eq_some_iff hu.2).1 hlookup
  exact ⟨device, _, requireDevice_of_mem hu.2 hmem, rfl, TunnelService.getTunnel_eq_lookup h.oneRow,
    rfl⟩

/-- The `base_url` of a device whose tunnel is on cannot be set. -/
theorem ensureUnmanaged_of_managed {db : Store} {payload : DeviceUpdate} {t : DeviceTunnel}
    (hurl : payload.baseUrl.isSome = true) (hmanaged : t.enabled = true)
    (ht : TunnelService.getTunnel db id = .ok (some t)) :
    DeviceService.ensureUnmanaged db id payload = conflict "base_url is managed by tunnel" := by
  obtain ⟨hmem, hid⟩ := TunnelService.getTunnel_eq_some ht
  obtain ⟨url, hpayload⟩ := Option.isSome_iff_exists.1 hurl
  have hone :
      oneOrNone (fun t : DeviceTunnel => decide (t.deviceId = id)) db.deviceTunnels ≠ none := by
    rw [TunnelService.getTunnel_eq_ok.1 ht]
    simp
  have hsome : oneOrNone (fun t : DeviceTunnel => decide (t.deviceId = id) && t.enabled)
      db.deviceTunnels ≠ none :=
    oneOrNone_ne_none_of_imp (fun t ht => (Bool.and_eq_true_iff.1 ht).1) hone
  unfold DeviceService.ensureUnmanaged
  rw [hpayload]
  simp only
  cases hfound : oneOrNone (fun t : DeviceTunnel => decide (t.deviceId = id) && t.enabled)
      db.deviceTunnels with
  | none => exact absurd hfound hsome
  | some found =>
      cases found with
      | some t => rfl
      | none =>
          have hnot := oneOrNone_eq_none_row.1 hfound t hmem
          simp [hid, hmanaged] at hnot

/-- The answer that the record of the device determines. -/
theorem body_of_answers {route : Route} {r : DeviceRecord}
    {outcome : Except PyError (ApiData iso)} (hadm : s.server.db.Admitted e.env.schema)
    (h : TunnelsSound e.env s.server.db) (hroute : route.deviceId? = some id)
    (hr : shown s.server.db id = some r) (hanswer : r.answers route = some outcome) :
    (route.body e iso s user).1 = outcome := by
  obtain ⟨device, tunnel, hdevice, hout, ht, htunnel⟩ := rows_of_shown hadm.2.1 h hr
  have hmissing : r.tunnel.isNone = true →
      TunnelService.requireTunnel s.server.db id = notFound "device tunnel not found" := by
    intro hnone
    rw [htunnel, Option.isNone_map] at hnone
    obtain rfl := Option.isNone_iff_eq_none.1 hnone
    unfold TunnelService.requireTunnel TunnelService.getDevice
    rw [hdevice, ht]
    rfl
  have hmanaged : r.managed = true → ∃ t, tunnel = some t ∧ t.enabled = true := by
    intro hon
    unfold DeviceRecord.managed at hon
    rw [htunnel] at hon
    cases tunnel with
    | none => simp at hon
    | some t => exact ⟨t, rfl, by simpa [tunnelOut] using hon⟩
  cases route with
  | getDevice =>
      obtain rfl := Option.some.inj hroute
      rw [← Option.some.inj hanswer, hout]
      show (requireDevice s.server.db _).map _ = _
      rw [hdevice]
      rfl
  | getTunnel =>
      obtain rfl := Option.some.inj hroute
      rw [← Option.some.inj hanswer, htunnel]
      show (requireDevice s.server.db _ >>= fun _ => TunnelService.getTunnel s.server.db _).map _ = _
      rw [hdevice]
      show (TunnelService.getTunnel s.server.db _).map _ = _
      rw [ht]
      cases tunnel <;> rfl
  | updateDevice _ nonce payload =>
      obtain rfl := Option.some.inj hroute
      simp only [DeviceRecord.answers, Option.ite_none_right_eq_some, Bool.and_eq_true] at hanswer
      obtain ⟨⟨hurl, hon⟩, hrefused⟩ := hanswer
      obtain ⟨t, rfl, henabled⟩ := hmanaged hon
      rw [← Option.some.inj hrefused]
      refine committed_of_error ?_
      unfold DeviceService.update DeviceService.get
      rw [hdevice, ensureUnmanaged_of_managed hurl henabled ht]
      rfl
  | enableTunnel _ nonce payload =>
      obtain rfl := Option.some.inj hroute
      simp only [DeviceRecord.answers, Option.ite_none_right_eq_some] at hanswer
      obtain ⟨hon, hrefused⟩ := hanswer
      obtain ⟨t, rfl, henabled⟩ := hmanaged hon
      rw [← Option.some.inj hrefused]
      have hguard : TunnelService.ensureNotEnabled (some t) =
          conflict "device tunnel already enabled" := by
        simp [TunnelService.ensureNotEnabled, henabled]
      refine committed_of_error ?_
      unfold TunnelService.enable TunnelService.getDevice
      rw [hdevice, ht]
      show (TunnelService.ensureNotEnabled (some t) >>= _) = _
      rw [hguard]
      rfl
  | disableTunnel =>
      obtain rfl := Option.some.inj hroute
      simp only [DeviceRecord.answers, Option.ite_none_right_eq_some] at hanswer
      obtain ⟨hnone, hrefused⟩ := hanswer
      rw [← Option.some.inj hrefused]
      refine committed_of_error ?_
      unfold TunnelService.disable TunnelService.getDevice
      rw [hdevice, hmissing hnone]
      rfl
  | updateTunnel | rotateTunnelToken | getFrpcConfig =>
      obtain rfl := Option.some.inj hroute
      simp only [DeviceRecord.answers, Option.ite_none_right_eq_some] at hanswer
      obtain ⟨hnone, hrefused⟩ := hanswer
      rw [← Option.some.inj hrefused]
      refine committed_of_error ?_
      show (TunnelService.requireTunnel s.server.db _ >>= _) = _
      rw [hmissing hnone]
      rfl
  | _ => simp [DeviceRecord.answers] at hanswer

/-- The list of the devices has the newest first. -/
theorem list_of_ordered {db : Store} (h : Ordered db ids) :
    DeviceService.list db = db.devices.reverse := by
  have hreverse : db.devices.reverse.Pairwise fun a b => b.id ≤ a.id := by
    rw [List.pairwise_reverse]
    exact (List.pairwise_map.1 h.1).imp fun hlt => Nat.le_of_lt hlt
  have hperm : (DeviceService.list db).Perm db.devices.reverse :=
    (List.perm_insertionSort _ _).trans (List.reverse_perm _).symm
  have hinj : ∀ a ∈ db.devices, ∀ b ∈ db.devices, a.id = b.id → a = b := by
    have hnodup : (db.devices.map Device.id).Nodup := h.1.imp fun hlt => Nat.ne_of_lt hlt
    exact fun a ha b hb heq => List.inj_on_of_nodup_map hnodup ha hb heq
  have htotal : Std.Total fun a b : Device => b.id ≤ a.id := ⟨fun a b => Nat.le_total b.id a.id⟩
  have htrans : IsTrans Device fun a b => b.id ≤ a.id := ⟨fun _ _ _ hab hbc => hbc.trans hab⟩
  have hsorted : (DeviceService.list db).Pairwise fun a b => b.id ≤ a.id :=
    List.pairwise_insertionSort _ db.devices
  refine List.Perm.eq_of_pairwise (fun a b ha hb hab hba => ?_) hsorted hreverse hperm
  exact hinj a (List.mem_reverse.1 (hperm.mem_iff.1 ha)) b (List.mem_reverse.1 hb)
    (Nat.le_antisymm hba hab)

theorem deviceListOut_of_ordered {db : Store} (hu : UniqueDevices db.devices)
    (h : Ordered db ids) :
    deviceListOut db =
      { items := (ids.reverse.filterMap (shown db)).map DeviceRecord.device
        total := ((ids.reverse.filterMap (shown db)).map DeviceRecord.device).length } := by
  have hitems : (DeviceService.list db).map deviceOut =
      (ids.reverse.filterMap (shown db)).map DeviceRecord.device := by
    rw [list_of_ordered h, ← h.2, ← List.map_reverse, List.filterMap_map, List.map_filterMap]
    symm
    rw [← List.filterMap_eq_map]
    refine List.filterMap_congr fun d hd => ?_
    show (shown db d.deviceId).map DeviceRecord.device = _
    rw [shown_of_mem hu (List.mem_reverse.1 hd) rfl]
    rfl
  unfold deviceListOut
  rw [hitems]

/-- **The answer that the records determine is given.** -/
theorem body_of_expected {route : Route} {outcome : Except PyError (ApiData iso)}
    (hadm : s.server.db.Admitted e.env.schema) (h : TunnelsSound e.env s.server.db)
    (hord : Ordered s.server.db ids)
    (hexp : route.expected (shown s.server.db) ids = some outcome) :
    (route.body e iso s user).1 = outcome := by
  have hdevice : ∀ id, route.deviceId? = some id →
      (match shown s.server.db id with
        | none => some (notFound "device not found")
        | some r => r.answers route) = some outcome → (route.body e iso s user).1 = outcome := by
    intro id hroute hanswer
    cases hr : shown s.server.db id with
    | none =>
        rw [hr] at hanswer
        rw [← Option.some.inj hanswer]
        exact body_of_missing hroute hr
    | some r =>
        rw [hr] at hanswer
        exact body_of_answers hadm h hroute hr hanswer
  cases route with
  | listDevices =>
      rw [← Option.some.inj hexp, ← deviceListOut_of_ordered hadm.2.1 hord]
      rfl
  | healthz | login | me | createDevice | ingestWebhook | listFrpsDevices =>
      simp [Route.expected, Route.deviceId?] at hexp
  | _ => exact hdevice _ rfl hexp

/-! ### Runs -/

variable {tr : List (SystemCall iso)}

/-- What a run keeps: the tables hold the records that its history says, and the tokens that it has
given. -/
structure RecordsKept (env : Env) (s : ApiState) (tr : List (SystemCall iso)) : Prop where
  sound : ServerSound env s tr
  tokens : tokenKeys s.server.db = (tr.filterMap issuedIn).map (issuedKey env)
  shown : shown s.server.db = record env tr
  ordered : Ordered s.server.db (created tr)

theorem recordsKept_empty : RecordsKept e.env ApiState.empty ([] : List (SystemCall iso)) where
  sound := serverSound_empty
  tokens := rfl
  shown := rfl
  ordered := ⟨List.Pairwise.nil, rfl⟩

theorem record_concat {env : Env} {c : SystemCall iso} (deviceId : String) :
    record env (tr ++ [c]) deviceId =
      (happening env tr deviceId c.op c.answer).toList.foldl DeviceRecord.after
        (record env tr deviceId) := by
  unfold record
  rw [withHistory_concat, List.filterMap_append, List.foldl_append, List.nil_append]
  cases h : happening env tr deviceId c.op c.answer with
  | none => simp [h]
  | some happens => simp [h]

theorem created_concat {c : SystemCall iso} :
    created (tr ++ [c]) = created tr ++ created [c] := List.filterMap_append

/-- Every operation keeps the records. -/
theorem recordsKept_step (op : SystemOp) (h : RecordsKept e.env s tr) :
    RecordsKept e.env (op.exec e iso s).2 (tr ++ [call (SystemOp.exec e iso) s op]) := by
  have hsound := serverSound_step op h.sound
  have hadm := h.sound.admitted.db
  rcases @effect_system e iso s op hadm with
    ⟨salt, username, password, rfl, hserver⟩ | ⟨req, user, outcome, db', rfl, hanswer, hdb, heffect⟩
  · refine ⟨hsound, ?_, funext fun deviceId => ?_, ?_⟩
    · rw [hserver, List.filterMap_append, h.tokens]
      exact congrArg (List.map _) (List.append_nil _).symm
    · rw [record_concat, hserver, h.shown]
      rfl
    · rw [created_concat, hserver]
      show Ordered s.server.db (created tr ++ [])
      rw [List.append_nil]
      exact h.ordered
  · have hadm' : db'.Admitted e.env.schema := by
      rw [← hdb]
      exact hsound.admitted.db
    refine ⟨hsound, ?_, funext fun deviceId => ?_, ?_⟩
    · have hcall : [call (SystemOp.exec e iso) s (.request req)].filterMap issuedIn =
          (req.route.issued (respond iso req.requestId outcome).data).toList := by
        show [(⟨s, .request req, (SystemOp.exec e iso s (.request req)).1, _⟩ :
          SystemCall iso)].filterMap issuedIn = _
        rw [hanswer]
        simp only [issuedIn, List.filterMap_cons, List.filterMap_nil]
        cases req.route.issued (respond iso req.requestId outcome).data <;> rfl
      rw [List.filterMap_append, List.map_append, hcall, hdb, ← h.tokens]
      exact tokenKeys_effect hadm req.requestId heffect
    · have hcall : happening e.env tr deviceId (.request req)
          (SystemOp.exec e iso s (.request req)).1 =
          req.route.happening (issuedTo e.env tr deviceId) deviceId
            (respond iso req.requestId outcome).data := by
        rw [hanswer]
        rfl
      rw [record_concat, call_op]
      show _ = (happening e.env tr deviceId (.request req)
        (SystemOp.exec e iso s (.request req)).1).toList.foldl _ _
      rw [hcall, hdb, ← h.shown]
      exact shown_effect hadm hadm' h.sound.tunnels req.requestId
        (fun w hw token hhash => issuedTo_of_mem hadm.2.2.2.1.2 h.tokens hw hhash) heffect
    · have hcall : created [call (SystemOp.exec e iso) s (.request req)] =
          (req.route.creates (respond iso req.requestId outcome).data).toList := by
        show created [(⟨s, .request req, (SystemOp.exec e iso s (.request req)).1, _⟩ :
          SystemCall iso)] = _
        rw [hanswer]
        unfold created
        simp only [List.filterMap_cons, List.filterMap_nil]
        cases req.route.creates (respond iso req.requestId outcome).data <;> rfl
      rw [created_concat, hcall, hdb]
      exact ordered_effect hadm h.ordered req.requestId heffect

/-- After every run the tables hold the records that the history says. -/
theorem recordsKept_run (e : AuthEnv) (iso : FrpsService.IsoFormat) (ops : List SystemOp) :
    RecordsKept e.env (final (SystemOp.exec e iso) ApiState.empty ops)
      (trace (SystemOp.exec e iso) ApiState.empty ops) :=
  run_induction (SystemOp.exec e iso) (P := RecordsKept e.env) recordsKept_empty
    (fun _ _ op h => recordsKept_step op h) ops

end

/-- **The answers follow the history.**  After every run from empty tables, a request that is not
refused is given the answer that the records of the run determine: what is read of a device and its
tunnel, the list of the devices, a device or a tunnel that is not there, a tunnel that is on
already, a `base_url` that a tunnel manages. -/
theorem answers_follow_history (e : AuthEnv) (iso : FrpsService.IsoFormat) (ops : List SystemOp)
    (req : ApiRequest) (outcome : Except PyError (ApiData iso))
    (hexp : req.route.expected (record e.env (trace (SystemOp.exec e iso) ApiState.empty ops))
      (created (trace (SystemOp.exec e iso) ApiState.empty ops)) = some outcome) :
    (∃ err, authorize e (final (SystemOp.exec e iso) ApiState.empty ops).accounts req.route.access
        req.authorization req.now = .error err) ∨
      (serve e iso (final (SystemOp.exec e iso) ApiState.empty ops) req).1 =
        respond iso req.requestId outcome := by
  have hkept := recordsKept_run e iso ops
  rw [← hkept.shown] at hexp
  rcases serve_cases e iso (final (SystemOp.exec e iso) ApiState.empty ops) req with
    ⟨err, hrefused, -⟩ | ⟨user, -, hserve⟩
  · exact Or.inl ⟨err, hrefused⟩
  · right
    rw [hserve, body_of_expected hkept.sound.admitted.db hkept.sound.tunnels hkept.ordered hexp]

/-! ### A device with a tunnel -/

def tunnelPayload : TunnelEnableIn where
  localIp := LocalIp.default
  localPort := Port.app
  remotePort := some Port.first

/-- The administrator turns on the tunnel of the device, which has posted a message. -/
def tunnelRequest : ApiRequest :=
  { sessionRequest with route := .enableTunnel (generateDeviceId Uuid.nil) 0 tunnelPayload }

def tunnelStart : List SystemOp := postedStart ++ [.request tunnelRequest]

/-- The tables of the devices then. -/
def tunneledStore : Store :=
  (attempt (TunnelService.enable (plainEnv ormSchema) messageServer.db (generateDeviceId Uuid.nil) 0
    tunnelPayload) messageServer.db).2

theorem final_tunnelStart :
    final plainExec ApiState.empty tunnelStart =
      { final plainExec ApiState.empty sessionStart with
        server := { messageServer with db := tunneledStore } } := by
  obtain ⟨row, hexec⟩ :=
    @exec_session (final plainExec ApiState.empty postedStart) (by rw [final_postedStart])
      tunnelRequest.route _ rfl
  show final plainExec ApiState.empty (postedStart ++ [.request tunnelRequest]) = _
  rw [final_concat]
  show (plainExec (final plainExec ApiState.empty postedStart)
    (.request { sessionRequest with route := tunnelRequest.route })).2 = _
  rw [hexec, final_postedStart]
  rfl

def tunneledTunnel : TunnelOut where
  enabled := true
  proxyType := "tcp"
  proxyName := "smsf-dev_000000000000000000000000"
  localIp := "127.0.0.1"
  localPort := 5000
  remotePort := 17000
  internalBaseUrl := "http://127.0.0.1:17000"
  publicBaseUrl := some "tcp://localhost:17000"
  useEncryption := true
  useCompression := true
  status := "active"
  lastConfigGeneratedAt := none

def tunneledDevice : DeviceOut where
  deviceId := generateDeviceId Uuid.nil
  deviceName := none
  channelType := "hybrid"
  baseUrl := some "http://127.0.0.1:17000"
  status := "active"
  isActive := true
  lastSeenAt := some 0
  lastWebhookAt := some 0
  webhookCount := 1

/-- The answers say that the device was created, that it has posted, and that its tunnel is on. -/
theorem record_tunnelStart :
    record (plainEnv ormSchema) (trace plainExec ApiState.empty tunnelStart)
        (generateDeviceId Uuid.nil) =
          some ⟨tunneledDevice, some tunneledTunnel, some "http://10.0.0.7:5000"⟩ ∧
      created (trace plainExec ApiState.empty tunnelStart) = [generateDeviceId Uuid.nil] := by
  have hkept := recordsKept_run (plainAuthEnv ormSchema) FrpsService.noIso tunnelStart
  have hshown := congrFun hkept.shown (generateDeviceId Uuid.nil)
  have hcreated := hkept.ordered.2
  rw [final_tunnelStart] at hshown hcreated
  exact ⟨hshown.symm, hcreated.symm⟩

/-- The administrator reads the list of the devices, and the tunnel. -/
theorem answers_follow_history_session :
    (serve (plainAuthEnv ormSchema) FrpsService.noIso (final plainExec ApiState.empty tunnelStart)
        sessionRequest).1 =
        respond FrpsService.noIso "2" (.ok (.devices { items := [tunneledDevice], total := 1 })) ∧
      (serve (plainAuthEnv ormSchema) FrpsService.noIso (final plainExec ApiState.empty tunnelStart)
        { sessionRequest with route := .getTunnel (generateDeviceId Uuid.nil) }).1 =
        respond FrpsService.noIso "2" (.ok (.tunnel tunneledTunnel)) := by
  obtain ⟨row, hin⟩ := authorize_session "device:view"
  have hpassed : ¬ ∃ err, authorize (plainAuthEnv ormSchema)
      (final plainExec ApiState.empty tunnelStart).accounts (.permission "device:view")
      sessionRequest.authorization sessionRequest.now = .error err := by
    rintro ⟨err, herr⟩
    rw [final_tunnelStart] at herr
    exact absurd (herr.symm.trans hin) (by simp)
  obtain ⟨hrecord, hcreated⟩ := record_tunnelStart
  constructor
  · refine (answers_follow_history (plainAuthEnv ormSchema) FrpsService.noIso tunnelStart
      sessionRequest _ ?_).resolve_left hpassed
    show Route.expected (record (plainEnv ormSchema) (trace plainExec ApiState.empty tunnelStart))
      (created (trace plainExec ApiState.empty tunnelStart)) .listDevices = _
    rw [hcreated]
    simp [Route.expected, hrecord]
  · refine (answers_follow_history (plainAuthEnv ormSchema) FrpsService.noIso tunnelStart
      { sessionRequest with route := .getTunnel (generateDeviceId Uuid.nil) } _ ?_).resolve_left
        hpassed
    show Route.expected (record (plainEnv ormSchema) (trace plainExec ApiState.empty tunnelStart))
      (created (trace plainExec ApiState.empty tunnelStart)) (.getTunnel _) = _
    simp [Route.expected, Route.deviceId?, hrecord, DeviceRecord.answers]

end SmsForwarder
