/-
**Runs of the webhook service.**

A run registers devices, issues and rotates webhooks and posts events to them, in any order and
with any statement of a posting failing.  The counters of devices and webhooks then agree with the
events that are stored and with the postings that were answered.

Main definitions:

* `SmsForwarder.WebhookOp`, `SmsForwarder.WebhookOp.exec` — the calls of a run;
* `SmsForwarder.returnedFor` — the postings for a device that were answered;
* `SmsForwarder.CountsSound` — the counters of a store, against the postings answered so far;
* `SmsForwarder.calledStore` — the store that the commit of a posting leaves;
* `SmsForwarder.WebhookInvariant` — what is claimed of every state.

Main results:

* `SmsForwarder.countsSound_exec` — every call keeps the counters sound;
* `SmsForwarder.webhookInvariant_final` — **the invariant holds of every state of every run.**
-/

import SmsForwarder.Runs
import SmsForwarder.WebhookService

set_option relaxedAutoImplicit false
set_option autoImplicit false

namespace SmsForwarder

open Tables Runs WebhookService

/-! ### Calls -/

/-- The calls of a run.  A webhook row is named by its primary key: it was loaded just before. -/
inductive WebhookOp
  | register (uuid : Uuid) (nonce : ℕ) (payload : DeviceCreate)
  | create (deviceId secret : String)
  | rotate (deviceId secret : String)
  | ingest (webhookId : ℕ) (call : IngestCall)

/-- What a call returns. -/
inductive WebhookAnswer
  | device (d : Device)
  | issued (token : IssuedToken)
  | ingested (result : IngestResult)

/-- The webhook row with this primary key. -/
def loadWebhook (db : Store) (webhookId : ℕ) : Except PyError DeviceWebhook :=
  match Tables.lookup DeviceWebhook.id webhookId db.deviceWebhooks with
  | some w => .ok w
  | none => .error .noResultFound

theorem loadWebhook_eq_ok {db : Store} {webhookId : ℕ} {webhook : DeviceWebhook}
    (hu : UniqueKey DeviceWebhook.id db.deviceWebhooks) :
    loadWebhook db webhookId = .ok webhook ↔
      webhook ∈ db.deviceWebhooks ∧ webhook.id = webhookId := by
  rw [← lookup_eq_some_iff hu]
  unfold loadWebhook
  cases Tables.lookup DeviceWebhook.id webhookId db.deviceWebhooks <;> simp

namespace WebhookOp

variable (env : Env)

/-- The call on a committed store. -/
def run (db : Store) : WebhookOp → Except PyError (Store × WebhookAnswer)
  | register uuid nonce payload =>
      (DeviceService.create env db uuid nonce payload).map fun r => (r.1, .device r.2)
  | create deviceId secret =>
      (WebhookService.create env db deviceId secret).map fun r => (r.1, .issued r.2)
  | rotate deviceId secret =>
      (WebhookService.rotate env db deviceId secret).map fun r => (r.1, .issued r.2)
  | ingest webhookId call => do
      let webhook ← loadWebhook db webhookId
      let r ← WebhookService.ingest env db webhook call
      pure (r.1, .ingested r.2)

/-- The call with its answer and the store it leaves. -/
def exec (db : Store) (op : WebhookOp) : Except PyError WebhookAnswer × Store :=
  attempt (run env db op) db

end WebhookOp

/-- An executed call of a run. -/
abbrev WebhookCall := Call Store WebhookOp (Except PyError WebhookAnswer)

/-- The record of a call of the webhook service. -/
theorem WebhookOp.call_cases (env : Env) (db : Store) (op : WebhookOp) :
    (∃ db' answer, op.run env db = .ok (db', answer) ∧
        call (WebhookOp.exec env) db op = ⟨db, op, .ok answer, db'⟩) ∨
      ∃ e, op.run env db = .error e ∧
        call (WebhookOp.exec env) db op = ⟨db, op, .error e, db⟩ :=
  call_attempt_cases (fun db op => WebhookOp.run env db op) db op

/-- The webhook row and the answer of a posting that was answered. -/
def answeredPosting (c : WebhookCall) : Option (DeviceWebhook × IngestResult) :=
  match c.op, c.answer with
  | .ingest webhookId _, .ok (.ingested r) =>
      (Tables.lookup DeviceWebhook.id webhookId c.before.deviceWebhooks).map fun w => (w, r)
  | _, _ => none

/-- Whether the call is a posting for the device that was answered. -/
def returnedFor (deviceId : String) (c : WebhookCall) : Bool :=
  (answeredPosting c).any fun p => p.1.deviceId = deviceId

/-! ### Counters -/

/-- The number of stored events of a device. -/
def storedEvents (db : Store) (deviceId : String) : ℕ :=
  db.deviceEvents.countP fun e => e.deviceId = deviceId

/-- The sum of the `called_count` of the webhooks of a device. -/
def totalCalls (db : Store) (deviceId : String) : ℕ :=
  total (fun w => w.deviceId = deviceId) DeviceWebhook.calledCount db.deviceWebhooks

/-- The counters of a store, when `calls` says how many postings for a device were answered. -/
structure CountsSound (calls : String → ℕ) (db : Store) : Prop where
  webhooksOwned : ∀ w ∈ db.deviceWebhooks, ∃ d ∈ db.devices, d.deviceId = w.deviceId
  eventsOwned : ∀ e ∈ db.deviceEvents, ∃ d ∈ db.devices, d.deviceId = e.deviceId
  webhookCount : ∀ d ∈ db.devices, d.webhookCount = storedEvents db d.deviceId
  calledCount : ∀ deviceId, totalCalls db deviceId = calls deviceId
  active : ∀ d ∈ db.devices, d.isActive = true ∧ d.status = "active" ↔ 0 < calls d.deviceId

variable (env : Env)

/-- What an answered posting says and does about duplicates. -/
def DuplicateSound (c : WebhookCall) : Prop :=
  ∀ w r, answeredPosting c = some (w, r) →
    (r.duplicate = true ↔ ∃ e ∈ c.before.deviceEvents,
      e.deviceId = w.deviceId ∧ env.driver.bindText r.eventId = some e.eventId) ∧
    (r.duplicate = true → c.after.deviceEvents = c.before.deviceEvents ∧
      c.after.devices.map (fun d => (d.deviceId, d.webhookCount)) =
        c.before.devices.map fun d => (d.deviceId, d.webhookCount))

/-- What holds of every state of a run. -/
structure WebhookInvariant (db : Store) (tr : List WebhookCall) : Prop where
  oneEvent : UniqueKey (fun e => (e.deviceId, e.eventId)) db.deviceEvents
  webhookCount : ∀ d ∈ db.devices, d.webhookCount = storedEvents db d.deviceId
  calledCount : ∀ deviceId, totalCalls db deviceId = tr.countP (returnedFor deviceId)
  duplicates : ∀ c ∈ tr, DuplicateSound env c
  active : ∀ d ∈ db.devices,
    d.isActive = true ∧ d.status = "active" ↔ ∃ c ∈ tr, returnedFor d.deviceId c = true

/-! ### The rows that a posting writes -/

section

variable (device cur : Device) (webhook row : DeviceWebhook) (duplicate : Bool) (now : Timestamp)

theorem merge_calledDevice : (device.merge (calledDevice duplicate now device) cur).id = cur.id ∧
    (device.merge (calledDevice duplicate now device) cur).deviceId = cur.deviceId ∧
    (device.merge (calledDevice duplicate now device) cur).webhookCount =
      if duplicate then cur.webhookCount else device.webhookCount + 1 := by
  cases duplicate <;> simp [Device.merge, calledDevice, mergeColumn]

theorem merge_calledWebhook : (webhook.merge (calledWebhook now webhook) row).id = row.id ∧
    (webhook.merge (calledWebhook now webhook) row).deviceId = row.deviceId ∧
    (webhook.merge (calledWebhook now webhook) row).webhookTokenHash = row.webhookTokenHash ∧
    (webhook.merge (calledWebhook now webhook) row).calledCount = webhook.calledCount + 1 := by
  simp [DeviceWebhook.merge, calledWebhook, mergeColumn]

end

section

variable {db : Store}

/-- The stored events of the device of an answered posting. -/
theorem storedEvents_insertEvent (event : DeviceEvent) (deviceId : String) :
    storedEvents (db.insertEvent event) deviceId =
      storedEvents db deviceId + if event.deviceId = deviceId then 1 else 0 := by
  unfold storedEvents Store.insertEvent
  rw [List.countP_append, List.countP_singleton]
  simp

/-- The store in which a posting updates its rows. -/
def workingStore (duplicate : Bool) (event : DeviceEvent) (db : Store) : Store :=
  if duplicate then db else db.insertEvent event

theorem workingStore_devices (duplicate : Bool) (event : DeviceEvent) :
    (workingStore duplicate event db).devices = db.devices := by
  cases duplicate <;> rfl

theorem workingStore_webhooks (duplicate : Bool) (event : DeviceEvent) :
    (workingStore duplicate event db).deviceWebhooks = db.deviceWebhooks := by
  cases duplicate <;> rfl

/-- The events that are stored after a posting. -/
theorem storedEvents_workingStore (duplicate : Bool) (event : DeviceEvent) (deviceId : String) :
    storedEvents (workingStore duplicate event db) deviceId =
      storedEvents db deviceId +
        if duplicate = false ∧ event.deviceId = deviceId then 1 else 0 := by
  cases duplicate with
  | true => simp [workingStore]
  | false => simpa [workingStore] using storedEvents_insertEvent event deviceId

end

/-- The store that the commit of a posting leaves. -/
def calledStore (db : Store) (webhook : DeviceWebhook) (device : Device) (event : DeviceEvent)
    (duplicate : Bool) (now : Timestamp) : Store :=
  ((workingStore duplicate event db).writeDevice device
    (calledDevice duplicate now device)).writeWebhook webhook (calledWebhook now webhook)

/-- The columns of the devices that no posting writes. -/
def deviceKeys (db : Store) : List (ℕ × String) := db.devices.map fun d => (d.id, d.deviceId)

/-- The columns of the webhooks that no posting writes. -/
def webhookKeys (db : Store) : List (ℕ × String × String) :=
  db.deviceWebhooks.map fun w => (w.id, w.deviceId, w.webhookTokenHash)

section

variable {db : Store} {webhook : DeviceWebhook} {device : Device} {event : DeviceEvent}
  {duplicate : Bool} {now : Timestamp}

theorem calledStore_devices : (calledStore db webhook device event duplicate now).devices =
    updateKey Device.id device.id (device.merge (calledDevice duplicate now device))
      db.devices := by
  unfold calledStore
  cases duplicate <;> rfl

theorem calledStore_webhooks : (calledStore db webhook device event duplicate now).deviceWebhooks =
    updateKey DeviceWebhook.id webhook.id (webhook.merge (calledWebhook now webhook))
      db.deviceWebhooks := by
  unfold calledStore
  cases duplicate <;> rfl

theorem deviceKeys_calledStore :
    deviceKeys (calledStore db webhook device event duplicate now) = deviceKeys db := by
  unfold deviceKeys
  rw [calledStore_devices]
  refine map_updateKey fun cur _ _ => ?_
  obtain ⟨hid, hdev, -⟩ := merge_calledDevice device cur duplicate now
  rw [hid, hdev]

/-- A device of the same key is one of the same identifier. -/
theorem exists_device_of_deviceKeys {db' : Store} (h : deviceKeys db' = deviceKeys db)
    {deviceId : String} (hd : ∃ d ∈ db.devices, d.deviceId = deviceId) :
    ∃ d ∈ db'.devices, d.deviceId = deviceId := by
  obtain ⟨d, hd, hid⟩ := hd
  have hkey : (d.id, d.deviceId) ∈ deviceKeys db' := by
    rw [h]
    exact List.mem_map_of_mem hd
  obtain ⟨d', hd', heq⟩ := List.mem_map.1 hkey
  exact ⟨d', hd', (congrArg Prod.snd heq).trans hid⟩

theorem webhookKeys_calledStore :
    webhookKeys (calledStore db webhook device event duplicate now) = webhookKeys db := by
  unfold webhookKeys
  rw [calledStore_webhooks]
  refine map_updateKey fun row _ _ => ?_
  obtain ⟨hid, hdev, hhash, -⟩ := merge_calledWebhook webhook row now
  rw [hid, hdev, hhash]

theorem storedEvents_calledStore (deviceId : String) :
    storedEvents (calledStore db webhook device event duplicate now) deviceId =
      storedEvents db deviceId + if duplicate = false ∧ event.deviceId = deviceId then 1 else 0 :=
  storedEvents_workingStore duplicate event deviceId

/-- The device that is called is known by its key, and so are the others. -/
theorem deviceId_eq_iff_of_deviceKeys (hadm : UniqueDevices db.devices)
    (hkey : (device.id, device.deviceId) ∈ deviceKeys db) {d : Device} (hd : d ∈ db.devices) :
    device.deviceId = d.deviceId ↔ d.id = device.id := by
  obtain ⟨cur, hcur, heq⟩ := List.mem_map.1 hkey
  obtain ⟨hid, hdev⟩ := Prod.mk.inj heq
  constructor
  · intro h
    rw [hadm.2.eq hd hcur (h.symm.trans hdev.symm)]
    exact hid
  · intro h
    rw [hadm.1.eq hd hcur (h.trans hid.symm)]
    exact hdev.symm

/-- A row with the primary key of a known webhook has its device and its hash. -/
theorem eq_of_webhookKeys (hu : UniqueKey DeviceWebhook.id db.deviceWebhooks)
    (hkey : (webhook.id, webhook.deviceId, webhook.webhookTokenHash) ∈ webhookKeys db)
    {w : DeviceWebhook} (hw : w ∈ db.deviceWebhooks) (hid : w.id = webhook.id) :
    w.deviceId = webhook.deviceId ∧ w.webhookTokenHash = webhook.webhookTokenHash := by
  obtain ⟨row, hrow, heq⟩ := List.mem_map.1 hkey
  simp only [Prod.mk.injEq] at heq
  rw [hu.eq hw hrow (hid.trans heq.1.symm)]
  exact heq.2

/-- The webhook that is called is known by its hash, and so are the others. -/
theorem tokenHash_eq_iff_of_webhookKeys (hadm : UniqueWebhooks db.deviceWebhooks)
    (hkey : (webhook.id, webhook.deviceId, webhook.webhookTokenHash) ∈ webhookKeys db)
    {w : DeviceWebhook} (hw : w ∈ db.deviceWebhooks) :
    webhook.webhookTokenHash = w.webhookTokenHash ↔ w.id = webhook.id := by
  constructor
  · intro h
    obtain ⟨row, hrow, heq⟩ := List.mem_map.1 hkey
    simp only [Prod.mk.injEq] at heq
    rw [hadm.2.eq hw hrow (h.symm.trans heq.2.2.symm)]
    exact heq.1
  · exact fun h => (eq_of_webhookKeys hadm.1 hkey hw h).2.symm

/-- **A commit that finds the counter of the device as it was read** counts the event. -/
theorem webhookCount_calledStore (hadm : UniqueDevices db.devices)
    (hcounts : ∀ d ∈ db.devices, d.webhookCount = storedEvents db d.deviceId)
    (hkey : (device.id, device.deviceId) ∈ deviceKeys db)
    (hevent : event.deviceId = device.deviceId)
    (hread : duplicate = false →
      ∀ d ∈ db.devices, d.id = device.id → d.webhookCount = device.webhookCount) :
    ∀ d ∈ (calledStore db webhook device event duplicate now).devices,
      d.webhookCount = storedEvents (calledStore db webhook device event duplicate now)
        d.deviceId := by
  intro d hd
  rw [storedEvents_calledStore, hevent]
  rw [calledStore_devices] at hd
  rcases mem_updateKey.1 hd with ⟨cur, hcur, hid, rfl⟩ | ⟨hd, hid⟩
  · obtain ⟨-, hdev, hcount⟩ := merge_calledDevice device cur duplicate now
    have hself := (deviceId_eq_iff_of_deviceKeys hadm hkey hcur).2 hid
    rw [hcount, hdev, ← hcounts cur hcur]
    cases hdup : duplicate with
    | true => simp
    | false =>
        rw [hread hdup cur hcur hid]
        simp [hself]
  · have hother : ¬ device.deviceId = d.deviceId := fun h =>
      hid ((deviceId_eq_iff_of_deviceKeys hadm hkey hd).1 h)
    rw [if_neg (fun h => hother h.2), Nat.add_zero]
    exact hcounts d hd

/-- **A commit that finds the counter of the webhook as it was read** counts the posting. -/
theorem calledCount_calledStore (hadm : UniqueWebhooks db.deviceWebhooks)
    (hkey : (webhook.id, webhook.deviceId, webhook.webhookTokenHash) ∈ webhookKeys db)
    (hread : ∀ w ∈ db.deviceWebhooks, w.id = webhook.id → w.calledCount = webhook.calledCount)
    {w : DeviceWebhook}
    (hw : w ∈ (calledStore db webhook device event duplicate now).deviceWebhooks) :
    ∃ w' ∈ db.deviceWebhooks, w'.id = w.id ∧ w'.webhookTokenHash = w.webhookTokenHash ∧
      w.calledCount = w'.calledCount +
        if webhook.webhookTokenHash = w.webhookTokenHash then 1 else 0 := by
  rw [calledStore_webhooks] at hw
  rcases mem_updateKey.1 hw with ⟨row, hrow, hid, rfl⟩ | ⟨hw, hid⟩
  · obtain ⟨hid', -, hhash, hcount⟩ := merge_calledWebhook webhook row now
    refine ⟨row, hrow, hid'.symm, hhash.symm, ?_⟩
    rw [hcount, hhash, if_pos ((tokenHash_eq_iff_of_webhookKeys hadm hkey hrow).2 hid),
      hread row hrow hid]
  · refine ⟨w, hw, rfl, rfl, ?_⟩
    rw [if_neg fun h => hid ((tokenHash_eq_iff_of_webhookKeys hadm hkey hw).1 h), Nat.add_zero]

end

/-! ### Calls keep the counters sound -/

section

variable {env} {db : Store} {calls : String → ℕ}

theorem countsSound_empty : CountsSound (fun _ => 0) Store.empty where
  webhooksOwned := by simp [Store.empty]
  eventsOwned := by simp [Store.empty]
  webhookCount := by simp [Store.empty]
  calledCount _ := rfl
  active := by simp [Store.empty]

/-- A new device has no events and no webhooks. -/
theorem countsSound_register {uuid : Uuid} {nonce : ℕ} {payload : DeviceCreate}
    {r : Store × Device} (h : CountsSound calls db)
    (hok : DeviceService.create env db uuid nonce payload = .ok r) :
    CountsSound calls r.1 := by
  obtain ⟨hdb, hadm⟩ := DeviceService.create_eq_ok hok
  have hkeys : ∀ d ∈ db.devices, d.deviceId ≠ generateDeviceId uuid := by
    have hu := hadm.2.1.2
    rw [hdb] at hu
    exact (uniqueKey_concat.1 hu).2
  have hevents : storedEvents db (generateDeviceId uuid) = 0 := by
    unfold storedEvents
    rw [List.countP_eq_zero]
    intro e he heq
    obtain ⟨d, hd, hid⟩ := h.eventsOwned e he
    exact hkeys d hd (hid.trans (of_decide_eq_true heq))
  have hcalls : calls (generateDeviceId uuid) = 0 := by
    rw [← h.calledCount]
    unfold totalCalls total
    rw [List.filter_eq_nil_iff.2]
    · rfl
    · intro w hw heq
      obtain ⟨d, hd, hid⟩ := h.webhooksOwned w hw
      exact hkeys d hd (hid.trans (of_decide_eq_true heq))
  rw [hdb]
  refine ⟨fun w hw => ?_, fun e he => ?_, fun d hd => ?_, h.calledCount, fun d hd => ?_⟩
  · obtain ⟨d, hd, hid⟩ := h.webhooksOwned w hw
    exact ⟨d, List.mem_append_left _ hd, hid⟩
  · obtain ⟨d, hd, hid⟩ := h.eventsOwned e he
    exact ⟨d, List.mem_append_left _ hd, hid⟩
  · rcases List.mem_append.1 hd with hd | hd
    · exact h.webhookCount d hd
    · rw [List.mem_singleton] at hd
      subst hd
      exact hevents.symm
  · rcases List.mem_append.1 hd with hd | hd
    · exact h.active d hd
    · rw [List.mem_singleton] at hd
      subst hd
      simp [DeviceService.newDevice, hcalls]

/-- A new webhook was never called. -/
theorem countsSound_insertWebhook {deviceId secret : String} (h : CountsSound calls db)
    (hd : ∃ d ∈ db.devices, d.deviceId = deviceId) :
    CountsSound calls (db.insertWebhook (newWebhook env deviceId secret)) := by
  refine ⟨fun w hw => ?_, h.eventsOwned, h.webhookCount, fun id => ?_, h.active⟩
  · rcases List.mem_append.1 hw with hw | hw
    · exact h.webhooksOwned w hw
    · rw [List.mem_singleton] at hw
      subst hw
      exact hd
  · rw [← h.calledCount id]
    unfold totalCalls Store.insertWebhook
    rw [total_append, Nat.add_eq_left]
    unfold total
    by_cases hid : deviceId = id
    · simp [newWebhook, hid]
    · simp [newWebhook, hid]

/-- Disabling webhooks keeps the counters. -/
theorem countsSound_rotated (h : CountsSound calls db) (deviceId : String) :
    CountsSound calls
      { db with deviceWebhooks := db.deviceWebhooks.map (rotatedWebhook deviceId) } := by
  refine ⟨fun w hw => ?_, h.eventsOwned, h.webhookCount, fun id => ?_, h.active⟩
  · obtain ⟨w', hw', rfl⟩ := List.mem_map.1 hw
    exact h.webhooksOwned w' hw'
  · rw [← h.calledCount id]
    exact total_map (h := rotatedWebhook deviceId) (by exact fun _ => rfl) (by exact fun _ => rfl) _

/-- The answered posting of an event: the counters of its device and its webhook follow. -/
theorem countsSound_ingest {webhook : DeviceWebhook} {device : Device} {event : DeviceEvent}
    {duplicate : Bool} {now : Timestamp} (hadm : db.Admitted env.schema)
    (h : CountsSound calls db) (hw : webhook ∈ db.deviceWebhooks) (hd : device ∈ db.devices)
    (hid : device.deviceId = webhook.deviceId) (hevent : event.deviceId = webhook.deviceId) :
    CountsSound (fun id => calls id + if webhook.deviceId = id then 1 else 0)
      (calledStore db webhook device event duplicate now) := by
  have hkey : (device.id, device.deviceId) ∈ deviceKeys db := List.mem_map_of_mem hd
  have howned : ∀ deviceId, (∃ d ∈ db.devices, d.deviceId = deviceId) →
      ∃ d ∈ (calledStore db webhook device event duplicate now).devices, d.deviceId = deviceId :=
    fun deviceId hd => exists_device_of_deviceKeys deviceKeys_calledStore hd
  have hmerge : webhook.merge (calledWebhook now webhook) webhook = calledWebhook now webhook :=
    DeviceWebhook.merge_self rfl
  refine ⟨fun w hw' => ?_, fun e he => ?_, ?_, fun id => ?_, fun d hd' => ?_⟩
  · rw [calledStore_webhooks, mem_updateKey_of_uniqueKey hadm.2.2.2.1.1 hw, hmerge] at hw'
    refine howned _ ?_
    rcases hw' with rfl | ⟨hw', -⟩
    · exact ⟨device, hd, hid⟩
    · exact h.webhooksOwned w hw'
  · refine howned _ ?_
    cases duplicate with
    | true => exact h.eventsOwned e he
    | false =>
        rcases List.mem_append.1 he with he | he
        · exact h.eventsOwned e he
        · rw [List.mem_singleton] at he
          subst he
          exact ⟨device, hd, hid.trans hevent.symm⟩
  · refine webhookCount_calledStore hadm.2.1 h.webhookCount hkey (hevent.trans hid.symm) ?_
    intro _ d hd' hdid
    rw [hadm.2.1.1.eq hd' hd hdid]
  · unfold totalCalls
    rw [calledStore_webhooks, total_updateKey (n := 1) hadm.2.2.2.1.1 hw (by rw [hmerge]; rfl)
      (by rw [hmerge]; rfl)]
    have hold := h.calledCount id
    unfold totalCalls at hold
    rw [hold]
    simp
  · rw [calledStore_devices, mem_updateKey_of_uniqueKey hadm.2.1.1 hd,
      Device.merge_self (by rfl)] at hd'
    rcases hd' with rfl | ⟨hd', hne⟩
    · refine iff_of_true ⟨rfl, rfl⟩ ?_
      have hself : webhook.deviceId = (calledDevice duplicate now device).deviceId := hid.symm
      rw [if_pos hself]
      omega
    · -- the other devices have other identifiers
      have hother : webhook.deviceId ≠ d.deviceId := fun heq =>
        hne (hadm.2.1.2.eq hd' hd (heq.symm.trans hid.symm))
      simpa [hother] using h.active d hd'

/-- The columns that an answered posting of a stored event leaves alone. -/
theorem webhookCounts_of_duplicate {device : Device} {now : Timestamp} (hadm : db.Admitted env.schema)
    (hd : device ∈ db.devices) :
    (db.writeDevice device (calledDevice true now device)).devices.map
        (fun d => (d.deviceId, d.webhookCount)) =
      db.devices.map fun d => (d.deviceId, d.webhookCount) := by
  refine map_updateKey fun d hd' hk => ?_
  obtain rfl := hadm.2.1.1.eq hd' hd hk
  rw [Device.merge_self (by rfl)]
  rfl

/-- The postings answered so far, with one more call. -/
def callsAfter (calls : String → ℕ) (c : WebhookCall) (deviceId : String) : ℕ :=
  calls deviceId + if returnedFor deviceId c then 1 else 0

/-- A call that is not an answered posting answers no posting. -/
theorem callsAfter_of_none {c : WebhookCall} (h : answeredPosting c = none) :
    callsAfter calls c = calls ∧ DuplicateSound env c := by
  refine ⟨?_, fun w r hw => ?_⟩
  · funext deviceId
    simp [callsAfter, returnedFor, h]
  · rw [h] at hw
    simp at hw

/-- A successful posting. -/
theorem countsSound_posting {webhookId : ℕ} {posting : IngestCall} {webhook : DeviceWebhook}
    {r : Store × IngestResult} (hadm : db.Admitted env.schema) (h : CountsSound calls db)
    (hload : loadWebhook db webhookId = .ok webhook)
    (hok : WebhookService.ingest env db webhook posting = .ok r) :
    let c : WebhookCall := ⟨db, .ingest webhookId posting, .ok (.ingested r.2), r.1⟩
    r.1.Admitted env.schema ∧ CountsSound (callsAfter calls c) r.1 ∧ DuplicateSound env c := by
  intro c
  have hload' := (loadWebhook_eq_ok hadm.2.2.2.1.1).1 hload
  have hlookup : Tables.lookup DeviceWebhook.id webhookId db.deviceWebhooks = some webhook :=
    (lookup_eq_some_iff hadm.2.2.2.1.1).2 hload'
  have hw := hload'.1
  obtain ⟨fields, event, -, hbind, -, hdup, device, hd, hid, hdb, hadm'⟩ :=
    ingest_eq_ok hadm hw hok
  obtain ⟨hevent, htext, -⟩ := bindEvent_eq_ok hbind
  have hanswered : answeredPosting c = some (webhook, r.2) := by
    show (Tables.lookup DeviceWebhook.id webhookId db.deviceWebhooks).map _ = _
    rw [hlookup]
    rfl
  have hcalls : callsAfter calls c =
      fun id => calls id + if webhook.deviceId = id then 1 else 0 := by
    funext deviceId
    simp [callsAfter, returnedFor, hanswered]
  refine ⟨hadm', ?_, fun w r' hw' => ?_⟩
  · rw [hcalls, hdb]
    exact countsSound_ingest hadm h hw hd hid hevent
  · rw [hanswered] at hw'
    obtain ⟨rfl, rfl⟩ := Prod.mk.inj (Option.some.inj hw')
    constructor
    · rw [hdup, hevent, htext]
      unfold Recorded
      constructor
      · rintro ⟨e, he, hdev, hid⟩
        exact ⟨e, he, hdev, congrArg some hid.symm⟩
      · rintro ⟨e, he, hdev, hid⟩
        exact ⟨e, he, hdev, (Option.some.inj hid).symm⟩
    · intro hr
      show r.1.deviceEvents = db.deviceEvents ∧ r.1.devices.map _ = db.devices.map _
      rw [hdb, hr]
      exact ⟨rfl, webhookCounts_of_duplicate hadm hd⟩

/-- A successful call that is not a posting. -/
theorem countsSound_other {op : WebhookOp} {r : Store × WebhookAnswer}
    (hadm : db.Admitted env.schema) (h : CountsSound calls db) (hr : op.run env db = .ok r)
    (hop : ∀ webhookId posting, op ≠ .ingest webhookId posting) :
    r.1.Admitted env.schema ∧ CountsSound calls r.1 := by
  have hu : UniqueKey DeviceWebhook.id db.deviceWebhooks := hadm.2.2.2.1.1
  cases op with
  | register uuid nonce payload =>
      obtain ⟨r, hok, rfl⟩ := map_eq_ok.1 hr
      exact ⟨(DeviceService.create_eq_ok hok).2, countsSound_register h hok⟩
  | create deviceId secret =>
      obtain ⟨r, hok, rfl⟩ := map_eq_ok.1 hr
      obtain ⟨hd, hdb, hadm', -⟩ := create_eq_ok hok
      refine ⟨hadm', ?_⟩
      rw [hdb]
      exact countsSound_insertWebhook h hd
  | rotate deviceId secret =>
      obtain ⟨r, hok, rfl⟩ := map_eq_ok.1 hr
      obtain ⟨hd, hdb, hadm', -⟩ := rotate_eq_ok hu hok
      refine ⟨hadm', ?_⟩
      rw [hdb]
      exact countsSound_insertWebhook (countsSound_rotated h deviceId) hd
  | ingest webhookId posting => exact absurd rfl (hop webhookId posting)

/-- **Every call keeps the counters sound**, and an answered posting tells a duplicate. -/
theorem countsSound_exec (op : WebhookOp) (hadm : db.Admitted env.schema)
    (h : CountsSound calls db) :
    let c := call (WebhookOp.exec env) db op
    c.after.Admitted env.schema ∧ CountsSound (callsAfter calls c) c.after ∧
      DuplicateSound env c := by
  intro c
  rcases WebhookOp.call_cases env db op with ⟨db', answer, hr, hcall⟩ | ⟨e, hr, hcall⟩
  · have hc : c = ⟨db, op, .ok answer, db'⟩ := hcall
    rw [hc]
    by_cases hop : ∃ webhookId posting, op = .ingest webhookId posting
    · obtain ⟨webhookId, posting, rfl⟩ := hop
      obtain ⟨webhook, hload, hr⟩ := bind_eq_ok.1 hr
      obtain ⟨r, hok, hr⟩ := bind_eq_ok.1 hr
      cases hr
      exact countsSound_posting hadm h hload hok
    · have hother : ∀ webhookId posting, op ≠ .ingest webhookId posting :=
        fun webhookId posting heq => hop ⟨webhookId, posting, heq⟩
      have hnone : answeredPosting ⟨db, op, .ok answer, db'⟩ = none := by
        cases op with
        | ingest webhookId posting => exact absurd rfl (hother webhookId posting)
        | register | create | rotate => rfl
      obtain ⟨hcalls, hdup⟩ : callsAfter calls ⟨db, op, .ok answer, db'⟩ = calls ∧
          DuplicateSound env ⟨db, op, .ok answer, db'⟩ := callsAfter_of_none hnone
      rw [hcalls]
      exact ⟨(countsSound_other hadm h hr hother).1, (countsSound_other hadm h hr hother).2, hdup⟩
  · -- a failed call leaves the store alone
    have hc : c = ⟨db, op, .error e, db⟩ := hcall
    rw [hc]
    have hnone : answeredPosting ⟨db, op, .error e, db⟩ = none := by
      cases op <;> rfl
    obtain ⟨hcalls, hdup⟩ : callsAfter calls ⟨db, op, .error e, db⟩ = calls ∧
        DuplicateSound env ⟨db, op, .error e, db⟩ := callsAfter_of_none hnone
    rw [hcalls]
    exact ⟨hadm, h, hdup⟩

end

/-- **The counters of every state of every run** agree with the stored events and with the postings
that were answered, and every duplicate was one. -/
theorem webhookInvariant_final (env : Env) (ops : List WebhookOp) :
    WebhookInvariant env (final (WebhookOp.exec env) Store.empty ops)
      (trace (WebhookOp.exec env) Store.empty ops) := by
  obtain ⟨hadm, h, hdup⟩ := run_induction (WebhookOp.exec env)
    (P := fun db tr => db.Admitted env.schema ∧
      CountsSound (fun deviceId => tr.countP (returnedFor deviceId)) db ∧
      ∀ c ∈ tr, DuplicateSound env c)
    ⟨Store.admitted_empty env.schema, countsSound_empty, by simp⟩
    (by
      intro db tr op hI
      obtain ⟨hadm, h, hdup⟩ := hI
      obtain ⟨hadm', h', hlast⟩ := countsSound_exec op hadm h
      have hcount : (fun deviceId => (tr ++ [call (WebhookOp.exec env) db op]).countP
          (returnedFor deviceId)) =
          callsAfter (fun deviceId => tr.countP (returnedFor deviceId))
            (call (WebhookOp.exec env) db op) := by
        funext deviceId
        rw [List.countP_append, List.countP_singleton]
        rfl
      refine ⟨hadm', ?_, ?_⟩
      · rw [hcount]
        exact h'
      · rw [List.forall_mem_append, List.forall_mem_singleton]
        exact ⟨hdup, hlast⟩) ops
  exact
    { oneEvent := hadm.2.2.2.2.1.2
      webhookCount := h.webhookCount
      calledCount := h.calledCount
      duplicates := hdup
      active := fun d hd => by
        rw [h.active d hd, List.countP_pos_iff] }

end SmsForwarder
