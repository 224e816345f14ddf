/-
**Postings for other devices do not matter to a device.**

A posting is stored for the device of the webhook it came through, whatever its payload says.  Two
runs of the server that differ in the postings for other devices only leave a device with the same
rows and the same events, and answer its calls alike: each step of a run does to what the device
sees what it does to the whole store, and a posting for another device does nothing to it.

Main definitions:

* `SmsForwarder.ServiceOp`, `SmsForwarder.ServiceOp.exec` — the calls of a run;
* `SmsForwarder.ServiceOp.foreign`, `SmsForwarder.ServiceOp.concerns` — the postings for other
  devices, and the calls that concern a device;
* `SmsForwarder.SlicesByPosition` — `OFFSET` and `LIMIT` look at the positions of the rows only;
* `SmsForwarder.AlikeFor` — what two runs have in common for a device.

Main results:

* `SmsForwarder.ingest_seenBy`, `SmsForwarder.CommandService.dispatch_seenBy` — a call for the device
  does to what it sees what it does to the store;
* `SmsForwarder.alikeFor_of_same_calls` — **runs that differ in postings for other devices only are
  alike for the device.**
-/

import SmsForwarder.CommandService
import SmsForwarder.DeviceView
import SmsForwarder.Unwinding
import SmsForwarder.WebhookTokens

set_option relaxedAutoImplicit false
set_option autoImplicit false

namespace SmsForwarder

open Py Tables Runs WebhookService

/-! ### The calls of the webhook service -/

/-- What a call returns, with the store as the device sees it. -/
def asSeen {α : Type} (deviceId : String) (r : Store × α) : Store × α := (seenBy deviceId r.1, r.2)

section

variable {env : Env} {deviceId : String} {db : Store}

theorem requireDevice_seenBy (id : String) :
    requireDevice (seenBy deviceId db) id =
      (requireDevice db id).map (quietDevice deviceId) := by
  have hone : oneOrNone (fun d => d.deviceId = id) (seenBy deviceId db).devices =
      (oneOrNone (fun d => d.deviceId = id) db.devices).map (Option.map (quietDevice deviceId)) :=
    oneOrNone_map fun d => by rw [quietDevice_deviceId]
  unfold requireDevice
  rw [hone]
  cases hfound : oneOrNone (fun d => d.deviceId = id) db.devices with
  | none => rfl
  | some found =>
      cases found with
      | none => rfl
      | some device => rfl

theorem oneDevice_seenBy :
    WebhookService.oneDevice (seenBy deviceId db) deviceId =
      WebhookService.oneDevice db deviceId := by
  have hone : oneOrNone (fun d => d.deviceId = deviceId) (seenBy deviceId db).devices =
      (oneOrNone (fun d => d.deviceId = deviceId) db.devices).map
        (Option.map (quietDevice deviceId)) :=
    oneOrNone_map fun d => by rw [quietDevice_deviceId]
  unfold WebhookService.oneDevice
  rw [hone]
  cases hfound : oneOrNone (fun d => d.deviceId = deviceId) db.devices with
  | none => rfl
  | some found =>
      cases found with
      | none => rfl
      | some device =>
          have hown := (mem_of_oneOrNone hfound).2
          rw [decide_eq_true_eq] at hown
          simp only [Option.map_some, quietDevice_self hown]

/-- A new webhook was not called. -/
theorem quietWebhook_newWebhook (id secret : String) (i : ℕ) :
    quietWebhook deviceId { newWebhook env id secret with id := i } =
      { newWebhook env id secret with id := i } := by
  unfold quietWebhook
  split <;> rfl

theorem create_seenBy (hadm : db.Admitted env.schema) (id secret : String) :
    WebhookService.create env (seenBy deviceId db) id secret =
      (WebhookService.create env db id secret).map (asSeen deviceId) := by
  have hcommit : commit env.schema ((seenBy deviceId db).insertWebhook (newWebhook env id secret)) =
      (commit env.schema (db.insertWebhook (newWebhook env id secret))).map (seenBy deviceId) := by
    rw [← seenBy_insertWebhook (quietWebhook_newWebhook id secret)]
    exact commit_seenBy ((othersAdmitted_of_admitted hadm).of_eq rfl rfl rfl)
  unfold WebhookService.create
  refine bind_congr_map (requireDevice_seenBy id) fun device _ => ?_
  exact bind_congr_map hcommit fun db' _ => rfl

/-- A rotation disables what the device sees as it disables the whole. -/
theorem seenBy_rotated (id : String) :
    seenBy deviceId { db with deviceWebhooks := db.deviceWebhooks.map (rotatedWebhook id) } =
      { seenBy deviceId db with
        deviceWebhooks := (seenBy deviceId db).deviceWebhooks.map (rotatedWebhook id) } := by
  have hrow : ∀ w, quietWebhook deviceId (rotatedWebhook id w) =
      rotatedWebhook id (quietWebhook deviceId w) := by
    intro w
    by_cases h : w.deviceId = deviceId
    · have hrotated : (rotatedWebhook id w).deviceId = deviceId := h
      rw [quietWebhook_self h, quietWebhook_self hrotated]
    · simp [quietWebhook, rotatedWebhook, h]
  unfold seenBy
  simp only [List.map_map, Store.mk.injEq, true_and, and_true]
  exact ⟨List.map_congr_left fun w _ => hrow w, rfl⟩

theorem rotate_seenBy (hadm : db.Admitted env.schema) (id secret : String) :
    WebhookService.rotate env (seenBy deviceId db) id secret =
      (WebhookService.rotate env db id secret).map (asSeen deviceId) := by
  have hadm' : (seenBy deviceId db).Admitted env.schema := admitted_seenBy hadm
  have hflush : flushRotate env id secret (deviceItems (seenBy deviceId db) id)
      (seenBy deviceId db) =
        (flushRotate env id secret (deviceItems db id) db).map (seenBy deviceId) := by
    unfold flushRotate
    rw [writeDisabled_deviceItems hadm.2.2.2.1.1, writeDisabled_deviceItems hadm'.2.2.2.1.1,
      ← seenBy_rotated, ← seenBy_insertWebhook (quietWebhook_newWebhook id secret)]
    exact commit_seenBy ((othersAdmitted_of_admitted hadm).of_eq rfl rfl rfl)
  unfold WebhookService.rotate
  refine bind_congr_map (requireDevice_seenBy id) fun device _ => ?_
  exact bind_congr_map hflush fun db' _ => rfl

/-- A new device was not called. -/
theorem quietDevice_newDevice (uuid : Uuid) (nonce : ℕ) (payload : DeviceCreate) (i : ℕ) :
    quietDevice deviceId { DeviceService.newDevice env uuid nonce payload with id := i } =
      { DeviceService.newDevice env uuid nonce payload with id := i } := by
  unfold quietDevice
  split <;> rfl

theorem register_seenBy (hadm : db.Admitted env.schema) (uuid : Uuid) (nonce : ℕ)
    (payload : DeviceCreate) :
    DeviceService.create env (seenBy deviceId db) uuid nonce payload =
      (DeviceService.create env db uuid nonce payload).map (asSeen deviceId) := by
  have hcommit : commit env.schema
      ((seenBy deviceId db).insertDevice (DeviceService.newDevice env uuid nonce payload)) =
        (commit env.schema (db.insertDevice (DeviceService.newDevice env uuid nonce payload))).map
          (seenBy deviceId) := by
    rw [← seenBy_insertDevice (quietDevice_newDevice uuid nonce payload)]
    have hinactive : fitsColumn 32 "inactive" = true := by decide
    exact commit_seenBy ((othersAdmitted_of_admitted hadm).insertDevice hinactive)
  have hnext : nextKey Device.id (seenBy deviceId db).devices = nextKey Device.id db.devices :=
    nextKey_map quietDevice_id db.devices
  unfold DeviceService.create
  refine bind_congr_map hcommit fun db' _ => ?_
  rw [hnext]
  rfl

end

/-! ### Postings -/

section

variable {env : Env} {deviceId : String} {db working : Store} {webhook : DeviceWebhook}
  {device : Device} {event : DeviceEvent} {c : IngestCall}

/-- A statement that fails does so whatever it is about. -/
theorem run_map {α β : Type} (statement : IngestStatement) (f : α → β) (x : Except PyError α) :
    c.run statement (x.map f) = (c.run statement x).map f := by
  unfold IngestCall.run
  split <;> rfl

/-- The constraint notices the same events. -/
theorem addEvent_seenBy (hadm : db.Admitted env.schema) (hown : event.deviceId = deviceId) :
    addEvent env (seenBy deviceId db) event c =
      (addEvent env db event c).map (asSeen deviceId) := by
  have hflush : flushEvent env (seenBy deviceId db) event c =
      (flushEvent env db event c).map (seenBy deviceId) := by
    unfold flushEvent
    rw [← seenBy_insertEvent hown,
      commit_seenBy ((othersAdmitted_of_admitted hadm).insertEvent hown), run_map]
  unfold addEvent
  rw [hflush]
  cases flushEvent env db event c with
  | ok working => rfl
  | error e =>
      cases e with
      | integrityError => exact run_map .rollback (asSeen deviceId) (.ok (db, true))
      | _ => rfl

/-- What the session of a posting for the device holds after the insertion. -/
theorem othersAdmitted_addEvent {r : Store × Bool} (hadm : db.Admitted env.schema)
    (hown : event.deviceId = deviceId) (h : addEvent env db event c = .ok r) :
    r.1.devices = db.devices ∧ r.1.deviceWebhooks = db.deviceWebhooks ∧
      OthersAdmitted env.schema deviceId r.1 := by
  obtain ⟨-, hworking⟩ := addEvent_eq_ok hadm h
  rw [hworking]
  cases r.2 with
  | true => exact ⟨rfl, rfl, othersAdmitted_of_admitted hadm⟩
  | false => exact ⟨rfl, rfl, (othersAdmitted_of_admitted hadm).insertEvent hown⟩

/-- The session of a posting for the device holds the same webhook row. -/
theorem heldWebhook_seenBy (duplicate : Bool) (hown : webhook.deviceId = deviceId)
    (hu : UniqueKey DeviceWebhook.id db.deviceWebhooks) (hw : webhook ∈ db.deviceWebhooks) :
    heldWebhook (seenBy deviceId db) webhook duplicate c = heldWebhook db webhook duplicate c := by
  have hlookup : Tables.lookup DeviceWebhook.id webhook.id db.deviceWebhooks = some webhook :=
    (lookup_eq_some_iff hu).2 ⟨hw, rfl⟩
  have hlookup' : Tables.lookup DeviceWebhook.id webhook.id (seenBy deviceId db).deviceWebhooks =
      some webhook := by
    have hseen : Tables.lookup DeviceWebhook.id webhook.id (seenBy deviceId db).deviceWebhooks =
        (Tables.lookup DeviceWebhook.id webhook.id db.deviceWebhooks).map
          (quietWebhook deviceId) := lookup_map quietWebhook_id webhook.id
    rw [hseen, hlookup, Option.map_some, quietWebhook_self hown]
  unfold heldWebhook
  rw [hlookup, hlookup']

/-- The final commit of a posting for the device. -/
theorem flushCall_seenBy (duplicate : Bool) (hothers : OthersAdmitted env.schema deviceId working)
    (hdu : UniqueKey Device.id working.devices) (hd : device ∈ working.devices)
    (hwu : UniqueKey DeviceWebhook.id working.deviceWebhooks)
    (hw : webhook ∈ working.deviceWebhooks) (hdown : device.deviceId = deviceId)
    (hwown : webhook.deviceId = deviceId) :
    flushCall env (seenBy deviceId working) device webhook duplicate c =
      (flushCall env working device webhook duplicate c).map (seenBy deviceId) := by
  have hwrites : ((seenBy deviceId working).writeDevice device
      (calledDevice duplicate c.now device)).writeWebhook webhook (calledWebhook c.now webhook) =
        seenBy deviceId ((working.writeDevice device
          (calledDevice duplicate c.now device)).writeWebhook webhook
            (calledWebhook c.now webhook)) := by
    have hwu' : UniqueKey DeviceWebhook.id (working.writeDevice device
        (calledDevice duplicate c.now device)).deviceWebhooks := hwu
    rw [seenBy_writeWebhook hwu' hw hwown (by rfl) (by rfl),
      seenBy_writeDevice hdu hd hdown (by rfl) (by rfl)]
  have hothers' : OthersAdmitted env.schema deviceId ((working.writeDevice device
      (calledDevice duplicate c.now device)).writeWebhook webhook (calledWebhook c.now webhook)) :=
    (hothers.writeDevice hdu hd hdown (by rfl) (by rfl)).of_eq rfl rfl rfl
  unfold flushCall
  rw [hwrites, commit_seenBy hothers', run_map, run_map]

/-- **A posting for the device** does to what the device sees what it does to the store. -/
theorem ingest_seenBy (hadm : db.Admitted env.schema) (hw : webhook ∈ db.deviceWebhooks)
    (hown : webhook.deviceId = deviceId) (c : IngestCall) :
    WebhookService.ingest env (seenBy deviceId db) webhook c =
      (WebhookService.ingest env db webhook c).map (asSeen deviceId) := by
  have hwu := hadm.2.2.2.1.1
  unfold WebhookService.ingest
  refine bind_congr_map_right fun fields _ => ?_
  refine bind_congr_map_right fun eventId _ => ?_
  refine bind_congr_map_right fun event hbind => ?_
  have hevent : event.deviceId = deviceId := (bindEvent_eq_ok hbind).1.trans hown
  refine bind_congr_map (addEvent_seenBy hadm hevent) fun added hadd => ?_
  obtain ⟨hdevices, hwebhooks, hothers⟩ := othersAdmitted_addEvent hadm hevent hadd
  obtain ⟨working, duplicate⟩ := added
  simp only [asSeen, heldWebhook_seenBy duplicate hown hwu hw]
  refine bind_congr_map_right fun held hheld => ?_
  obtain rfl := heldWebhook_eq_ok hwu hw hheld
  rw [hown, oneDevice_seenBy]
  refine bind_congr_map_right fun device hdevice => ?_
  obtain ⟨hd, hdown⟩ := oneDevice_eq_ok (run_eq_ok hdevice)
  refine bind_congr_map (flushCall_seenBy duplicate hothers ?_ hd ?_ ?_ hdown hown) fun db' _ => rfl
  · rw [hdevices]
    exact hadm.2.1.1
  · rw [hwebhooks]
    exact hwu
  · rw [hwebhooks]
    exact hw

/-- **A posting for another device** does nothing to what the device sees. -/
theorem seenBy_ingest_other {r : Store × IngestResult} (hadm : db.Admitted env.schema)
    (hw : webhook ∈ db.deviceWebhooks) (hother : webhook.deviceId ≠ deviceId)
    (h : WebhookService.ingest env db webhook c = .ok r) :
    seenBy deviceId r.1 = seenBy deviceId db := by
  obtain ⟨fields, event, -, hbind, -, -, device, hd, hdev, hstore, -⟩ := ingest_eq_ok hadm hw h
  have hevent : event.deviceId ≠ deviceId := by
    rw [(bindEvent_eq_ok hbind).1]
    exact hother
  have hdother : device.deviceId ≠ deviceId := by
    rw [hdev]
    exact hother
  have hdevices : (workingStore r.2.duplicate event db).devices = db.devices :=
    workingStore_devices r.2.duplicate event
  have hwebhooks : (workingStore r.2.duplicate event db).deviceWebhooks = db.deviceWebhooks :=
    workingStore_webhooks r.2.duplicate event
  have hworking : seenBy deviceId (workingStore r.2.duplicate event db) = seenBy deviceId db := by
    unfold workingStore
    split
    · rfl
    · exact seenBy_insertEvent_other hevent
  have hquiet : quietDevice deviceId (calledDevice r.2.duplicate c.now device) =
      quietDevice deviceId device := by
    simp [quietDevice, calledDevice, hdother]
  have hquiet' : quietWebhook deviceId (calledWebhook c.now webhook) =
      quietWebhook deviceId webhook := by
    simp [quietWebhook, calledWebhook, hother]
  have hwrite : seenBy deviceId ((workingStore r.2.duplicate event db).writeDevice device
      (calledDevice r.2.duplicate c.now device)) = seenBy deviceId db := by
    rw [seenBy_writeDevice_other (by rw [hdevices]; exact hadm.2.1.1) (by rw [hdevices]; exact hd)
      (by rfl) hquiet, hworking]
  have hstore' : r.1 = ((workingStore r.2.duplicate event db).writeDevice device
      (calledDevice r.2.duplicate c.now device)).writeWebhook webhook
        (calledWebhook c.now webhook) := hstore
  have hwebhooks' : ((workingStore r.2.duplicate event db).writeDevice device
      (calledDevice r.2.duplicate c.now device)).deviceWebhooks = db.deviceWebhooks := hwebhooks
  rw [hstore', seenBy_writeWebhook_other (by rw [hwebhooks']; exact hadm.2.2.2.1.1)
    (by rw [hwebhooks']; exact hw) (by rfl) hquiet', hwrite]

end

/-! ### Cache queries -/

/-- `OFFSET` and `LIMIT` look at the positions of the rows, and not at what is in them. -/
def SlicesByPosition (driver : Driver) : Prop :=
  ∀ {α β : Type} (f : α → β) (offset limit : ℤ) (rows : List α),
    driver.slice offset limit (rows.map f) = (driver.slice offset limit rows).map (List.map f)

/-- The call on a database that returns rows with equal times in the order of their insertion. -/
def DispatchCall.inInsertionOrder (d : DispatchCall) : DispatchCall :=
  { d with order := insertionOrder }

namespace CommandService

section

variable {env : Env} {deviceId commandType : String} {db db' : Store} {d : DispatchCall}
  {payload : List (Str × Json)} {rows rows' : List DeviceEvent}

/-- The device sees the events that are counted for it. -/
theorem matchingEvents_seenBy (eventType : String) :
    (matchingEvents (seenBy deviceId db) deviceId eventType).map unnumbered =
      (matchingEvents db deviceId eventType).map unnumbered := by
  have hkeep : ∀ e : DeviceEvent, (decide ((unnumbered e).deviceId = deviceId) &&
      decide ((unnumbered e).eventType = eventType)) =
        (decide (e.deviceId = deviceId) && decide (e.eventType = eventType)) := fun _ => rfl
  have hown : matchingEvents db deviceId eventType =
      (ownEvents deviceId db).filter fun e => e.deviceId = deviceId && e.eventType = eventType := by
    unfold matchingEvents ownEvents
    rw [List.filter_filter]
    refine List.filter_congr fun e _ => ?_
    cases decide (e.deviceId = deviceId) <;> simp
  have hseen : matchingEvents (seenBy deviceId db) deviceId eventType =
      (renumbered (ownEvents deviceId db)).filter
        fun e => e.deviceId = deviceId && e.eventType = eventType := rfl
  rw [hown, hseen, ← filter_map_of_keep hkeep, ← filter_map_of_keep hkeep,
    map_renumbered (by exact fun _ _ => rfl)]

/-- The page of a query depends on the rows up to their identifiers. -/
theorem fetchPage_congr (hslice : SlicesByPosition env.driver)
    (hrows : rows.map unnumbered = rows'.map unnumbered) (pageNum pageSize : ℤ) :
    (fetchPage env d.inInsertionOrder rows pageNum pageSize).map
        (List.map DeviceEvent.normalizedPayload) =
      (fetchPage env d.inInsertionOrder rows' pageNum pageSize).map
        (List.map DeviceEvent.normalizedPayload) := by
  have hsort : ∀ rows : List DeviceEvent, (insertionOrder.sort rows).map unnumbered =
      insertionOrder.sort (rows.map unnumbered) := by
    intro rows
    exact List.map_insertionSort _ _ unnumbered rows fun _ _ _ _ => Iff.rfl
  have hpayload : ∀ rows : List DeviceEvent,
      (insertionOrder.sort rows).map DeviceEvent.normalizedPayload =
        ((insertionOrder.sort rows).map unnumbered).map DeviceEvent.normalizedPayload := by
    intro rows
    rw [List.map_map]
    rfl
  have hitems : (env.driver.slice ((pageNum - 1) * pageSize) pageSize
      (insertionOrder.sort rows)).map (List.map DeviceEvent.normalizedPayload) =
        (env.driver.slice ((pageNum - 1) * pageSize) pageSize
          (insertionOrder.sort rows')).map (List.map DeviceEvent.normalizedPayload) := by
    rw [← hslice, ← hslice, hpayload, hpayload, hsort, hsort, hrows]
  unfold fetchPage DispatchCall.inInsertionOrder
  simp only
  cases hpage : env.driver.slice ((pageNum - 1) * pageSize) pageSize (insertionOrder.sort rows) with
  | none =>
      rw [hpage] at hitems
      rw [Option.map_eq_none_iff.1 hitems.symm]
  | some items =>
      rw [hpage] at hitems
      obtain ⟨items', hpage', heq⟩ := Option.map_eq_some_iff.1 hitems.symm
      rw [hpage']
      simp only [Except.map, heq]

/-- What a cache query returns depends on the events up to their identifiers. -/
theorem queryCache_congr (hslice : SlicesByPosition env.driver)
    (hrows : ∀ eventType, (matchingEvents db deviceId eventType).map unnumbered =
      (matchingEvents db' deviceId eventType).map unnumbered) :
    (queryCache env d.inInsertionOrder db deviceId commandType payload).map CachePage.data =
      (queryCache env d.inInsertionOrder db' deviceId commandType payload).map CachePage.data := by
  unfold queryCache
  cases cachedType commandType with
  | error e => rfl
  | ok eventType =>
      simp only [bind, Except.bind]
      cases intOf env (Json.getD payload (py "page_num") (.num (.int 1))) with
      | error e => rfl
      | ok pageNum =>
          simp only
          cases intOf env (Json.getD payload (py "page_size") (.num (.int 10))) with
          | error e => rfl
          | ok pageSize =>
              have hcount := congrArg List.length (hrows eventType)
              rw [List.length_map, List.length_map] at hcount
              have hpage : (fetchPage env d.inInsertionOrder
                  (matchingEvents db deviceId eventType) pageNum pageSize).map
                    (List.map DeviceEvent.normalizedPayload) =
                  (fetchPage env d.inInsertionOrder (matchingEvents db' deviceId eventType) pageNum
                    pageSize).map (List.map DeviceEvent.normalizedPayload) :=
                fetchPage_congr hslice (hrows eventType) pageNum pageSize
              simp only
              cases hitems : fetchPage env d.inInsertionOrder
                  (matchingEvents db deviceId eventType) pageNum pageSize with
              | error e =>
                  rw [hitems] at hpage
                  cases hitems' : fetchPage env d.inInsertionOrder
                      (matchingEvents db' deviceId eventType) pageNum pageSize with
                  | error e' =>
                      rw [hitems'] at hpage
                      obtain rfl : e = e' := Except.error.inj hpage
                      rfl
                  | ok items' =>
                      rw [hitems'] at hpage
                      cases hpage
              | ok items =>
                  rw [hitems] at hpage
                  obtain ⟨items', hitems', heq⟩ := map_eq_ok.1 hpage.symm
                  rw [hitems']
                  simp only [Except.map, pure, Except.pure, CachePage.data, hcount, heq]

end

/-! ### Dispatches -/

section

variable {env : Env} {deviceId id commandType status : String} {db : Store} {d : DispatchCall}
  {device : Device} {log : DeviceCommandLog} {payload response : List (Str × Json)}
  {userId : Option ℤ} {errorMsg : Option String}

/-- What a query for the device returns. -/
theorem query_seenBy (hslice : SlicesByPosition env.driver) :
    query env d.inInsertionOrder (seenBy deviceId db) device deviceId commandType payload =
      query env d.inInsertionOrder db device deviceId commandType payload := by
  unfold query
  rw [queryCache_congr hslice matchingEvents_seenBy]

/-- A new log row is as before the query. -/
theorem quietLog_newLog (i : ℕ) :
    quietLog deviceId { newLog env d device commandType payload userId with id := i } =
      { newLog env d device commandType payload userId with id := i } := by
  unfold quietLog
  split <;> rfl

theorem createLog_seenBy (hadm : db.Admitted env.schema) :
    createLog env d (seenBy deviceId db) (quietDevice deviceId device) commandType payload userId =
      (createLog env d db device commandType payload userId).map (asSeen deviceId) := by
  have hlog : newLog env d (quietDevice deviceId device) commandType payload userId =
      newLog env d device commandType payload userId := by
    unfold newLog
    rw [quietDevice_deviceId, quietDevice_channelType]
  have hpending : fitsColumn 32 "pending" = true := by decide
  have hcommit : commit env.schema ((seenBy deviceId db).insertCommandLog
      (newLog env d device commandType payload userId)) =
        (commit env.schema (db.insertCommandLog
          (newLog env d device commandType payload userId))).map (seenBy deviceId) := by
    rw [← seenBy_insertCommandLog quietLog_newLog]
    exact commit_seenBy ((othersAdmitted_of_admitted hadm).insertCommandLog hpending)
  have hnext : insertedLog (seenBy deviceId db) (newLog env d device commandType payload userId) =
      insertedLog db (newLog env d device commandType payload userId) := by
    have hkey : nextKey DeviceCommandLog.id (seenBy deviceId db).deviceCommandLogs =
        nextKey DeviceCommandLog.id db.deviceCommandLogs :=
      nextKey_map quietLog_id db.deviceCommandLogs
    unfold insertedLog
    rw [hkey]
  unfold createLog
  rw [hlog]
  refine bind_congr_map_right fun u _ => ?_
  refine bind_congr_map hcommit fun db' _ => ?_
  rw [hnext]
  rfl

/-- The log row that was inserted. -/
theorem createLog_eq_ok {r : Store × DeviceCommandLog}
    (h : createLog env d db device commandType payload userId = .ok r) :
    r.1.Admitted env.schema ∧ r.2 ∈ r.1.deviceCommandLogs ∧ r.2.deviceId = device.deviceId := by
  obtain ⟨u, -, h⟩ := bind_eq_ok.1 h
  obtain ⟨db', hcommit, h⟩ := bind_eq_ok.1 h
  obtain ⟨rfl, hadm⟩ := commit_eq_ok.1 hcommit
  cases h
  exact ⟨hadm, List.mem_append_right _ (List.mem_singleton_self _), rfl⟩

/-- The end of a command of the device. -/
theorem finish_seenBy (hadm : db.Admitted env.schema) (hlog : log.deviceId = deviceId) (mode : Str)
    (outcome : Except PyError (List (Str × Json))) :
    finish env d (seenBy deviceId db) log mode outcome =
      ((finish env d db log mode outcome).1,
        seenBy deviceId (finish env d db log mode outcome).2) := by
  have hfinish : ∀ status response errorMsg,
      finishLog env d (seenBy deviceId db) log status response errorMsg =
        (finishLog env d db log status response errorMsg).map (seenBy deviceId) := by
    intro status response errorMsg
    have hnew : (finishedLog env d log status response errorMsg).deviceId = deviceId := hlog
    unfold finishLog
    refine bind_congr_map_right fun u _ => ?_
    rw [← seenBy_writeCommandLog hnew]
    exact commit_seenBy ((othersAdmitted_of_admitted hadm).writeCommandLog hnew)
  unfold finish
  cases outcome with
  | ok data =>
      simp only [hfinish]
      cases finishLog env d db log "success" data none with
      | error e => rfl
      | ok db' => rfl
  | error e =>
      simp only [hfinish]
      cases finishLog env d db log "failed" [] (some (failure d e).1) with
      | error e' => rfl
      | ok db' => rfl

/-- The end of a command of another device is not seen. -/
theorem seenBy_finish_other (hadm : db.Admitted env.schema) (hmem : log ∈ db.deviceCommandLogs)
    (hother : log.deviceId ≠ deviceId) (mode : Str)
    (outcome : Except PyError (List (Str × Json))) :
    seenBy deviceId (finish env d db log mode outcome).2 = seenBy deviceId db := by
  have hfinish : ∀ status response errorMsg db',
      finishLog env d db log status response errorMsg = .ok db' →
        seenBy deviceId db' = seenBy deviceId db := by
    intro status response errorMsg db' h
    obtain ⟨u, -, h⟩ := bind_eq_ok.1 h
    obtain ⟨rfl, -⟩ := commit_eq_ok.1 h
    refine seenBy_writeCommandLog_other hadm.2.2.2.2.2.1.1 hmem ?_
    simp [quietLog, finishedLog, hother]
  unfold finish
  cases outcome with
  | ok data =>
      simp only
      cases hok : finishLog env d db log "success" data none with
      | error e => rfl
      | ok db' => exact hfinish _ _ _ _ hok
  | error e =>
      simp only
      cases hok : finishLog env d db log "failed" [] (some (failure d e).1) with
      | error e' => rfl
      | ok db' => exact hfinish _ _ _ _ hok

/-- **A command of the device** does to what the device sees what it does to the store. -/
theorem dispatch_seenBy (hslice : SlicesByPosition env.driver) (hadm : db.Admitted env.schema) :
    dispatch env d.inInsertionOrder (seenBy deviceId db) deviceId commandType payload userId =
      ((dispatch env d.inInsertionOrder db deviceId commandType payload userId).1,
        seenBy deviceId
          (dispatch env d.inInsertionOrder db deviceId commandType payload userId).2) := by
  unfold dispatch
  rw [requireDevice_seenBy]
  cases hdevice : requireDevice db deviceId with
  | error e => rfl
  | ok device =>
      obtain ⟨-, hown⟩ := requireDevice_eq_ok hdevice
      simp only [Except.map, createLog_seenBy hadm]
      cases hcreate : createLog env d.inInsertionOrder db device commandType payload userId with
      | error e => rfl
      | ok r =>
          obtain ⟨db', log⟩ := r
          obtain ⟨hadm', -, hlog⟩ := createLog_eq_ok hcreate
          simp only [asSeen, quietDevice_self hown, query_seenBy hslice]
          exact finish_seenBy hadm' (hlog.trans hown) _ _

/-- The store of a dispatch whose log row is inserted. -/
def loggedStore (env : Env) (d : DispatchCall) (db : Store) (id commandType : String)
    (payload : List (Str × Json)) (userId : Option ℤ) : Store :=
  match requireDevice db id with
  | .error _ => db
  | .ok device =>
      match createLog env d db device commandType payload userId with
      | .error _ => db
      | .ok r => r.1

/-- Of a command of another device the device sees nothing but that it was logged. -/
theorem seenBy_dispatch_other (hother : id ≠ deviceId) :
    seenBy deviceId (dispatch env d db id commandType payload userId).2 =
      seenBy deviceId (loggedStore env d db id commandType payload userId) := by
  unfold dispatch loggedStore
  cases hdevice : requireDevice db id with
  | error e => rfl
  | ok device =>
      simp only
      cases hcreate : createLog env d db device commandType payload userId with
      | error e => rfl
      | ok r =>
          obtain ⟨db', log⟩ := r
          obtain ⟨hadm', hmem, hlog⟩ := createLog_eq_ok hcreate
          refine seenBy_finish_other hadm' hmem ?_ _ _
          rw [hlog, (requireDevice_eq_ok hdevice).2]
          exact hother

theorem loggedStore_seenBy (hadm : db.Admitted env.schema) :
    loggedStore env d (seenBy deviceId db) id commandType payload userId =
      seenBy deviceId (loggedStore env d db id commandType payload userId) := by
  unfold loggedStore
  rw [requireDevice_seenBy]
  cases requireDevice db id with
  | error e => rfl
  | ok device =>
      simp only [Except.map, createLog_seenBy hadm]
      cases createLog env d db device commandType payload userId with
      | error e => rfl
      | ok r => rfl

end

end CommandService

/-! ### Runs -/

/-- The calls of a run: those of the webhook service, and commands. -/
inductive ServiceOp
  | webhook (op : WebhookOp)
  | dispatch (d : DispatchCall) (deviceId commandType : String) (payload : List (Str × Json))
      (userId : Option ℤ)

/-- What a call returns. -/
inductive ServiceAnswer
  | webhook (answer : WebhookAnswer)
  | dispatched (answer : CommandService.DispatchAnswer)

/-- The call with its answer and the store it leaves. -/
def ServiceOp.exec (env : Env) (db : Store) : ServiceOp → Except PyError ServiceAnswer × Store
  | webhook op => ((op.exec env db).1.map .webhook, (op.exec env db).2)
  | dispatch d deviceId commandType payload userId =>
      let r := CommandService.dispatch env d.inInsertionOrder db deviceId commandType payload userId
      (r.1.map .dispatched, r.2)

/-- The call is a posting through a webhook of another device. -/
def ServiceOp.foreign (deviceId : String) (db : Store) : ServiceOp → Bool
  | webhook (.ingest webhookId _) =>
      (Tables.lookup DeviceWebhook.id webhookId db.deviceWebhooks).any fun w =>
        w.deviceId ≠ deviceId
  | _ => false

/-- The call concerns the device. -/
def ServiceOp.concerns (deviceId : String) (db : Store) : ServiceOp → Bool
  | webhook (.register uuid _ _) => generateDeviceId uuid = deviceId
  | webhook (.create id _) => id = deviceId
  | webhook (.rotate id _) => id = deviceId
  | webhook (.ingest webhookId _) =>
      (Tables.lookup DeviceWebhook.id webhookId db.deviceWebhooks).any fun w =>
        w.deviceId = deviceId
  | dispatch _ id _ _ _ => id = deviceId

/-- An executed call of a run. -/
abbrev ServiceCall := Call Store ServiceOp (Except PyError ServiceAnswer)

/-- The answer of a call that concerns the device. -/
def answerFor (deviceId : String) (c : ServiceCall) : Option (Except PyError ServiceAnswer) :=
  if c.op.concerns deviceId c.before then some c.answer else none

/-- The answers of the calls that concern the device. -/
def answersFor (deviceId : String) (tr : List ServiceCall) : List (Except PyError ServiceAnswer) :=
  tr.filterMap (answerFor deviceId)

section

variable {env : Env} {deviceId : String} {db : Store}

/-- A webhook of the device is its own in what it sees, and one of another device is not. -/
theorem lookup_seenBy (webhookId : ℕ) (p : String → Bool) :
    (Tables.lookup DeviceWebhook.id webhookId (seenBy deviceId db).deviceWebhooks).any
        (fun w => p w.deviceId) =
      (Tables.lookup DeviceWebhook.id webhookId db.deviceWebhooks).any fun w => p w.deviceId := by
  have hseen : Tables.lookup DeviceWebhook.id webhookId (seenBy deviceId db).deviceWebhooks =
      (Tables.lookup DeviceWebhook.id webhookId db.deviceWebhooks).map (quietWebhook deviceId) :=
    lookup_map quietWebhook_id webhookId
  rw [hseen]
  cases Tables.lookup DeviceWebhook.id webhookId db.deviceWebhooks with
  | none => rfl
  | some w => exact congrArg p (quietWebhook_deviceId w)

theorem concerns_seenBy (op : ServiceOp) :
    op.concerns deviceId (seenBy deviceId db) = op.concerns deviceId db := by
  cases op with
  | webhook op =>
      cases op with
      | ingest webhookId posting => exact lookup_seenBy webhookId fun id => id = deviceId
      | register | create | rotate => rfl
  | dispatch d id commandType payload userId => rfl

/-- **A call of the webhook service that is no posting for another device** does to what the device
sees what it does to the store. -/
theorem run_seenBy {op : WebhookOp} (hadm : db.Admitted env.schema)
    (hforeign : (ServiceOp.webhook op).foreign deviceId db = false) :
    op.run env (seenBy deviceId db) = (op.run env db).map (asSeen deviceId) := by
  cases op with
  | register uuid nonce payload =>
      unfold WebhookOp.run
      simp only [register_seenBy hadm]
      cases DeviceService.create env db uuid nonce payload <;> rfl
  | create id secret =>
      unfold WebhookOp.run
      simp only [create_seenBy hadm]
      cases WebhookService.create env db id secret <;> rfl
  | rotate id secret =>
      unfold WebhookOp.run
      simp only [rotate_seenBy hadm]
      cases WebhookService.rotate env db id secret <;> rfl
  | ingest webhookId posting =>
      have hseen : Tables.lookup DeviceWebhook.id webhookId (seenBy deviceId db).deviceWebhooks =
          (Tables.lookup DeviceWebhook.id webhookId db.deviceWebhooks).map
            (quietWebhook deviceId) := lookup_map quietWebhook_id webhookId
      unfold WebhookOp.run loadWebhook
      simp only [hseen]
      cases hfound : Tables.lookup DeviceWebhook.id webhookId db.deviceWebhooks with
      | none => rfl
      | some webhook =>
          have hw := ((lookup_eq_some_iff hadm.2.2.2.1.1).1 hfound).1
          have hown : webhook.deviceId = deviceId := by
            simpa [ServiceOp.foreign, hfound] using hforeign
          simp only [Option.map_some, quietWebhook_self hown, bind, Except.bind,
            ingest_seenBy hadm hw hown posting]
          cases WebhookService.ingest env db webhook posting <;> rfl

/-- The database accepts the store after every dispatch. -/
theorem admitted_dispatch {d : DispatchCall} {id commandType : String}
    {payload : List (Str × Json)} {userId : Option ℤ} (hadm : db.Admitted env.schema) :
    (CommandService.dispatch env d db id commandType payload userId).2.Admitted env.schema := by
  rcases CommandService.dispatch_store_cases env d db id commandType payload userId with
    hkeep | ⟨device, db', log, hcreate, hlogged | ⟨status, response, errorMsg, hfinish⟩⟩
  · rwa [hkeep]
  · rw [hlogged]
    exact (CommandService.createLog_eq_ok hcreate).1
  · obtain ⟨u, -, hfinish⟩ := bind_eq_ok.1 hfinish
    obtain ⟨hdb, hadm'⟩ := commit_eq_ok.1 hfinish
    rwa [hdb]

theorem admitted_exec (op : ServiceOp) (hadm : db.Admitted env.schema) :
    (op.exec env db).2.Admitted env.schema := by
  cases op with
  | webhook op => exact (credentials_exec op hadm).1
  | dispatch d id commandType payload userId => exact admitted_dispatch hadm

/-- A posting for another device is not seen. -/
theorem seenBy_exec_of_foreign {op : ServiceOp} (hadm : db.Admitted env.schema)
    (hforeign : op.foreign deviceId db = true) :
    seenBy deviceId (op.exec env db).2 = seenBy deviceId db := by
  cases op with
  | dispatch d id commandType payload userId => cases hforeign
  | webhook op =>
      cases op with
      | register uuid nonce payload => cases hforeign
      | create id secret => cases hforeign
      | rotate id secret => cases hforeign
      | ingest webhookId posting =>
          refine attempt_keeps (P := fun db' => seenBy deviceId db' = seenBy deviceId db) rfl
            fun db' _ hr => ?_
          obtain ⟨webhook, hload, hr⟩ := bind_eq_ok.1 hr
          obtain ⟨r, hok, hr⟩ := bind_eq_ok.1 hr
          cases hr
          obtain ⟨hw, hid⟩ := (loadWebhook_eq_ok hadm.2.2.2.1.1).1 hload
          have hfound : Tables.lookup DeviceWebhook.id webhookId db.deviceWebhooks =
              some webhook := (lookup_eq_some_iff hadm.2.2.2.1.1).2 ⟨hw, hid⟩
          have hother : webhook.deviceId ≠ deviceId := by
            simpa [ServiceOp.foreign, hfound] using hforeign
          exact seenBy_ingest_other hadm hw hother hok

/-- **A call that is no posting for another device** does to what the device sees what it does to
the store. -/
theorem exec_seenBy {op : ServiceOp} (hslice : SlicesByPosition env.driver)
    (hadm : db.Admitted env.schema) (hforeign : op.foreign deviceId db = false) :
    seenBy deviceId (op.exec env db).2 = seenBy deviceId (op.exec env (seenBy deviceId db)).2 ∧
      (op.concerns deviceId db = true →
        (op.exec env db).1 = (op.exec env (seenBy deviceId db)).1) := by
  cases op with
  | webhook op =>
      have hexec : op.exec env (seenBy deviceId db) =
          ((op.exec env db).1, seenBy deviceId (op.exec env db).2) := by
        unfold WebhookOp.exec
        rw [run_seenBy hadm hforeign]
        exact attempt_map (seenBy deviceId) (op.run env db) db
      simp only [ServiceOp.exec, hexec, seenBy_seenBy, implies_true, and_self]
  | dispatch d id commandType payload userId =>
      by_cases hown : id = deviceId
      · subst hown
        simp only [ServiceOp.exec, CommandService.dispatch_seenBy hslice hadm, seenBy_seenBy,
          implies_true, and_self]
      · refine ⟨?_, fun hconcerns => absurd (of_decide_eq_true hconcerns) hown⟩
        simp only [ServiceOp.exec]
        rw [CommandService.seenBy_dispatch_other hown, CommandService.seenBy_dispatch_other hown,
          CommandService.loggedStore_seenBy hadm, seenBy_seenBy]

/-- The postings for other devices are hidden from the device. -/
theorem unwinds_seenBy (hslice : SlicesByPosition env.driver) :
    Unwinding.Unwinds (ServiceOp.exec env) (fun db => db.Admitted env.schema)
      (ServiceOp.foreign deviceId) (seenBy deviceId) (answerFor deviceId) := by
  refine Unwinding.unwinds_of_projection (fun db op hadm => admitted_exec op hadm)
    (fun db op hadm hforeign => seenBy_exec_of_foreign hadm hforeign)
    fun db op hadm hforeign => ?_
  obtain ⟨hstore, hanswer⟩ := exec_seenBy hslice hadm hforeign
  refine ⟨hstore, ?_⟩
  unfold answerFor
  show (if op.concerns deviceId db = true then some (op.exec env db).1 else none) =
    if op.concerns deviceId (seenBy deviceId db) = true then
      some (op.exec env (seenBy deviceId db)).1 else none
  rw [concerns_seenBy]
  by_cases hconcerns : op.concerns deviceId db = true
  · rw [if_pos hconcerns, if_pos hconcerns, hanswer hconcerns]
  · rw [if_neg hconcerns, if_neg hconcerns]

end

/-! ### Two runs -/

/-- The calls of a run that are no postings for other devices. -/
def ownTraffic (env : Env) (deviceId : String) (db : Store) (ops : List ServiceOp) :
    List ServiceOp :=
  (Unwinding.visible (ServiceOp.foreign deviceId) (trace (ServiceOp.exec env) db ops)).map Call.op

/-- What two runs have in common for a device: its events up to their row identifiers, its row and
those of its webhooks with all counters, what its calls were answered, and what every cache query
returns. -/
structure AlikeFor (env : Env) (deviceId : String) (db : Store) (ops ops' : List ServiceOp) :
    Prop where
  events : (ownEvents deviceId (final (ServiceOp.exec env) db ops)).map unnumbered =
    (ownEvents deviceId (final (ServiceOp.exec env) db ops')).map unnumbered
  devices : ((final (ServiceOp.exec env) db ops).devices.filter fun d => d.deviceId = deviceId) =
    (final (ServiceOp.exec env) db ops').devices.filter fun d => d.deviceId = deviceId
  webhooks :
    ((final (ServiceOp.exec env) db ops).deviceWebhooks.filter fun w => w.deviceId = deviceId) =
      (final (ServiceOp.exec env) db ops').deviceWebhooks.filter fun w => w.deviceId = deviceId
  answers : answersFor deviceId (trace (ServiceOp.exec env) db ops) =
    answersFor deviceId (trace (ServiceOp.exec env) db ops')
  queries : ∀ (d : DispatchCall) (commandType : String) (payload : List (Str × Json)),
    (CommandService.queryCache env d.inInsertionOrder (final (ServiceOp.exec env) db ops) deviceId
        commandType payload).map CommandService.CachePage.data =
      (CommandService.queryCache env d.inInsertionOrder (final (ServiceOp.exec env) db ops')
        deviceId commandType payload).map CommandService.CachePage.data

section

variable {env : Env} {deviceId : String} {db db' : Store}

/-- What the device sees determines its own rows. -/
theorem own_of_seenBy (h : seenBy deviceId db = seenBy deviceId db') :
    (ownEvents deviceId db).map unnumbered = (ownEvents deviceId db').map unnumbered ∧
      (db.devices.filter fun d => d.deviceId = deviceId) =
        (db'.devices.filter fun d => d.deviceId = deviceId) ∧
      (db.deviceWebhooks.filter fun w => w.deviceId = deviceId) =
        db'.deviceWebhooks.filter fun w => w.deviceId = deviceId := by
  have hevents : (seenBy deviceId db).deviceEvents.map unnumbered =
      (seenBy deviceId db').deviceEvents.map unnumbered := by rw [h]
  have hdevices : ∀ db : Store,
      ((seenBy deviceId db).devices.filter fun d => d.deviceId = deviceId) =
        db.devices.filter fun d => d.deviceId = deviceId := by
    intro db
    refine filter_map_of_self (fun d => by rw [quietDevice_deviceId]) fun d hd => ?_
    exact quietDevice_self (of_decide_eq_true hd)
  have hwebhooks : ∀ db : Store,
      ((seenBy deviceId db).deviceWebhooks.filter fun w => w.deviceId = deviceId) =
        db.deviceWebhooks.filter fun w => w.deviceId = deviceId := by
    intro db
    refine filter_map_of_self (fun w => by rw [quietWebhook_deviceId]) fun w hw => ?_
    exact quietWebhook_self (of_decide_eq_true hw)
  refine ⟨?_, ?_, ?_⟩
  · have hown : ∀ db : Store, (seenBy deviceId db).deviceEvents.map unnumbered =
        (ownEvents deviceId db).map unnumbered := by
      intro db
      exact map_renumbered (by exact fun _ _ => rfl) _
    rw [← hown, ← hown, hevents]
  · rw [← hdevices db, ← hdevices db', h]
  · rw [← hwebhooks db, ← hwebhooks db', h]

/-- A posting for another device does not concern the device. -/
theorem answerFor_of_foreign {c : ServiceCall} (h : c.op.foreign deviceId c.before = true) :
    answerFor deviceId c = none := by
  obtain ⟨db, op, answer, db'⟩ := c
  cases op with
  | dispatch d id commandType payload userId => cases h
  | webhook op =>
      cases op with
      | register | create | rotate => cases h
      | ingest webhookId posting =>
          refine if_neg fun hconcerns => ?_
          obtain ⟨w, hw, hother⟩ := (Option.any_eq_true _ _).1 h
          obtain ⟨w', hw', hown⟩ := (Option.any_eq_true _ _).1 hconcerns
          obtain rfl : w = w' := Option.some.inj (hw.symm.trans hw')
          exact of_decide_eq_true hother (of_decide_eq_true hown)

/-- The calls that concern the device are no postings for others. -/
theorem answersFor_eq (tr : List ServiceCall) :
    answersFor deviceId tr =
      (Unwinding.visible (ServiceOp.foreign deviceId) tr).filterMap (answerFor deviceId) := by
  induction tr with
  | nil => rfl
  | cons c tr ih =>
      unfold answersFor Unwinding.visible at ih ⊢
      cases hforeign : c.op.foreign deviceId c.before with
      | true =>
          rw [List.filterMap_cons_none (answerFor_of_foreign hforeign), ih,
            List.filter_cons_of_neg (by simp [hforeign])]
      | false =>
          rw [List.filter_cons_of_pos (by simp [hforeign]), List.filterMap_cons,
            List.filterMap_cons, ih]

/-- **Postings for other devices do not matter to a device.**  Runs from one store with the same
calls, in the same order, but for postings through webhooks of other devices, are alike for it. -/
theorem alikeFor_of_same_calls (env : Env) (hslice : SlicesByPosition env.driver)
    (deviceId : String) (db : Store) (hadm : db.Admitted env.schema) (ops ops' : List ServiceOp)
    (hsame : ownTraffic env deviceId db ops = ownTraffic env deviceId db ops') :
    AlikeFor env deviceId db ops ops' := by
  obtain ⟨hview, houts⟩ := (unwinds_seenBy hslice).noninterference hadm hadm rfl hsame
  obtain ⟨hevents, hdevices, hwebhooks⟩ := own_of_seenBy hview
  refine ⟨hevents, hdevices, hwebhooks, ?_, fun d commandType payload => ?_⟩
  · have hcollect := congrArg (List.filterMap id) houts
    rw [List.filterMap_map, List.filterMap_map] at hcollect
    rw [answersFor_eq, answersFor_eq]
    exact hcollect
  · refine CommandService.queryCache_congr hslice fun eventType => ?_
    have hseen : (CommandService.matchingEvents
        (seenBy deviceId (final (ServiceOp.exec env) db ops)) deviceId eventType).map unnumbered =
      (CommandService.matchingEvents (final (ServiceOp.exec env) db ops) deviceId eventType).map
        unnumbered := CommandService.matchingEvents_seenBy eventType
    rw [hview] at hseen
    exact hseen.symm.trans (CommandService.matchingEvents_seenBy eventType)

end

/-- A driver that counts rows looks at their positions only. -/
theorem slicesByPosition_plainDriver : SlicesByPosition plainDriver := by
  intro α β f offset limit rows
  unfold plainDriver
  simp only [List.length_map]
  split
  · simp only [Option.map_some, List.map_take, List.map_drop]
  · rfl

/-- Two devices, each with a webhook. -/
def twoDevices : Store where
  devices :=
    [{ DeviceService.newDevice (plainEnv ormSchema) Uuid.nil 0 {} with id := 1, deviceId := "a" },
      { DeviceService.newDevice (plainEnv ormSchema) Uuid.nil 0 {} with id := 2, deviceId := "b" }]
  deviceTunnels := []
  deviceWebhooks :=
    [{ newWebhook (plainEnv ormSchema) "a" "s" with id := 1 },
      { newWebhook (plainEnv ormSchema) "b" "t" with id := 2 }]
  deviceEvents := []
  deviceCommandLogs := []
  auditLogs := []

/-- A posting through a webhook, of a payload that says it is an event of the first device. -/
def claimedPosting (webhookId : ℕ) : ServiceOp :=
  .webhook (.ingest webhookId
    { payload := .obj [(py "device_id", .str (py "a")), (py "id", .str (py "x"))]
      sourceIp := none
      parsedAt := 0
      now := 0 })

/-- The same payload through the other device's webhook is another event. -/
theorem claimed_posting_alike :
    AlikeFor (plainEnv ormSchema) "a" twoDevices [claimedPosting 2, claimedPosting 1]
        [claimedPosting 1] ∧
      (final (ServiceOp.exec (plainEnv ormSchema)) twoDevices
        [claimedPosting 2, claimedPosting 1]).deviceEvents.map DeviceEvent.deviceId = ["b", "a"] :=
  ⟨alikeFor_of_same_calls (plainEnv ormSchema) slicesByPosition_plainDriver "a" twoDevices
    (by decide) _ _ (by rfl), by rfl⟩

end SmsForwarder
