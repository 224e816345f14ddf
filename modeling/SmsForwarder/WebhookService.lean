/-
**The webhook service.**

A device gets webhooks, each with a secret token of which only the hash is stored; a rotation
disables all of them and issues a new one.  The phone posts its events to a webhook: an event is
stored once, the counters of the device and of the webhook are advanced, and the device counts as
active.  The call that stores an event runs several statements in one transaction, each of which
may fail; a repeated event is noticed by the constraint its insertion violates.  The code takes every
`IntegrityError` for a repeated event; in the model only the unique constraint raises one, because
its drivers bind no value as `NULL`.

Main definitions:

* `SmsForwarder.parseWebhookPayload` — the type and the identifier of a posted event;
* `SmsForwarder.WebhookService.create`, `SmsForwarder.WebhookService.rotate`,
  `SmsForwarder.WebhookService.lookup`, `SmsForwarder.WebhookService.ingest` — the calls;
* `SmsForwarder.WebhookService.IngestStatement` — the statements of `ingest`, any of which may fail.

Main results:

* `SmsForwarder.WebhookService.create_eq_ok`, `SmsForwarder.WebhookService.rotate_eq_ok`,
  `SmsForwarder.WebhookService.ingest_eq_ok` — all that a successful call can do;
* `SmsForwarder.WebhookService.lookup_eq` — what a lookup finds.
-/

import SmsForwarder.DeviceService

set_option relaxedAutoImplicit false
set_option autoImplicit false

namespace SmsForwarder

open Py Tables

/-! ### Posted events -/

def VALID_EVENT_TYPES : List Str :=
  ["sms", "call", "notification", "battery", "heartbeat"].map py

/-- The fields of a parsed payload. -/
structure ParsedPayload where
  eventId : Json
  eventType : Str
  eventTime : Timestamp
  normalizedPayload : Json

/-- `str(payload.get("event_type") or payload.get("type") or "").lower()`. -/
def declaredType (rt : Runtime) (payload : List (Str × Json)) : Str :=
  let eventType := Json.get payload (py "event_type")
  let type := Json.get payload (py "type")
  rt.lower (rt.str (eventType.orElse (type.orElse (.str []))))

/-- The event type that is stored for a declared type. -/
def storedType (declared : Str) : Str :=
  if declared ∈ VALID_EVENT_TYPES then declared else py "notification"

/-- `parse_webhook_payload`. -/
def parseWebhookPayload (rt : Runtime) (payload : List (Str × Json)) (now : Timestamp) :
    ParsedPayload where
  eventId := (Json.get payload (py "event_id")).orElse (Json.get payload (py "id"))
  eventType := storedType (declaredType rt payload)
  eventTime := now
  normalizedPayload := .obj payload

namespace WebhookService

variable (env : Env)

/-! ### Tokens -/

/-- `hash_token`. -/
def hashToken (token : String) : String := env.sha256Hex token

/-- `f"wh_{secrets.token_urlsafe(32)}"`, from the random part. -/
def newToken (secret : String) : String := "wh_" ++ secret

/-- The row `create` adds to the session, with the column defaults. -/
def newWebhook (deviceId secret : String) : DeviceWebhook where
  id := 0
  deviceId := deviceId
  webhookTokenHash := hashToken env (newToken secret)
  webhookTokenPrefix := String.ofList ((newToken secret).toList.take 8)
  enabled := true
  lastCalledAt := none
  calledCount := 0

/-- The answer of `create`. -/
structure IssuedToken where
  webhookUrl : String
  webhookToken : String
  deriving DecidableEq, Repr

def issuedToken (secret : String) : IssuedToken where
  webhookUrl := String.ofList (env.settings.publicBaseUrl.toList.rdropWhile (· = '/')) ++
    "/api/v1/webhooks/smsforwarder/" ++ newToken secret
  webhookToken := newToken secret

/-- `WebhookService.create`. -/
def create (db : Store) (deviceId secret : String) : Except PyError (Store × IssuedToken) := do
  let _ ← requireDevice db deviceId
  let db' ← commit env.schema (db.insertWebhook (newWebhook env deviceId secret))
  pure (db', issuedToken env secret)

/-- `item.enabled = False`. -/
def disabledWebhook (item : DeviceWebhook) : DeviceWebhook := { item with enabled := false }

/-- The rows of a device, as `rotate` loads them. -/
def deviceItems (db : Store) (deviceId : String) : List DeviceWebhook :=
  db.deviceWebhooks.filter fun w => w.deviceId = deviceId

/-- The flush of the loaded rows that were disabled. -/
def writeDisabled (items : List DeviceWebhook) (db : Store) : Store :=
  items.foldl (fun db item => db.writeWebhook item (disabledWebhook item)) db

/-- The commit of a `rotate` that loaded the rows `items`. -/
def flushRotate (deviceId secret : String) (items : List DeviceWebhook) (db : Store) :
    Except PyError Store :=
  commit env.schema ((writeDisabled items db).insertWebhook (newWebhook env deviceId secret))

/-- `WebhookService.rotate`. -/
def rotate (db : Store) (deviceId secret : String) : Except PyError (Store × IssuedToken) := do
  let oldItems := deviceItems db deviceId
  let _ ← requireDevice db deviceId
  let db' ← flushRotate env deviceId secret oldItems db
  pure (db', issuedToken env secret)

/-- `WebhookService.lookup`. -/
def lookup (db : Store) (token : String) : Except PyError DeviceWebhook :=
  match oneOrNone (fun w => w.webhookTokenHash = hashToken env token && w.enabled)
      db.deviceWebhooks with
  | none => .error .multipleResultsFound
  | some none => .error (.app (UnauthorizedError "invalid webhook token"))
  | some (some webhook) => .ok webhook

/-! ### `ingest` -/

/-- The statements of `ingest`. -/
inductive IngestStatement
  | insertEvent
  | rollback
  /-- the reload of the webhook row, which the rollback expired -/
  | reloadWebhook
  | selectDevice
  | updateRows
  | commit
  deriving DecidableEq, Repr

/-- What reaches `ingest` besides the webhook row: the body, the address of the sender, the two
readings of the clock, and which statements fail. -/
structure IngestCall where
  payload : Json
  sourceIp : Option String
  parsedAt : Timestamp
  now : Timestamp
  fails : IngestStatement → Bool := fun _ => false

/-- The answer of `ingest`. -/
structure IngestResult where
  duplicate : Bool
  eventId : Json
  eventType : Str

/-- A statement, unless it fails. -/
def IngestCall.run {α : Type} (c : IngestCall) (statement : IngestStatement)
    (x : Except PyError α) : Except PyError α :=
  if c.fails statement then .error .operationalError else x

/-- `payload.get`: only a dictionary has it. -/
def payloadFields : Json → Except PyError (List (Str × Json))
  | .obj fields => .ok fields
  | _ => .error .attributeError

/-- `stable_event_id`. -/
def stableEventId (deviceId : String) (eventType : Str) (payload : Json) : Except PyError Json :=
  match encode (py deviceId ++ py "|" ++ eventType ++ py "|" ++ env.runtime.dumps payload) with
  | some source => .ok (.str (py (env.sha256Hex source)))
  | none => .error .unicodeEncodeError

/-- `parsed["event_id"] or stable_event_id(...)`. -/
def eventIdOf (deviceId : String) (parsed : ParsedPayload) : Except PyError Json :=
  if parsed.eventId.truthy then .ok parsed.eventId
  else stableEventId env deviceId parsed.eventType parsed.normalizedPayload

/-- The parameters of the insertion, as the driver binds them. -/
def bindEvent (deviceId : String) (eventId : Json) (parsed : ParsedPayload) (c : IngestCall) :
    Except PyError DeviceEvent :=
  match env.driver.bindText eventId, env.driver.bindText (.str parsed.eventType),
      env.driver.acceptsJson c.payload with
  | some eventId, some eventType, true => .ok
      { id := 0, eventId, deviceId, eventType, eventTime := parsed.eventTime,
        normalizedPayload := parsed.normalizedPayload, rawPayload := c.payload,
        sourceIp := c.sourceIp, createdAt := c.now }
  | _, _, _ => .error .statementError

/-- `self.db.add(event)` and `self.db.flush()`. -/
def flushEvent (db : Store) (event : DeviceEvent) (c : IngestCall) : Except PyError Store :=
  c.run .insertEvent (SmsForwarder.commit env.schema (db.insertEvent event))

/-- The `try` statement: the store the transaction sees, and `duplicate`. -/
def addEvent (db : Store) (event : DeviceEvent) (c : IngestCall) :
    Except PyError (Store × Bool) :=
  match flushEvent env db event c with
  | .ok working => .ok (working, false)
  | .error .integrityError => c.run .rollback (.ok (db, true))
  | .error e => .error e

/-- The webhook as the session holds it: a rollback expired it, so that it is loaded again. -/
def heldWebhook (db : Store) (webhook : DeviceWebhook) (duplicate : Bool) (c : IngestCall) :
    Except PyError DeviceWebhook :=
  if duplicate then
    c.run .reloadWebhook
      (match Tables.lookup DeviceWebhook.id webhook.id db.deviceWebhooks with
      | some w => .ok w
      | none => .error .noResultFound)
  else .ok webhook

/-- `query(Device).filter(...).one()`. -/
def oneDevice (db : Store) (deviceId : String) : Except PyError Device :=
  match oneOrNone (fun d => d.deviceId = deviceId) db.devices with
  | none => .error .multipleResultsFound
  | some none => .error .noResultFound
  | some (some device) => .ok device

/-- The device row as `ingest` leaves it. -/
def calledDevice (duplicate : Bool) (now : Timestamp) (device : Device) : Device :=
  { device with
    lastSeenAt := some now
    lastWebhookAt := some now
    isActive := true
    status := "active"
    webhookCount := if duplicate then device.webhookCount else device.webhookCount + 1 }

/-- The webhook row as `ingest` leaves it. -/
def calledWebhook (now : Timestamp) (webhook : DeviceWebhook) : DeviceWebhook :=
  { webhook with lastCalledAt := some now, calledCount := webhook.calledCount + 1 }

/-- The final commit. -/
def flushCall (working : Store) (device : Device) (webhook : DeviceWebhook) (duplicate : Bool)
    (c : IngestCall) : Except PyError Store :=
  c.run .updateRows (c.run .commit (SmsForwarder.commit env.schema
    ((working.writeDevice device (calledDevice duplicate c.now device)).writeWebhook webhook
      (calledWebhook c.now webhook))))

/-- `WebhookService.ingest`. -/
def ingest (db : Store) (webhook : DeviceWebhook) (c : IngestCall) :
    Except PyError (Store × IngestResult) := do
  let fields ← payloadFields c.payload
  let parsed := parseWebhookPayload env.runtime fields c.parsedAt
  let eventId ← eventIdOf env webhook.deviceId parsed
  let event ← bindEvent env webhook.deviceId eventId parsed c
  let (working, duplicate) ← addEvent env db event c
  let webhook ← heldWebhook db webhook duplicate c
  let device ← c.run .selectDevice (oneDevice working webhook.deviceId)
  let db' ← flushCall env working device webhook duplicate c
  pure (db', { duplicate, eventId, eventType := parsed.eventType })

/-! ### What the calls can do -/

section

variable {env} {db : Store} {deviceId secret : String}

/-- All that a successful `create` can do: add an enabled row with a new token. -/
theorem create_eq_ok {r : Store × IssuedToken} (h : create env db deviceId secret = .ok r) :
    (∃ device ∈ db.devices, device.deviceId = deviceId) ∧
      r.1 = db.insertWebhook (newWebhook env deviceId secret) ∧ r.1.Admitted env.schema ∧
      r.2 = issuedToken env secret := by
  obtain ⟨device, hdevice, h⟩ := bind_eq_ok.1 h
  obtain ⟨db', hcommit, h⟩ := bind_eq_ok.1 h
  obtain ⟨rfl, hadm⟩ := commit_eq_ok.1 hcommit
  cases h
  exact ⟨⟨device, requireDevice_eq_ok hdevice⟩, rfl, hadm, rfl⟩

/-- Whether a loaded row would disable the row. -/
def disables (items : List DeviceWebhook) (w : DeviceWebhook) : Bool :=
  items.any fun item => item.id = w.id && item.enabled

/-- The flush of disabled rows: a row that was loaded as disabled is not written. -/
theorem writeDisabled_eq (items : List DeviceWebhook) (db : Store) :
    writeDisabled items db =
      { db with
        deviceWebhooks := db.deviceWebhooks.map fun w =>
          { w with enabled := w.enabled && !disables items w } } := by
  induction items generalizing db with
  | nil => simp [writeDisabled, disables]
  | cons item items ih =>
      have hstep : writeDisabled (item :: items) db =
          writeDisabled items (db.writeWebhook item (disabledWebhook item)) := rfl
      rw [hstep, ih]
      unfold Store.writeWebhook updateKey
      simp only [List.map_map]
      congr 1
      refine List.map_congr_left fun w _ => ?_
      by_cases hid : w.id = item.id
      · cases hen : item.enabled with
        | true => simp [hid, hen, disables, DeviceWebhook.merge, disabledWebhook, mergeColumn]
        | false => simp [hid, hen, disables, DeviceWebhook.merge, disabledWebhook, mergeColumn]
      · have hne : ¬ item.id = w.id := fun h => hid h.symm
        simp [hid, hne, disables]

/-- The row after a rotation of a device. -/
def rotatedWebhook (deviceId : String) (w : DeviceWebhook) : DeviceWebhook :=
  { w with enabled := w.enabled && w.deviceId ≠ deviceId }

/-- With nothing written in between, a rotation disables the rows of the device. -/
theorem writeDisabled_deviceItems (hu : UniqueKey DeviceWebhook.id db.deviceWebhooks)
    (deviceId : String) :
    writeDisabled (deviceItems db deviceId) db =
      { db with deviceWebhooks := db.deviceWebhooks.map (rotatedWebhook deviceId) } := by
  rw [writeDisabled_eq]
  congr 1
  refine List.map_congr_left fun w hw => ?_
  have hdis : disables (deviceItems db deviceId) w = (w.deviceId = deviceId && w.enabled) := by
    unfold disables deviceItems
    rw [Bool.eq_iff_iff, List.any_eq_true]
    constructor
    · rintro ⟨item, hitem, hmatch⟩
      obtain ⟨hmem, hdev⟩ := List.mem_filter.1 hitem
      rw [Bool.and_eq_true, decide_eq_true_eq] at hmatch
      obtain rfl := hu.eq hmem hw hmatch.1
      rw [Bool.and_eq_true]
      exact ⟨hdev, hmatch.2⟩
    · intro hmatch
      rw [Bool.and_eq_true] at hmatch
      exact ⟨w, List.mem_filter.2 ⟨hw, hmatch.1⟩, by simpa using hmatch.2⟩
  unfold rotatedWebhook
  rw [hdis]
  cases w.enabled <;> simp

/-- All that a successful `rotate` can do: disable the rows of the device and add an enabled one
with a new token. -/
theorem rotate_eq_ok {r : Store × IssuedToken} (hu : UniqueKey DeviceWebhook.id db.deviceWebhooks)
    (h : rotate env db deviceId secret = .ok r) :
    (∃ device ∈ db.devices, device.deviceId = deviceId) ∧
      r.1 = Store.insertWebhook
        { db with deviceWebhooks := db.deviceWebhooks.map (rotatedWebhook deviceId) }
        (newWebhook env deviceId secret) ∧
      r.1.Admitted env.schema ∧ r.2 = issuedToken env secret := by
  obtain ⟨device, hdevice, h⟩ := bind_eq_ok.1 h
  obtain ⟨db', hcommit, h⟩ := bind_eq_ok.1 h
  obtain ⟨rfl, hadm⟩ := commit_eq_ok.1 hcommit
  cases h
  rw [writeDisabled_deviceItems hu] at hadm ⊢
  exact ⟨⟨device, requireDevice_eq_ok hdevice⟩, rfl, hadm, rfl⟩

/-- A lookup answers with the enabled row of the token, and with an `UnauthorizedError` if there is
none. -/
theorem lookup_eq {token : String}
    (hu : UniqueKey DeviceWebhook.webhookTokenHash db.deviceWebhooks) :
    (∃ w ∈ db.deviceWebhooks, w.webhookTokenHash = hashToken env token ∧ w.enabled = true ∧
        lookup env db token = .ok w) ∨
      (∀ w ∈ db.deviceWebhooks, w.webhookTokenHash = hashToken env token → w.enabled = false) ∧
        lookup env db token = .error (.app (UnauthorizedError "invalid webhook token")) := by
  have hone : oneOrNone (fun w => w.webhookTokenHash = hashToken env token && w.enabled)
      db.deviceWebhooks ≠ none := by
    refine oneOrNone_ne_none_of_imp
      (q := fun w => w.webhookTokenHash = hashToken env token) (fun w hw => ?_) ?_
    · rw [Bool.and_eq_true] at hw
      exact hw.1
    · rw [oneOrNone_eq_lookup hu]
      simp
  unfold lookup
  split
  · rename_i hmany
    exact absurd hmany hone
  · rename_i hnone
    refine Or.inr ⟨fun w hw hhash => ?_, rfl⟩
    have := oneOrNone_eq_none_row.1 hnone w hw
    simpa [hhash] using this
  · rename_i w hw
    obtain ⟨hmem, hmatch⟩ := mem_of_oneOrNone hw
    simp only [Bool.and_eq_true, decide_eq_true_eq] at hmatch
    exact Or.inl ⟨w, hmem, hmatch.1, hmatch.2, rfl⟩

/-- The row found for a token is the enabled one with its hash. -/
theorem lookup_eq_ok {token : String} {w : DeviceWebhook}
    (hu : UniqueKey DeviceWebhook.webhookTokenHash db.deviceWebhooks) :
    lookup env db token = .ok w ↔
      w ∈ db.deviceWebhooks ∧ w.webhookTokenHash = hashToken env token ∧ w.enabled = true := by
  have hfound : (∃ w ∈ db.deviceWebhooks, w.webhookTokenHash = hashToken env token ∧
      w.enabled = true ∧ lookup env db token = .ok w) ∨
      (∀ w ∈ db.deviceWebhooks, w.webhookTokenHash = hashToken env token → w.enabled = false) ∧
        lookup env db token = .error (.app (UnauthorizedError "invalid webhook token")) :=
    lookup_eq hu
  rcases hfound with ⟨w', hmem, hhash, hen, hok⟩ | ⟨hoff, herr⟩
  · rw [hok]
    constructor
    · intro h
      obtain rfl := Except.ok.inj h
      exact ⟨hmem, hhash, hen⟩
    · rintro ⟨hw, hhash', -⟩
      rw [hu.eq hw hmem (hhash'.trans hhash.symm)]
  · rw [herr]
    constructor
    · simp
    · rintro ⟨hw, hhash, hen⟩
      rw [hoff w hw hhash] at hen
      simp at hen

/-- The row of an event that binds. -/
theorem bindEvent_eq_ok {eventId : Json} {parsed : ParsedPayload} {c : IngestCall}
    {event : DeviceEvent} (h : bindEvent env deviceId eventId parsed c = .ok event) :
    event.deviceId = deviceId ∧ env.driver.bindText eventId = some event.eventId ∧
      env.driver.bindText (.str parsed.eventType) = some event.eventType ∧
      event.normalizedPayload = parsed.normalizedPayload := by
  unfold bindEvent at h
  split at h
  · rename_i hid htype _
    cases h
    exact ⟨rfl, hid, htype, rfl⟩
  · simp at h

/-- A statement that goes through did not fail. -/
theorem run_eq_ok {α : Type} {c : IngestCall} {statement : IngestStatement} {x : Except PyError α}
    {a : α} (h : c.run statement x = .ok a) : x = .ok a := by
  unfold IngestCall.run at h
  split at h
  · simp at h
  · exact h

theorem noAppError_run {α : Type} {c : IngestCall} {statement : IngestStatement}
    {x : Except PyError α} (h : NoAppError x) : NoAppError (c.run statement x) := by
  unfold IngestCall.run
  split
  · exact fun _ => by simp
  · exact h

/-- Whatever goes wrong in an `ingest`, it is none of the errors the API has a code for. -/
theorem ingest_noAppError (webhook : DeviceWebhook) (c : IngestCall) :
    NoAppError (ingest env db webhook c) := by
  have hcommit : ∀ db', NoAppError (SmsForwarder.commit env.schema db') := by
    intro db' e
    unfold SmsForwarder.commit
    split
    · simp
    · split <;> simp
  unfold ingest
  refine NoAppError.bind ?_ fun fields => NoAppError.bind ?_ fun eventId => NoAppError.bind ?_
    fun event => NoAppError.bind ?_ fun r => NoAppError.bind ?_ fun w => NoAppError.bind ?_
    fun device => NoAppError.bind ?_ fun db' => NoAppError.ok _
  · intro e
    unfold payloadFields
    split <;> simp
  · intro e
    unfold eventIdOf stableEventId
    split
    · simp
    · split <;> simp
  · intro e
    unfold bindEvent
    split <;> simp
  · intro e
    unfold addEvent
    split
    · simp
    · exact noAppError_run (NoAppError.ok _) e
    · rename_i e' hflush
      intro h
      rw [Except.error.inj h] at hflush
      exact noAppError_run (hcommit _) e hflush
  · unfold heldWebhook
    split
    · refine noAppError_run fun e => ?_
      split <;> simp
    · exact NoAppError.ok _
  · refine noAppError_run fun e => ?_
    unfold oneDevice
    split <;> simp
  · exact noAppError_run (noAppError_run (hcommit _))

/-- An event of the device with this identifier is stored. -/
def Recorded (db : Store) (deviceId eventId : String) : Prop :=
  ∃ e ∈ db.deviceEvents, e.deviceId = deviceId ∧ e.eventId = eventId

/-- Among the constraints, the insertion of an event can violate only the one on its identifier. -/
theorem unique_insertEvent {event : DeviceEvent} (hadm : db.Admitted env.schema) :
    (db.insertEvent event).Unique env.schema ↔ ¬ Recorded db event.deviceId event.eventId := by
  obtain ⟨-, hd, ht, hw, ⟨hi, he⟩, hl, ha⟩ := hadm
  have hnew : UniqueKey (fun e => (e.deviceId, e.eventId)) (db.insertEvent event).deviceEvents ↔
      ¬ Recorded db event.deviceId event.eventId := by
    unfold Store.insertEvent Recorded
    rw [uniqueKey_concat]
    simp only [ne_eq, Prod.mk.injEq, not_exists, not_and]
    exact ⟨fun h e he' => h.2 e he', fun h => ⟨he, fun e he' => h e he'⟩⟩
  constructor
  · exact fun h => hnew.1 h.2.2.2.1.2
  · exact fun h => ⟨hd, ht, hw, ⟨uniqueKey_concat_nextKey hi rfl, hnew.2 h⟩, hl, ha⟩

/-- The `try` statement notices exactly the events that are stored already. -/
theorem addEvent_eq_ok {event : DeviceEvent} {c : IngestCall} {r : Store × Bool}
    (hadm : db.Admitted env.schema) (h : addEvent env db event c = .ok r) :
    (r.2 = true ↔ Recorded db event.deviceId event.eventId) ∧
      r.1 = if r.2 then db else db.insertEvent event := by
  unfold addEvent at h
  split at h
  · rename_i working hflush
    obtain ⟨rfl, hadm'⟩ := commit_eq_ok.1 (run_eq_ok hflush)
    cases h
    exact ⟨by simpa using (unique_insertEvent hadm).1 hadm'.2, rfl⟩
  · rename_i hflush
    obtain rfl := Except.ok.inj (run_eq_ok h)
    refine ⟨iff_of_true rfl ?_, rfl⟩
    unfold flushEvent IngestCall.run at hflush
    split at hflush
    · simp at hflush
    · by_contra hnew
      have hunique := (unique_insertEvent hadm).2 hnew
      unfold SmsForwarder.commit at hflush
      rw [if_pos hunique] at hflush
      split at hflush <;> simp at hflush
  · simp at h

/-- The session holds the committed webhook row, also after a rollback. -/
theorem heldWebhook_eq_ok {webhook w : DeviceWebhook} {duplicate : Bool} {c : IngestCall}
    (hu : UniqueKey DeviceWebhook.id db.deviceWebhooks) (hw : webhook ∈ db.deviceWebhooks)
    (h : heldWebhook db webhook duplicate c = .ok w) : w = webhook := by
  unfold heldWebhook at h
  split at h
  · have hreload := run_eq_ok h
    rw [(lookup_eq_some_iff hu).2 ⟨hw, rfl⟩] at hreload
    exact (Except.ok.inj hreload).symm
  · exact (Except.ok.inj h).symm

theorem oneDevice_eq_ok {device : Device} (h : oneDevice db deviceId = .ok device) :
    device ∈ db.devices ∧ device.deviceId = deviceId := by
  unfold oneDevice at h
  split at h
  · simp at h
  · simp at h
  · rename_i found hfound
    obtain rfl := Except.ok.inj h
    simpa using mem_of_oneOrNone hfound

/-- All that a successful `ingest` can do: store the event unless it is stored already, and note
the call in the rows of the device and of the webhook. -/
theorem ingest_eq_ok {webhook : DeviceWebhook} {c : IngestCall} {r : Store × IngestResult}
    (hadm : db.Admitted env.schema) (hw : webhook ∈ db.deviceWebhooks)
    (h : ingest env db webhook c = .ok r) :
    ∃ fields event, c.payload = .obj fields ∧
      bindEvent env webhook.deviceId r.2.eventId
        (parseWebhookPayload env.runtime fields c.parsedAt) c = .ok event ∧
      r.2.eventType = storedType (declaredType env.runtime fields) ∧
      (r.2.duplicate = true ↔ Recorded db event.deviceId event.eventId) ∧
      ∃ device ∈ db.devices, device.deviceId = webhook.deviceId ∧
        r.1 = ((if r.2.duplicate then db else db.insertEvent event).writeDevice device
          (calledDevice r.2.duplicate c.now device)).writeWebhook webhook
            (calledWebhook c.now webhook) ∧
        r.1.Admitted env.schema := by
  obtain ⟨fields, hfields, h⟩ := bind_eq_ok.1 h
  obtain ⟨eventId, heventId, h⟩ := bind_eq_ok.1 h
  obtain ⟨event, hevent, h⟩ := bind_eq_ok.1 h
  obtain ⟨⟨working, duplicate⟩, hadd, h⟩ := bind_eq_ok.1 h
  obtain ⟨w, hheld, h⟩ := bind_eq_ok.1 h
  obtain ⟨device, hdevice, h⟩ := bind_eq_ok.1 h
  obtain ⟨db', hflush, h⟩ := bind_eq_ok.1 h
  cases h
  obtain ⟨hdup, hworking⟩ := addEvent_eq_ok hadm hadd
  simp only at hdup hworking
  rw [hworking] at hdevice hflush
  obtain rfl := heldWebhook_eq_ok hadm.2.2.2.1.1 hw hheld
  obtain ⟨hmem, hid⟩ := oneDevice_eq_ok (run_eq_ok hdevice)
  obtain ⟨rfl, hadm'⟩ := commit_eq_ok.1 (run_eq_ok (run_eq_ok hflush))
  refine ⟨fields, event, ?_, hevent, rfl, hdup, device, ?_, hid, rfl, hadm'⟩
  · unfold payloadFields at hfields
    split at hfields
    · rename_i fields' hpayload
      rw [hpayload, Except.ok.inj hfields]
    · simp at hfields
  · cases duplicate with
    | true => exact hmem
    | false => exact hmem

end

end WebhookService

end SmsForwarder
