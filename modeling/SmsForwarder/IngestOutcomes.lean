/-
**What becomes of a posted body.**

Nothing checks the body of a posting: it may be any JSON value, and each of its parts meets its own
operation.  Only a dictionary has fields; the client's identifier is bound to a text column; a body
without one is dumped, and its text encoded.

Main definitions:

* `SmsForwarder.Handled` — the event is stored, or a duplicate, or the request was refused with an
  error that the API has a code for;
* `SmsForwarder.PayloadAccepted` — the bodies that none of the operations fails on.

Main results:

* `SmsForwarder.WebhookService.ingest_of_event` — an event that can be bound and fits is ingested;
* `SmsForwarder.handled_iff` — **a posting is handled exactly if its body is accepted.**
-/

import SmsForwarder.IngestEndpoint
import SmsForwarder.JsonText

set_option relaxedAutoImplicit false
set_option autoImplicit false

namespace SmsForwarder

open Py Tables Runs

namespace WebhookService

section

variable {env : Env} {db : Store} {webhook : DeviceWebhook} {device : Device} {c : IngestCall}

/-! ### An event that can be stored -/

/-- Without a failure, a statement does what it does. -/
theorem run_of_not_fails {α : Type} {statement : IngestStatement} (h : c.fails statement = false)
    (x : Except PyError α) : c.run statement x = x := by
  unfold IngestCall.run
  rw [h]
  rfl

/-- An event that fits is added, or noticed to be stored already. -/
theorem addEvent_of_fits {event : DeviceEvent} (hadm : db.Admitted env.schema)
    (hfails : ∀ s, c.fails s = false)
    (hfits : env.schema.enforceLengths = true → event.fits = true) :
    ∃ r, addEvent env db event c = .ok r := by
  have hlengths : ¬ (env.schema.enforceLengths = true ∧ ¬ (db.insertEvent event).Fits) := by
    rintro ⟨he, hlong⟩
    exact hlong (Store.fits_insertEvent.2 ⟨hadm.1 he, hfits he⟩)
  unfold addEvent flushEvent SmsForwarder.commit
  rw [run_of_not_fails (hfails _), if_neg hlengths]
  by_cases hunique : (db.insertEvent event).Unique env.schema
  · rw [if_pos hunique]
    exact ⟨_, rfl⟩
  · rw [if_neg hunique]
    exact ⟨_, run_of_not_fails (hfails _) _⟩

theorem fits_calledDevice {duplicate : Bool} {now : Timestamp} (h : device.fits = true) :
    (calledDevice duplicate now device).fits = true := by
  have hstatus : fitsColumn 32 "active" = true := by decide
  unfold Device.fits at h ⊢
  unfold calledDevice
  rw [Bool.and_eq_true] at h ⊢
  exact ⟨h.1, hstatus⟩

/-- The call is noted in the rows of the device and of the webhook. -/
theorem flushCall_of_mem {working : Store} (hadm : working.Admitted env.schema)
    (hdevice : device ∈ working.devices) (hw : webhook ∈ working.deviceWebhooks)
    (hfails : ∀ s, c.fails s = false) (duplicate : Bool) :
    ∃ db', flushCall env working device webhook duplicate c = .ok db' := by
  have hdeviceNoted : (working.writeDevice device (calledDevice duplicate c.now device)).Admitted
      env.schema := hadm.writeDevice hdevice rfl rfl fits_calledDevice
  have hnoted : ((working.writeDevice device (calledDevice duplicate c.now device)).writeWebhook
      webhook (calledWebhook c.now webhook)).Admitted env.schema :=
    hdeviceNoted.writeWebhook hw rfl rfl fun h => h
  unfold flushCall
  rw [run_of_not_fails (hfails _), run_of_not_fails (hfails _)]
  exact ⟨_, commit_eq_ok.2 ⟨rfl, hnoted⟩⟩

/-- An event that can be bound and fits is ingested. -/
theorem ingest_of_event {fields : List (Str × Json)} {eventId : Json} {event : DeviceEvent}
    (hadm : db.Admitted env.schema) (hw : webhook ∈ db.deviceWebhooks)
    (hdevice : device ∈ db.devices) (hid : device.deviceId = webhook.deviceId)
    (hfails : ∀ s, c.fails s = false) (hpayload : c.payload = .obj fields)
    (heventId : eventIdOf env webhook.deviceId
      (parseWebhookPayload env.runtime fields c.parsedAt) = .ok eventId)
    (hevent : bindEvent env webhook.deviceId eventId
      (parseWebhookPayload env.runtime fields c.parsedAt) c = .ok event)
    (hfits : env.schema.enforceLengths = true → event.fits = true) :
    ∃ r, ingest env db webhook c = .ok r := by
  obtain ⟨⟨working, duplicate⟩, hadd⟩ := addEvent_of_fits hadm hfails hfits
  obtain ⟨hdup, hworking⟩ := addEvent_eq_ok hadm hadd
  simp only at hdup hworking
  have hadm' : working.Admitted env.schema := by
    cases duplicate with
    | true => exact hworking ▸ hadm
    | false =>
        have hnew : ¬ Recorded db event.deviceId event.eventId := fun h =>
          absurd (hdup.2 h) (by decide)
        rw [hworking]
        exact ⟨fun he => Store.fits_insertEvent.2 ⟨hadm.1 he, hfits he⟩,
          (unique_insertEvent hadm).2 hnew⟩
  have htables : working.devices = db.devices ∧ working.deviceWebhooks = db.deviceWebhooks := by
    rw [hworking]
    cases duplicate <;> exact ⟨rfl, rfl⟩
  have hheld : heldWebhook db webhook duplicate c = .ok webhook := by
    cases duplicate with
    | true =>
        unfold heldWebhook
        rw [if_pos rfl, run_of_not_fails (hfails _),
          (lookup_eq_some_iff hadm.2.2.2.1.1).2 ⟨hw, rfl⟩]
    | false => rfl
  have hone : c.run .selectDevice (oneDevice working webhook.deviceId) = .ok device := by
    unfold oneDevice
    rw [run_of_not_fails (hfails _), htables.1, ← hid, oneOrNone_of_mem hadm.2.1.2 hdevice]
  obtain ⟨db', hflush⟩ := flushCall_of_mem hadm' (htables.1 ▸ hdevice) (htables.2 ▸ hw) hfails
    duplicate
  have hfields : payloadFields c.payload = .ok fields := by
    rw [hpayload]
    rfl
  exact ⟨_, bind_eq_ok.2 ⟨_, hfields, bind_eq_ok.2 ⟨_, heventId, bind_eq_ok.2 ⟨_, hevent,
    bind_eq_ok.2 ⟨_, hadd, bind_eq_ok.2 ⟨_, hheld, bind_eq_ok.2 ⟨_, hone, bind_eq_ok.2
      ⟨_, hflush, rfl⟩⟩⟩⟩⟩⟩⟩⟩

/-! ### The parts of a body -/

/-- The identifier that the client gave the event. -/
def clientId (fields : List (Str × Json)) : Json :=
  (Json.get fields (py "event_id")).orElse (Json.get fields (py "id"))

/-- The stored types are short ASCII texts. -/
theorem exists_storedType (declared : Str) :
    ∃ s, storedType declared = py s ∧ fitsColumn 64 s = true := by
  have hvalid : ∀ s ∈ ["sms", "call", "notification", "battery", "heartbeat"],
      fitsColumn 64 s = true := by decide
  unfold storedType
  split
  · rename_i h
    obtain ⟨s, hs, heq⟩ := List.mem_map.1 h
    exact ⟨s, heq.symm, hvalid s hs⟩
  · exact ⟨"notification", rfl, by decide⟩

/-- Which bodies a row can be bound from. -/
theorem bindEvent_of_bound (deviceId : String) (fields : List (Str × Json)) {text : String}
    {eventId : Json}
    (htext : env.driver.bindText eventId = some text)
    (hjson : env.driver.acceptsJson c.payload = true) :
    ∃ event, bindEvent env deviceId eventId
        (parseWebhookPayload env.runtime fields c.parsedAt) c = .ok event ∧
      event.eventId = text ∧ event.deviceId = deviceId ∧ fitsColumn 64 event.eventType = true ∧
      event.sourceIp = c.sourceIp := by
  obtain ⟨type, htype, hshort⟩ := exists_storedType (declaredType env.runtime fields)
  have hbound : env.driver.bindText
      (.str (parseWebhookPayload env.runtime fields c.parsedAt).eventType) = some type := by
    unfold parseWebhookPayload
    rw [htype, env.driver.bindText_str, encode_py]
  unfold bindEvent
  rw [htext, hbound, hjson]
  exact ⟨_, rfl, rfl, rfl, hshort, rfl⟩

theorem acceptsJson_of_bindEvent {deviceId : String} {eventId : Json} {parsed : ParsedPayload}
    {event : DeviceEvent} (h : bindEvent env deviceId eventId parsed c = .ok event) :
    env.driver.acceptsJson c.payload = true := by
  unfold bindEvent at h
  split at h
  · rename_i hjson
    exact hjson
  · simp at h

/-- The answer names the identifier that was stored. -/
theorem eventIdOf_of_ingest {fields : List (Str × Json)} {r : Store × IngestResult}
    (h : ingest env db webhook c = .ok r) (hpayload : c.payload = .obj fields) :
    eventIdOf env webhook.deviceId (parseWebhookPayload env.runtime fields c.parsedAt) =
      .ok r.2.eventId := by
  obtain ⟨fields', hfields, h⟩ := bind_eq_ok.1 h
  obtain ⟨eventId, heventId, h⟩ := bind_eq_ok.1 h
  obtain ⟨event, -, h⟩ := bind_eq_ok.1 h
  obtain ⟨added, -, h⟩ := bind_eq_ok.1 h
  obtain ⟨w, -, h⟩ := bind_eq_ok.1 h
  obtain ⟨d, -, h⟩ := bind_eq_ok.1 h
  obtain ⟨db', -, h⟩ := bind_eq_ok.1 h
  cases h
  rw [hpayload] at hfields
  obtain rfl := Except.ok.inj hfields
  exact heventId

/-- What is assumed of the texts that other code makes: a digest has 64 digits, and the text of a
float is ASCII. -/
structure PlatformTexts (env : Env) : Prop where
  digest : ∀ s, (env.sha256Hex s).length = 64
  float : ∀ neg m e, Py.Encodable (env.runtime.floatRepr neg m e)

/-- Without an identifier of the client, the body must be encodable. -/
theorem stableEventId_ok_iff (htexts : PlatformTexts env) {deviceId : String} {declared : Str}
    {payload : Json} :
    (∃ eventId, stableEventId env deviceId (storedType declared) payload = .ok eventId) ↔
      payload.Encodable := by
  obtain ⟨type, htype, -⟩ := exists_storedType declared
  rw [← Runtime.encodable_dumps htexts.float, htype]
  have hsource : Py.Encodable (py deviceId ++ py "|" ++ py type ++ py "|" ++
      env.runtime.dumps payload) ↔ Py.Encodable (env.runtime.dumps payload) := by
    simp only [encodable_append, encodable_py, true_and]
  rw [← hsource, ← encode_isSome_iff]
  unfold stableEventId
  cases encode (py deviceId ++ py "|" ++ py type ++ py "|" ++ env.runtime.dumps payload) with
  | none => simp
  | some source => simp

theorem stableEventId_eq_ok {deviceId : String} {type : Str} {payload eventId : Json}
    (h : stableEventId env deviceId type payload = .ok eventId) :
    ∃ source, eventId = .str (py (env.sha256Hex source)) := by
  unfold stableEventId at h
  split at h
  · exact ⟨_, (Except.ok.inj h).symm⟩
  · simp at h

end

end WebhookService

open WebhookService

/-! ### Which bodies are accepted -/

/-- The bodies that none of the operations fails on: objects which the JSON columns take, whose
identifier the text column takes or, without one, whose texts and keys can be encoded. -/
def PayloadAccepted (env : Env) (payload : Json) : Prop :=
  ∃ fields, payload = .obj fields ∧ env.driver.acceptsJson payload = true ∧
    if (clientId fields).truthy = true then
      ∃ text, env.driver.bindText (clientId fields) = some text ∧
        (env.schema.enforceLengths = true → fitsColumn 255 text = true)
    else payload.Encodable

section

variable {env : Env} {db : Store} {webhook : DeviceWebhook} {device : Device} {c : IngestCall}

/-- An event that was ingested or noticed as a duplicate has an identifier that fits. -/
theorem fits_eventId_of_ingest {event : DeviceEvent} {r : Store × IngestResult}
    {read new : Device} {read' new' : DeviceWebhook}
    (hdup : r.2.duplicate = true ↔ Recorded db event.deviceId event.eventId)
    (hafter : r.1 = ((if r.2.duplicate then db else db.insertEvent event).writeDevice read
      new).writeWebhook read' new') (hadm : r.1.Admitted env.schema)
    (he : env.schema.enforceLengths = true) : fitsColumn 255 event.eventId = true := by
  have hstored : ∃ e ∈ r.1.deviceEvents, e.eventId = event.eventId := by
    rw [hafter]
    cases hd : r.2.duplicate with
    | true =>
        obtain ⟨e, hmem, -, hid⟩ := hdup.1 hd
        exact ⟨e, hmem, hid⟩
    | false => exact ⟨_, List.mem_append_right _ List.mem_cons_self, rfl⟩
  obtain ⟨e, hmem, hid⟩ := hstored
  have hfits : e.fits = true := (hadm.1 he).2.2.2.1 e hmem
  unfold DeviceEvent.fits at hfits
  simp only [Bool.and_eq_true] at hfits
  rw [← hid]
  exact hfits.1.1.1

/-- A posting that is answered had an accepted body. -/
theorem payloadAccepted_of_ingest (hadm : db.Admitted env.schema)
    (hw : webhook ∈ db.deviceWebhooks) (htexts : PlatformTexts env) {r : Store × IngestResult}
    (h : ingest env db webhook c = .ok r) : PayloadAccepted env c.payload := by
  obtain ⟨fields, event, hpayload, hbind, -, hdup, read, -, -, hafter, hadm'⟩ :=
    ingest_eq_ok hadm hw h
  have heventId := eventIdOf_of_ingest h hpayload
  refine ⟨fields, hpayload, acceptsJson_of_bindEvent hbind, ?_⟩
  unfold eventIdOf at heventId
  by_cases hclient : (clientId fields).truthy = true
  · rw [if_pos hclient]
    rw [if_pos (by exact hclient)] at heventId
    refine ⟨event.eventId, ?_, fits_eventId_of_ingest hdup hafter hadm'⟩
    rw [show clientId fields = r.2.eventId from Except.ok.inj heventId]
    exact (bindEvent_eq_ok hbind).2.1
  · rw [if_neg hclient]
    rw [if_neg (by exact hclient)] at heventId
    rw [hpayload]
    exact (stableEventId_ok_iff htexts).1 ⟨_, heventId⟩

/-- A posting with an accepted body is answered. -/
theorem ingest_of_payloadAccepted (hadm : db.Admitted env.schema)
    (hw : webhook ∈ db.deviceWebhooks) (htexts : PlatformTexts env) (hdevice : device ∈ db.devices)
    (hid : device.deviceId = webhook.deviceId) (hfails : ∀ s, c.fails s = false)
    (hip : env.schema.enforceLengths = true → c.sourceIp.all (fitsColumn 64) = true)
    (h : PayloadAccepted env c.payload) : ∃ r, ingest env db webhook c = .ok r := by
  obtain ⟨fields, hpayload, hjson, h⟩ := h
  have hbound : ∃ eventId text,
      eventIdOf env webhook.deviceId (parseWebhookPayload env.runtime fields c.parsedAt) =
        .ok eventId ∧ env.driver.bindText eventId = some text ∧
        (env.schema.enforceLengths = true → fitsColumn 255 text = true) := by
    unfold eventIdOf
    by_cases hclient : (clientId fields).truthy = true
    · rw [if_pos hclient] at h
      rw [if_pos (by exact hclient)]
      obtain ⟨text, htext, hshort⟩ := h
      exact ⟨_, text, rfl, htext, hshort⟩
    · rw [if_neg hclient, hpayload] at h
      rw [if_neg (by exact hclient)]
      obtain ⟨eventId, heventId⟩ := (stableEventId_ok_iff htexts).2 h
      obtain ⟨source, rfl⟩ := stableEventId_eq_ok heventId
      refine ⟨_, env.sha256Hex source, heventId, ?_, fun _ => ?_⟩
      · rw [env.driver.bindText_str, encode_py]
      · unfold fitsColumn
        rw [htexts.digest]
        decide
  obtain ⟨eventId, text, heventId, htext, hshort⟩ := hbound
  obtain ⟨event, hevent, htext', hdev, htype, hsource⟩ :=
    bindEvent_of_bound webhook.deviceId fields htext hjson
  refine ingest_of_event hadm hw hdevice hid hfails hpayload heventId hevent fun he => ?_
  have hdevFits : fitsColumn 128 webhook.deviceId = true := by
    rw [← hid]
    exact (hadm.columnsFit he hdevice).deviceId
  unfold DeviceEvent.fits
  rw [htext', hdev, hsource, hshort he, hdevFits, htype, hip he]
  rfl

end

/-! ### Requests -/

/-- The request has a valid token of an existing device and is not over the limit; no statement
fails for a reason outside the data. -/
structure Postable (env : Env) (server : Server) (req : IngestRequest) (webhook : DeviceWebhook) :
    Prop where
  admitted : server.db.Admitted env.schema
  admittedRateLimits : AdmittedRateLimits env.schema server.rateLimits
  notExhausted : ¬ Exhausted env server req
  token : lookup env server.db req.webhookToken = .ok webhook
  device : ∃ device ∈ server.db.devices, device.deviceId = webhook.deviceId
  notFails : ∀ s, req.fails s = false
  sourceIp : env.schema.enforceLengths = true → req.sourceIp.all (fitsColumn 64) = true

/-- The request stored one event or reported a duplicate, or it was refused with an error that the
API has a code for and left the tables of the service unchanged. -/
def Handled (server : Server) (webhook : DeviceWebhook)
    (r : Except PyError IngestResult × Server) : Prop :=
  match r.1 with
  | .ok result =>
      if result.duplicate then r.2.db.deviceEvents = server.db.deviceEvents
      else ∃ event : DeviceEvent, event.deviceId = webhook.deviceId ∧
        r.2.db.deviceEvents = server.db.deviceEvents ++ [event]
  | .error (.app _) => r.2.db = server.db
  | .error _ => False

section

variable {env : Env} {server : Server} {req : IngestRequest} {webhook : DeviceWebhook}
  {payload : Json}

/-- A request that is not refused before is as its posting. -/
theorem ingestWebhook_of_postable (h : Postable env server req webhook)
    (hbody : req.body = some payload) :
    ∃ rows, ingestWebhook env server req =
      ((attempt (ingest env server.db webhook (ingestCall req payload)) server.db).1,
        { db := (attempt (ingest env server.db webhook (ingestCall req payload)) server.db).2,
          rateLimits := rows }) := by
  have hcases := checkRateLimit_cases h.admittedRateLimits
    (fun _ => fits_resourceKey req.webhookToken) env.settings.webhookRateLimitPerMinute 60
    req.receivedAt
  rcases hcases with ⟨n, hn, hle, -⟩ | ⟨-, rows, hcheck, -⟩
  · exact absurd ⟨n, hn, hle⟩ h.notExhausted
  · have hpost : postEvent env server.db req =
        ingest env server.db webhook (ingestCall req payload) := by
      unfold postEvent requestJson
      rw [hbody, h.token]
      rfl
    refine ⟨rows, ?_⟩
    unfold ingestWebhook countRequest
    rw [hcheck, hpost]

/-- A request that is not refused before is handled exactly if its posting is answered. -/
theorem handled_iff_ingest (h : Postable env server req webhook) (hbody : req.body = some payload) :
    Handled server webhook (ingestWebhook env server req) ↔
      ∃ r, ingest env server.db webhook (ingestCall req payload) = .ok r := by
  obtain ⟨rows, hserve⟩ := ingestWebhook_of_postable h hbody
  have hw := ((lookup_eq_ok h.admitted.2.2.2.1.2).1 h.token).1
  rw [hserve]
  cases hingest : ingest env server.db webhook (ingestCall req payload) with
  | ok r =>
      refine iff_of_true ?_ ⟨r, rfl⟩
      obtain ⟨fields, event, -, hbind, -, -, read, -, -, hafter, -⟩ :=
        ingest_eq_ok h.admitted hw hingest
      unfold Handled attempt
      simp only
      split
      · rename_i hdup
        rw [hafter, if_pos hdup]
        rfl
      · rename_i hdup
        refine ⟨{ event with id := nextKey DeviceEvent.id server.db.deviceEvents },
          (bindEvent_eq_ok hbind).1, ?_⟩
        rw [hafter, if_neg hdup]
        rfl
  | error e =>
      refine iff_of_false ?_ (by simp)
      unfold Handled attempt
      simp only
      split
      · rename_i heq
        simp at heq
      · rename_i e' heq
        rw [Except.error.inj heq] at hingest
        exact absurd hingest (ingest_noAppError webhook _ e')
      · exact id

end

/-- **A posting is handled** exactly if its body is an object which the JSON columns take and the
identifier or, without one, the text of the body goes through. -/
theorem handled_iff (env : Env) (htexts : PlatformTexts env) (server : Server) (req : IngestRequest)
    (webhook : DeviceWebhook) (h : Postable env server req webhook) (payload : Json)
    (hbody : req.body = some payload) :
    Handled server webhook (ingestWebhook env server req) ↔ PayloadAccepted env payload := by
  have hw := ((lookup_eq_ok h.admitted.2.2.2.1.2).1 h.token).1
  obtain ⟨device, hdevice, hid⟩ := h.device
  rw [handled_iff_ingest h hbody]
  constructor
  · rintro ⟨r, hr⟩
    exact payloadAccepted_of_ingest h.admitted hw htexts hr
  · intro haccepted
    exact ingest_of_payloadAccepted h.admitted hw htexts hdevice hid h.notFails h.sourceIp haccepted

/-! ### Bodies at work -/

/-- The digest of the token `wh_first-one`; other digests do not matter. -/
def tokenDigest (s : String) : String :=
  if s = "wh_first-one" then "414d0b6e8326eb2e6b1ca16546e75a5c60efc1afaa62992bc68845edaa07c8b2"
  else String.ofList (List.replicate 64 '0')

def digestEnv : Env := { plainEnv ormSchema with sha256Hex := tokenDigest }

/-- The row of the token `wh_first-one`. -/
def firstWebhook : DeviceWebhook :=
  { newWebhook digestEnv (generateDeviceId Uuid.nil) "first-one" with id := 1 }

/-- A device with the webhook. -/
def digestServer : Server where
  db := { Store.empty.insertDevice (DeviceService.newDevice digestEnv Uuid.nil 0 {}) with
    deviceWebhooks := [firstWebhook] }
  rateLimits := []

/-- A request with the token and a body. -/
def bodyRequest (body : Json) : IngestRequest :=
  { bareRequest "wh_first-one" with body := some body }

theorem platformTexts_digestEnv : PlatformTexts digestEnv where
  digest s := by
    show (tokenDigest s).length = 64
    unfold tokenDigest
    split
    · decide
    · rw [String.length_ofList, List.length_replicate]
  float neg m e := by
    have hsign : Py.Encodable (if neg = true then py "-" else []) := by
      cases neg with
      | true => exact encodable_py _
      | false => exact fun _ h => absurd h List.not_mem_nil
    show Py.Encodable (_ ++ intStr m ++ py "p" ++ intStr e)
    exact encodable_append.2 ⟨encodable_append.2 ⟨encodable_append.2 ⟨hsign, encodable_py _⟩,
      encodable_py _⟩, encodable_py _⟩

theorem postable_bodyRequest (body : Json) :
    Postable digestEnv digestServer (bodyRequest body) firstWebhook where
  admitted := by decide
  admittedRateLimits := admittedRateLimits_nil digestEnv.schema
  notExhausted := by
    rintro ⟨n, hn, -⟩
    cases hn
  token := by rfl
  device := ⟨_, List.mem_cons_self, rfl⟩
  notFails _ := rfl
  sourceIp h := by cases h

theorem payloadAccepted_identified :
    PayloadAccepted digestEnv (.obj [(py "event_id", .str (py "a"))]) := by
  refine ⟨_, rfl, rfl, ?_⟩
  rw [if_pos (by decide)]
  exact ⟨"a", by decide, fun _ => by decide⟩

/-- An object with an identifier is handled. -/
theorem object_handled :
    Handled digestServer firstWebhook (ingestWebhook digestEnv digestServer
      (bodyRequest (.obj [(py "event_id", .str (py "a"))]))) :=
  (handled_iff digestEnv platformTexts_digestEnv digestServer
    (bodyRequest (.obj [(py "event_id", .str (py "a"))])) firstWebhook (postable_bodyRequest _)
    (.obj [(py "event_id", .str (py "a"))]) rfl).2 payloadAccepted_identified

/-- **Bodies that nothing handles**: an array, an object whose identifier is an array, and an object
without an identifier that holds a lone surrogate. -/
theorem bodies_not_handled :
    Postable digestEnv digestServer (bodyRequest (.arr [])) firstWebhook ∧
      ¬ Handled digestServer firstWebhook (ingestWebhook digestEnv digestServer
        (bodyRequest (.arr []))) ∧
      ¬ Handled digestServer firstWebhook (ingestWebhook digestEnv digestServer
        (bodyRequest (.obj [(py "event_id", .arr [.null])]))) ∧
      ¬ Handled digestServer firstWebhook (ingestWebhook digestEnv digestServer
        (bodyRequest (.obj [(py "text", .str [0xD800])]))) :=
  ⟨postable_bodyRequest _, id, id, id⟩

end SmsForwarder
