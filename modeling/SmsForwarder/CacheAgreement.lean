/-
**What the webhook stores, and what the cache finds.**

The webhook parser and the cache query have a table of event types each, and meet in a column: an
event that a phone has posted is found by a query command if the parser stores it under the type the
command looks for.

Main definitions:

* `SmsForwarder.Returns` — a dispatch answers with a page that has the row of an event;
* `SmsForwarder.CacheAgrees` — a command counts an event, returns it on some page, and no other
  command does.

Main results:

* `SmsForwarder.cacheAgrees_iff` — **a posted event of the type a command looks for is found by this
  command exactly when the parser knows the type**;
* `SmsForwarder.posted_contact_is_lost` — a type that the parser does not know.
-/

import SmsForwarder.CommandService
import SmsForwarder.WebhookService

set_option relaxedAutoImplicit false
set_option autoImplicit false

namespace SmsForwarder

open Py Tables CommandService WebhookService

variable (env : Env)

/-! ### Agreement -/

/-- The dispatch returns the event: the page it answers with has the row of the event. -/
def Returns (d : DispatchCall) (db : Store) (deviceId commandType : String)
    (payload : List (Str × Json)) (userId : Option ℤ) (event : DeviceEvent) : Prop :=
  ∃ page answer, queryCache env d db deviceId commandType payload = .ok page ∧
    (dispatch env d db deviceId commandType payload userId).1 = .ok answer ∧
    answer.result = page.data ∧ event ∈ page.rows

/-- The cache answers a command with the stored event `event` of a posted payload: every page
counts it, one of the pages of any size has it, and no page of another command does. -/
structure CacheAgrees (order : RowOrder) (db : Store) (deviceId commandType eventType : String)
    (posted : List (Str × Json)) (event : DeviceEvent) : Prop where
  stored : event.normalizedPayload = .obj posted
  counted : event ∈ matchingEvents db deviceId eventType
  total : ∀ d payload page, queryCache env d db deviceId commandType payload = .ok page →
    page.total = (matchingEvents db deviceId eventType).length
  returned : ∀ n, 0 < n → n < 2 ^ 63 → ∃ k, ∀ d payload userId, d.order = order →
    CacheRequest env payload (k + 1) n →
    (∀ page, queryCache env d db deviceId commandType payload = .ok page →
      LogAccepted env d db payload page.data) →
    Returns env d db deviceId commandType payload userId event
  separate : ∀ other, other ≠ commandType → ∀ d payload userId,
    modeOf env payload = py "cache" → ¬ Returns env d db deviceId other payload userId event

section

variable {env} {order : RowOrder} {db : Store} {deviceId commandType eventType : String}
  {event : DeviceEvent}

/-! ### The tables of event types -/

/-- Different commands look for different event types. -/
theorem eq_of_eventType {command command' : String}
    (h : ofCommand EVENT_TYPES command = some eventType)
    (h' : ofCommand EVENT_TYPES command' = some eventType) : command = command' := by
  have hdistinct : ∀ p ∈ EVENT_TYPES, ∀ p' ∈ EVENT_TYPES, p.2 = p'.2 → p.1 = p'.1 := by decide
  exact hdistinct _ (mem_of_ofCommand h) _ (mem_of_ofCommand h') rfl

/-- No command looks for notifications. -/
theorem ne_notification (h : ofCommand EVENT_TYPES commandType = some eventType) :
    eventType ≠ "notification" := by
  have hnone : ∀ p ∈ EVENT_TYPES, p.2 ≠ "notification" := by decide
  exact hnone _ (mem_of_ofCommand h)

theorem fits_commandType (h : ofCommand EVENT_TYPES commandType = some eventType) :
    fitsColumn 128 commandType = true := by
  have hall : ∀ p ∈ EVENT_TYPES, fitsColumn 128 p.1 = true := by decide
  exact hall _ (mem_of_ofCommand h)

/-! ### An event that is counted -/

/-- A counted event is returned on the page of its position. -/
theorem returns_of_counted (hadm : db.Admitted env.schema)
    (hdevice : ∃ device ∈ db.devices, device.deviceId = deviceId)
    (hcommand : ofCommand EVENT_TYPES commandType = some eventType)
    (hevent : event ∈ matchingEvents db deviceId eventType) {n : ℕ} (hn : 0 < n)
    (hlimit : n < 2 ^ 63) :
    ∃ k, ∀ d payload userId, d.order = order → CacheRequest env payload (k + 1) n →
      (∀ page, queryCache env d db deviceId commandType payload = .ok page →
        LogAccepted env d db payload page.data) →
      Returns env d db deviceId commandType payload userId event := by
  obtain ⟨device, hd, rfl⟩ := hdevice
  have hsorted : event ∈ order.sort (matchingEvents db device.deviceId eventType) :=
    (order.perm _).mem_iff.2 hevent
  obtain ⟨k, hk, hpage⟩ := exists_mem_page hn hsorted
  rw [(order.perm _).length_eq] at hk
  refine ⟨k, fun d payload userId horder hreq hlog => ?_⟩
  subst horder
  have hquery := queryCache_of_request (d := d) hcommand hreq (Or.inr hk) hlimit
  -- the insertion of the log row changes no event
  have hdispatched : ∀ log, query env d (db.insertCommandLog log) device device.deviceId commandType
      payload = (queryCache env d db device.deviceId commandType payload).map CachePage.data :=
    fun log => if_pos hreq.mode
  rw [hquery] at hdispatched
  exact ⟨_, _, hquery, dispatch_of_query hadm (requireDevice_of_mem hadm.2.1.2 hd)
    (fits_commandType hcommand) (hlog _ hquery) hdispatched, rfl, hpage⟩

/-- A command returns only events of the type it looks for. -/
theorem eventType_of_returns {d : DispatchCall} {payload : List (Str × Json)} {userId : Option ℤ}
    (h : Returns env d db deviceId commandType payload userId event) :
    ofCommand EVENT_TYPES commandType = some event.eventType := by
  obtain ⟨page, -, hquery, -, -, hevent⟩ := h
  obtain ⟨found, hcommand, -, hsub⟩ := queryCache_eq_ok hquery
  have hfound := (d.order.perm _).mem_iff.1 (hsub.subset hevent)
  obtain ⟨-, hmatch⟩ := List.mem_filter.1 hfound
  simp only [Bool.and_eq_true, decide_eq_true_eq] at hmatch
  rw [hcommand, hmatch.2]

/-- **An event is found by a command** exactly when it is stored under the type the command looks
for. -/
theorem cacheAgrees_iff_eventType {posted : List (Str × Json)} (hadm : db.Admitted env.schema)
    (hdevice : ∃ device ∈ db.devices, device.deviceId = deviceId)
    (hcommand : ofCommand EVENT_TYPES commandType = some eventType)
    (hmem : event ∈ db.deviceEvents) (hid : event.deviceId = deviceId)
    (hstored : event.normalizedPayload = .obj posted) :
    CacheAgrees env order db deviceId commandType eventType posted event ↔
      event.eventType = eventType := by
  have hcounted : event ∈ matchingEvents db deviceId eventType ↔ event.eventType = eventType := by
    unfold matchingEvents
    simp [List.mem_filter, hmem, hid]
  constructor
  · exact fun h => hcounted.1 h.counted
  · intro htype
    refine ⟨hstored, hcounted.2 htype, fun d payload page hpage => ?_, fun n hn hlimit =>
      returns_of_counted hadm hdevice hcommand (hcounted.2 htype) hn hlimit,
      fun other hne d payload userId _ hret => ?_⟩
    · obtain ⟨found, hfound, htotal, -⟩ := queryCache_eq_ok hpage
      obtain rfl : found = eventType := Option.some.inj (hfound.symm.trans hcommand)
      exact htotal
    · have hother := eventType_of_returns hret
      rw [htype] at hother
      exact hne (eq_of_eventType hother hcommand)

/-! ### The event that was posted -/

/-- The rows that an `ingest` adds: one, with the payload, under the stored type. -/
theorem posted_of_ingest {webhook : DeviceWebhook} {c : IngestCall} {fields : List (Str × Json)}
    {r : Store × IngestResult} (hadm : db.Admitted env.schema) (hw : webhook ∈ db.deviceWebhooks)
    (hpayload : c.payload = .obj fields) (h : ingest env db webhook c = .ok r)
    (hnew : r.2.duplicate = false) :
    ∃ event, r.1.deviceEvents = db.deviceEvents ++ [event] ∧ event ∉ db.deviceEvents ∧
      event.deviceId = webhook.deviceId ∧ event.normalizedPayload = .obj fields ∧
      encode (storedType (declaredType env.runtime fields)) = some event.eventType ∧
      r.1.Admitted env.schema ∧ ∃ device ∈ r.1.devices, device.deviceId = webhook.deviceId := by
  obtain ⟨fields', event, hpayload', hbind, -, -, device, hd, hid, hdb, hadm'⟩ :=
    ingest_eq_ok hadm hw h
  obtain rfl : fields = fields' := by
    rw [hpayload] at hpayload'
    exact Json.obj.inj hpayload'
  obtain ⟨hdev, -, htype, hnormal⟩ := bindEvent_eq_ok hbind
  rw [env.driver.bindText_str] at htype
  rw [hnew] at hdb
  refine ⟨{ event with id := nextKey DeviceEvent.id db.deviceEvents }, ?_, fun hmem => ?_, hdev,
    hnormal, htype, hadm', ?_⟩
  · rw [hdb]
    rfl
  · have hlt : DeviceEvent.id { event with id := nextKey DeviceEvent.id db.deviceEvents } <
        nextKey DeviceEvent.id db.deviceEvents := lt_nextKey hmem
    exact absurd hlt (Nat.lt_irrefl _)
  · rw [hdb]
    refine ⟨calledDevice false c.now device, ?_, hid⟩
    exact (Store.mem_writeDevice hadm.2.1.1 hd (by rfl)).2 (Or.inl rfl)

end

/-- **The webhook and the cache agree** on a posted event exactly when the parser knows the type
that the command looks for. -/
theorem cacheAgrees_iff (db : Store) (hadm : db.Admitted env.schema) (webhook : DeviceWebhook)
    (hw : webhook ∈ db.deviceWebhooks) (c : IngestCall) (posted : List (Str × Json))
    (hpayload : c.payload = .obj posted) (commandType eventType : String)
    (hcommand : ofCommand EVENT_TYPES commandType = some eventType)
    (htype : declaredType env.runtime posted = py eventType) (r : Store × IngestResult)
    (hingest : ingest env db webhook c = .ok r) (hnew : r.2.duplicate = false)
    (order : RowOrder) :
    (∀ event ∈ r.1.deviceEvents, event ∉ db.deviceEvents →
        CacheAgrees env order r.1 webhook.deviceId commandType eventType posted event) ↔
      py eventType ∈ VALID_EVENT_TYPES := by
  obtain ⟨event, hrows, hfresh, hid, hstored, hencoded, hadm', hdevice⟩ :=
    posted_of_ingest hadm hw hpayload hingest hnew
  have hmem : event ∈ r.1.deviceEvents := by
    rw [hrows]
    exact List.mem_append_right _ (List.mem_singleton_self _)
  have honly : ∀ e ∈ r.1.deviceEvents, e ∉ db.deviceEvents → e = event := by
    intro e he hne
    rw [hrows] at he
    rcases List.mem_append.1 he with he | he
    · exact absurd he hne
    · exact List.mem_singleton.1 he
  have hagrees : (∀ e ∈ r.1.deviceEvents, e ∉ db.deviceEvents →
      CacheAgrees env order r.1 webhook.deviceId commandType eventType posted e) ↔
        event.eventType = eventType := by
    rw [← cacheAgrees_iff_eventType hadm' hdevice hcommand hmem hid hstored]
    constructor
    · exact fun h => h event hmem hfresh
    · intro h e he hne
      rwa [honly e he hne]
  rw [hagrees]
  rw [htype] at hencoded
  unfold storedType at hencoded
  by_cases hvalid : py eventType ∈ VALID_EVENT_TYPES
  · rw [if_pos hvalid, encode_py] at hencoded
    exact iff_of_true (Option.some.inj hencoded).symm hvalid
  · rw [if_neg hvalid, encode_py] at hencoded
    refine iff_of_false (fun heq => ?_) hvalid
    rw [← heq] at hcommand
    exact ne_notification hcommand (Option.some.inj hencoded).symm

/-- The webhook of a device. -/
def phoneWebhook : DeviceWebhook :=
  { newWebhook (plainEnv ormSchema) (generateDeviceId Uuid.nil) "a" with id := 1 }

/-- A device with that webhook. -/
def phoneStore : Store :=
  let db := Store.empty.insertDevice (DeviceService.newDevice (plainEnv ormSchema) Uuid.nil 0 {})
  { db with deviceWebhooks := [phoneWebhook] }

/-- The payload of an event of this type. -/
def phonePayload (type : String) : List (Str × Json) :=
  [(py "event_id", .str (py "e1")), (py "event_type", .str (py type))]

def phoneCall (type : String) : IngestCall where
  payload := .obj (phonePayload type)
  sourceIp := none
  parsedAt := 0
  now := 0

/-- The store and the answer after the event was posted. -/
def phonePosted (type : String) : Store × IngestResult :=
  match ingest (plainEnv ormSchema) phoneStore phoneWebhook (phoneCall type) with
  | .ok r => r
  | .error _ => (phoneStore, { duplicate := true, eventId := .null, eventType := [] })

/-- A posted message is found. -/
theorem posted_sms_agrees :
    (phonePosted "sms").1.deviceEvents.length = 1 ∧
      ∀ event ∈ (phonePosted "sms").1.deviceEvents, event ∉ phoneStore.deviceEvents →
        CacheAgrees (plainEnv ormSchema) insertionOrder (phonePosted "sms").1
          phoneWebhook.deviceId "sms.query" "sms" (phonePayload "sms") event :=
  ⟨rfl, (cacheAgrees_iff (plainEnv ormSchema) phoneStore (by decide) phoneWebhook (by decide)
    (phoneCall "sms") (phonePayload "sms") rfl "sms.query" "sms" (by decide) (by decide)
    (phonePosted "sms") rfl rfl insertionOrder).2 (by decide)⟩

/-- **A posted contact is stored as a notification**, where no command finds it. -/
theorem posted_contact_is_lost :
    ingest (plainEnv ormSchema) phoneStore phoneWebhook (phoneCall "contact") =
        .ok (phonePosted "contact") ∧
      (phonePosted "contact").2.duplicate = false ∧
      declaredType asciiRuntime (phonePayload "contact") = py "contact" ∧
      ofCommand EVENT_TYPES "contact.query" = some "contact" ∧
      ¬ ∀ event ∈ (phonePosted "contact").1.deviceEvents, event ∉ phoneStore.deviceEvents →
        CacheAgrees (plainEnv ormSchema) insertionOrder (phonePosted "contact").1
          phoneWebhook.deviceId "contact.query" "contact" (phonePayload "contact") event := by
  refine ⟨rfl, rfl, by decide, by decide, fun h => ?_⟩
  obtain ⟨event, hrows⟩ : ∃ event, (phonePosted "contact").1.deviceEvents = [event] := ⟨_, rfl⟩
  have hagrees := h event (by rw [hrows]; exact List.mem_singleton_self _) List.not_mem_nil
  have hcounted := hagrees.counted
  have hnone : matchingEvents (phonePosted "contact").1 phoneWebhook.deviceId "contact" = [] := rfl
  rw [hnone] at hcounted
  simp at hcounted

end SmsForwarder
