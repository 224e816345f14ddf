/-
**The command service.**

A query command asks a device for data, either over the network (mode `realtime`) or from the
events it has posted (mode `cache`).  Every dispatched command leaves a row in the command log, which
is committed before the query and completed after it, whatever the query ends in.

Main definitions:

* `SmsForwarder.COMMAND_PATHS`, `SmsForwarder.EVENT_TYPES` — what a command queries, by its type;
* `SmsForwarder.RowOrder` — an order in which the database may return rows, the newest first;
* `SmsForwarder.DispatchCall` — what a dispatch takes from outside: the clock, the network, the
  database's order of rows;
* `SmsForwarder.SmsForwarderHttpAdapter.request` — a request to the device;
* `SmsForwarder.CommandService.queryCache`, `SmsForwarder.CommandService.queryRealtime`,
  `SmsForwarder.CommandService.dispatch` — the two queries, and the command.

Main results:

* `SmsForwarder.CommandService.queryCache_eq_ok` — what a cache query returns;
* `SmsForwarder.CommandService.dispatch_of_query` — **a dispatch whose log the database accepts
  answers with what its query returns.**
-/

import SmsForwarder.DeviceService
import SmsForwarder.Masking

set_option relaxedAutoImplicit false
set_option autoImplicit false

namespace SmsForwarder

open Py Tables

/-! ### Command types -/

def COMMAND_PATHS : List (String × String) :=
  [("config.query", "/config/query"),
    ("sms.query", "/sms/query"),
    ("call.query", "/call/query"),
    ("contact.query", "/contact/query"),
    ("battery.query", "/battery/query"),
    ("location.query", "/location/query")]

def EVENT_TYPES : List (String × String) :=
  [("sms.query", "sms"),
    ("call.query", "call"),
    ("contact.query", "contact"),
    ("battery.query", "battery"),
    ("location.query", "location")]

/-- `table.get(command_type)`. -/
def ofCommand (table : List (String × String)) (commandType : String) : Option String :=
  table.lookup commandType

theorem mem_of_ofCommand {table : List (String × String)} {commandType value : String}
    (h : ofCommand table commandType = some value) : (commandType, value) ∈ table := by
  obtain ⟨l, l', rfl, -⟩ := List.lookup_eq_some_iff.1 h
  exact List.mem_append_right _ List.mem_cons_self

/-- `generate_request_id`. -/
def generateRequestId (uuid : Uuid) : String := "cmd-" ++ String.ofList (uuid.hex.take 16)

/-! ### What a dispatch takes from outside -/

/-- An order in which the database may return event rows for `ORDER BY created_at DESC`: rows with
equal times come in any order. -/
structure RowOrder where
  sort : List DeviceEvent → List DeviceEvent
  perm : ∀ rows, (sort rows).Perm rows
  newestFirst : ∀ rows, (sort rows).Pairwise fun a b => b.createdAt ≤ a.createdAt

/-- The stable order: rows with equal times in the order of their insertion. -/
def insertionOrder : RowOrder where
  sort rows := rows.insertionSort fun a b => b.createdAt ≤ a.createdAt
  perm rows := List.perm_insertionSort _ rows
  newestFirst rows := List.pairwise_insertionSort _ rows

/-- What posting a request to a device ends in. -/
inductive PostOutcome
  | timeout
  /-- any other `httpx.HTTPError`, with its text -/
  | httpError (text : String)
  | response (data : Json)
  /-- any other exception, for instance of a body that is no JSON -/
  | raised (e : PyError)

/-- What a dispatch takes from outside. -/
structure DispatchCall where
  uuid : Uuid
  order : RowOrder
  /-- the time in milliseconds, as text -/
  timestamp : String
  /-- the HMAC-SHA256 of a message under a key, in percent-encoded base64 -/
  hmac : (key message : String) → String
  post : (url : String) → (body : Json) → PostOutcome
  /-- `str(exc)` -/
  exceptionText : PyError → String
  completedAt : Timestamp

/-! ### Requests to the device -/

namespace SmsForwarderHttpAdapter

/-- `build_sign`. -/
def buildSign (d : DispatchCall) (timestamp secret : String) : String :=
  d.hmac secret (timestamp ++ "\n" ++ secret)

/-- The body of a request. -/
def requestBody (d : DispatchCall) (payload : List (Str × Json)) (secret : Option String) : Json :=
  let body := [(py "data", .obj payload), (py "timestamp", .str (py d.timestamp))]
  match secret with
  | none | some "" => .obj body
  | some secret => .obj (body ++ [(py "sign", .str (py (buildSign d d.timestamp secret)))])

/-- `f"{base_url.rstrip('/')}/{path.lstrip('/')}"`. -/
def requestUrl (baseUrl path : String) : String :=
  String.ofList (baseUrl.toList.rdropWhile (· = '/')) ++ "/" ++
    String.ofList (path.toList.dropWhile (· = '/'))

/-- `SmsForwarderHttpAdapter.request`. -/
def request (d : DispatchCall) (baseUrl path : String) (payload : List (Str × Json))
    (secret : Option String) : Except PyError (List (Str × Json)) :=
  if baseUrl = "" then .error (.app (DeviceChannelError "device base_url is required"))
  else
    match d.post (requestUrl baseUrl path) (requestBody d payload secret) with
    | .timeout => .error (.app DeviceTimeoutError)
    | .httpError text => .error (.app (DeviceChannelError text))
    | .response (.obj data) => .ok data
    | .response _ => .error (.app (DeviceChannelError "invalid device response"))
    | .raised e => .error e

end SmsForwarderHttpAdapter

namespace CommandService

variable (env : Env)

/-! ### Queries -/

/-- `int(v)`. -/
def intOf : Json → Except PyError ℤ
  | .num (.int z) => .ok z
  | .num (.float (.finite neg m e)) => .ok (truncate neg m e)
  | .num (.float .nan) => .error .valueError
  | .num (.float (.inf _)) => .error .overflowError
  | .bool b => .ok (if b then 1 else 0)
  | .str s =>
      match env.runtime.parseInt s with
      | some z => .ok z
      | none => .error .valueError
  | .null | .arr _ | .obj _ => .error .typeError

/-- The rows that a cache query counts. -/
def matchingEvents (db : Store) (deviceId eventType : String) : List DeviceEvent :=
  db.deviceEvents.filter fun e => e.deviceId = deviceId && e.eventType = eventType

/-- A page of cached events. -/
structure CachePage where
  rows : List DeviceEvent
  total : ℕ
  pageNum : ℤ
  pageSize : ℤ

/-- The dictionary that `_query_cache` returns. -/
def CachePage.data (page : CachePage) : List (Str × Json) :=
  [(py "items", .arr (page.rows.map DeviceEvent.normalizedPayload)),
    (py "total", .num (.int page.total)),
    (py "page_num", .num (.int page.pageNum)),
    (py "page_size", .num (.int page.pageSize))]

/-- The event type a cache query looks for. -/
def cachedType (commandType : String) : Except PyError String :=
  match ofCommand EVENT_TYPES commandType with
  | some eventType => .ok eventType
  | none => conflict "cache mode is not supported for this command"

/-- The rows of a page, as the database returns them. -/
def fetchPage (d : DispatchCall) (rows : List DeviceEvent) (pageNum pageSize : ℤ) :
    Except PyError (List DeviceEvent) :=
  match env.driver.slice ((pageNum - 1) * pageSize) pageSize (d.order.sort rows) with
  | some items => .ok items
  | none => .error .dataError

/-- `CommandService._query_cache`. -/
def queryCache (d : DispatchCall) (db : Store) (deviceId commandType : String)
    (payload : List (Str × Json)) : Except PyError CachePage := do
  let eventType ← cachedType commandType
  let pageNum ← intOf env (Json.getD payload (py "page_num") (.num (.int 1)))
  let pageSize ← intOf env (Json.getD payload (py "page_size") (.num (.int 10)))
  let rows := matchingEvents db deviceId eventType
  let items ← fetchPage env d rows pageNum pageSize
  pure { rows := items, total := rows.length, pageNum, pageSize }

/-- `decrypt(secret) if secret else None`. -/
def signSecret (device : Device) : Except PyError (Option String) :=
  match device.signSecretEncrypted with
  | none | some "" => .ok none
  | some ciphertext => (decrypt env ciphertext).map some

/-- The path of a command. -/
def commandPath (commandType : String) : Except PyError String :=
  match ofCommand COMMAND_PATHS commandType with
  | some path => .ok path
  | none => conflict "unsupported command type"

/-- The base URL of a device that can be reached. -/
def reachableUrl (device : Device) : Except PyError String :=
  if device.channelType = "webhook_only" then conflict "device only supports cache mode"
  else
    match device.baseUrl with
    | none | some "" => conflict "device base_url is required for realtime mode"
    | some baseUrl => .ok baseUrl

/-- `CommandService._query_realtime`. -/
def queryRealtime (d : DispatchCall) (device : Device) (commandType : String)
    (payload : List (Str × Json)) : Except PyError (List (Str × Json)) := do
  let baseUrl ← reachableUrl device
  let path ← commandPath commandType
  let secret ← signSecret env device
  SmsForwarderHttpAdapter.request d baseUrl path (payload.filter fun kv => kv.1 ≠ py "mode") secret

/-- `str(payload.get("mode", "realtime"))`. -/
def modeOf (payload : List (Str × Json)) : Str :=
  env.runtime.str (Json.getD payload (py "mode") (.str (py "realtime")))

/-- The query of a dispatch, by its mode. -/
def query (d : DispatchCall) (db : Store) (device : Device) (deviceId commandType : String)
    (payload : List (Str × Json)) : Except PyError (List (Str × Json)) :=
  if modeOf env payload = py "cache" then
    (queryCache env d db deviceId commandType payload).map CachePage.data
  else if modeOf env payload = py "realtime" then queryRealtime env d device commandType payload
  else conflict "unsupported query mode"

/-! ### The command log -/

/-- The parameter of a JSON column. -/
def bindJson (v : Json) : Except PyError Unit :=
  if env.driver.acceptsJson v then .ok () else .error .statementError

/-- The row `_create_log` adds to the session. -/
def newLog (d : DispatchCall) (device : Device) (commandType : String)
    (payload : List (Str × Json)) (userId : Option ℤ) : DeviceCommandLog where
  id := 0
  requestId := generateRequestId d.uuid
  deviceId := device.deviceId
  userId := userId
  commandType := commandType
  channelType := device.channelType
  status := "pending"
  requestSummary := scrub env.runtime (.obj payload)
  responseSummary := .obj []
  errorMsg := none
  completedAt := none

/-- The row as the database has it after the insertion. -/
def insertedLog (db : Store) (log : DeviceCommandLog) : DeviceCommandLog :=
  { log with id := nextKey DeviceCommandLog.id db.deviceCommandLogs }

/-- `CommandService._create_log`. -/
def createLog (d : DispatchCall) (db : Store) (device : Device) (commandType : String)
    (payload : List (Str × Json)) (userId : Option ℤ) :
    Except PyError (Store × DeviceCommandLog) := do
  let log := newLog env d device commandType payload userId
  let _ ← bindJson env log.requestSummary
  let db' ← commit env.schema (db.insertCommandLog log)
  pure (db', insertedLog db log)

/-- The row as `_finish_log` leaves it. -/
def finishedLog (d : DispatchCall) (log : DeviceCommandLog) (status : String)
    (response : List (Str × Json)) (errorMsg : Option String) : DeviceCommandLog :=
  { log with
    status := status
    responseSummary := scrub env.runtime (.obj response)
    errorMsg := errorMsg
    completedAt := some d.completedAt }

/-- `CommandService._finish_log`. -/
def finishLog (d : DispatchCall) (db : Store) (log : DeviceCommandLog) (status : String)
    (response : List (Str × Json)) (errorMsg : Option String) : Except PyError Store := do
  let new := finishedLog env d log status response errorMsg
  let _ ← bindJson env new.responseSummary
  commit env.schema (db.writeCommandLog log new)

/-! ### `dispatch` -/

/-- The answer of a dispatch. -/
structure DispatchAnswer where
  requestId : String
  mode : Str
  result : List (Str × Json)

/-- What the two `except` clauses write to the log and raise. -/
def failure (d : DispatchCall) : PyError → String × PyError
  | .app e => (e.message, .app e)
  | e => (d.exceptionText e, .app (DeviceChannelError "command dispatch failed"))

/-- The end of a dispatch, once the query has ended: the log row is committed before the answer. -/
def finish (d : DispatchCall) (db : Store) (log : DeviceCommandLog) (mode : Str)
    (outcome : Except PyError (List (Str × Json))) : Except PyError DispatchAnswer × Store :=
  match outcome with
  | .ok data =>
      match finishLog env d db log "success" data none with
      | .ok db' => (.ok { requestId := log.requestId, mode, result := data }, db')
      | .error e => (.error e, db)
  | .error e =>
      match finishLog env d db log "failed" [] (some (failure d e).1) with
      | .ok db' => (.error (failure d e).2, db')
      | .error e => (.error e, db)

/-- `CommandService.dispatch`: the answer, and the store the dispatch leaves even if it fails. -/
def dispatch (d : DispatchCall) (db : Store) (deviceId commandType : String)
    (payload : List (Str × Json)) (userId : Option ℤ) : Except PyError DispatchAnswer × Store :=
  match requireDevice db deviceId with
  | .error e => (.error e, db)
  | .ok device =>
      match createLog env d db device commandType payload userId with
      | .error e => (.error e, db)
      | .ok (db', log) =>
          finish env d db' log (modeOf env payload)
            (query env d db' device deviceId commandType payload)

/-- The store that a dispatch leaves: the one it found, with the log row inserted, or with that row
completed too. -/
theorem dispatch_store_cases (d : DispatchCall) (db : Store) (deviceId commandType : String)
    (payload : List (Str × Json)) (userId : Option ℤ) :
    (dispatch env d db deviceId commandType payload userId).2 = db ∨
      ∃ device db' log, createLog env d db device commandType payload userId = .ok (db', log) ∧
        ((dispatch env d db deviceId commandType payload userId).2 = db' ∨
          ∃ status response errorMsg, finishLog env d db' log status response errorMsg =
            .ok (dispatch env d db deviceId commandType payload userId).2) := by
  unfold dispatch
  split
  · exact Or.inl rfl
  · rename_i device hdevice
    split
    · exact Or.inl rfl
    · rename_i db' log hcreate
      refine Or.inr ⟨device, db', log, hcreate, ?_⟩
      unfold finish
      split
      · split
        · rename_i hok
          exact Or.inr ⟨_, _, _, hok⟩
        · exact Or.inl rfl
      · split
        · rename_i hok
          exact Or.inr ⟨_, _, _, hok⟩
        · exact Or.inl rfl

/-! ### What the queries return -/

section

variable {env} {d : DispatchCall} {db : Store} {deviceId commandType : String}
  {payload : List (Str × Json)}

/-- What a cache query returns: a slice of the rows it counts, in the order of the database. -/
theorem queryCache_eq_ok {page : CachePage}
    (h : queryCache env d db deviceId commandType payload = .ok page) :
    ∃ eventType, ofCommand EVENT_TYPES commandType = some eventType ∧
      page.total = (matchingEvents db deviceId eventType).length ∧
      page.rows.Sublist (d.order.sort (matchingEvents db deviceId eventType)) := by
  obtain ⟨eventType, htype, h⟩ := bind_eq_ok.1 h
  obtain ⟨pageNum, -, h⟩ := bind_eq_ok.1 h
  obtain ⟨pageSize, -, h⟩ := bind_eq_ok.1 h
  obtain ⟨items, hitems, h⟩ := bind_eq_ok.1 h
  cases h
  refine ⟨eventType, ?_, rfl, ?_⟩
  · unfold cachedType at htype
    cases hcommand : ofCommand EVENT_TYPES commandType with
    | none =>
        rw [hcommand] at htype
        simp at htype
    | some found =>
        rw [hcommand] at htype
        exact congrArg some (Except.ok.inj htype)
  · unfold fetchPage at hitems
    split at hitems
    · rename_i found hslice
      obtain rfl := Except.ok.inj hitems
      exact env.driver.slice_sublist hslice
    · simp at hitems

/-- The payload asks for a page of the cache, counted from one. -/
structure CacheRequest (env : Env) (payload : List (Str × Json)) (pageNum pageSize : ℕ) : Prop where
  mode : modeOf env payload = py "cache"
  pageNum : intOf env (Json.getD payload (py "page_num") (.num (.int 1))) = .ok (pageNum : ℤ)
  pageSize : intOf env (Json.getD payload (py "page_size") (.num (.int 10))) = .ok (pageSize : ℤ)

/-- The pages of a cache query are those of the rows it counts. -/
theorem queryCache_of_request {k n : ℕ} {eventType : String}
    (hcommand : ofCommand EVENT_TYPES commandType = some eventType)
    (hreq : CacheRequest env payload (k + 1) n)
    (hoffset : k * n < 2 ^ 63 ∨ k * n ≤ (matchingEvents db deviceId eventType).length)
    (hlimit : n < 2 ^ 63) :
    queryCache env d db deviceId commandType payload = .ok
      { rows := Tables.page n k (d.order.sort (matchingEvents db deviceId eventType))
        total := (matchingEvents db deviceId eventType).length
        pageNum := ((k + 1 : ℕ) : ℤ)
        pageSize := n } := by
  have hlen := (d.order.perm (matchingEvents db deviceId eventType)).length_eq
  have hslice : env.driver.slice ((((k + 1 : ℕ) : ℤ) - 1) * n) n
      (d.order.sort (matchingEvents db deviceId eventType)) =
        some (Tables.page n k (d.order.sort (matchingEvents db deviceId eventType))) := by
    have hcast : (((k + 1 : ℕ) : ℤ) - 1) * n = ((k * n : ℕ) : ℤ) := by push_cast; ring
    rw [hcast]
    refine env.driver.slice_eq (k * n) n _ ?_ hlimit
    rwa [hlen]
  have htype : cachedType commandType = .ok eventType := by
    unfold cachedType
    rw [hcommand]
  have hfetch : fetchPage env d (matchingEvents db deviceId eventType) ((k + 1 : ℕ) : ℤ) n =
      .ok (Tables.page n k (d.order.sort (matchingEvents db deviceId eventType))) := by
    unfold fetchPage
    rw [hslice]
  unfold queryCache
  simp only [htype, hreq.pageNum, hreq.pageSize, hfetch, bind, Except.bind, pure, Except.pure]

/-- The database accepts the log row of a dispatch that returns `data`: its request identifier is
new, and the JSON columns take what is logged. -/
structure LogAccepted (env : Env) (d : DispatchCall) (db : Store)
    (payload data : List (Str × Json)) : Prop where
  fresh : ∀ l ∈ db.deviceCommandLogs, l.requestId ≠ generateRequestId d.uuid
  request : env.driver.acceptsJson (scrub env.runtime (.obj payload)) = true
  response : env.driver.acceptsJson (scrub env.runtime (.obj data)) = true

theorem fits_generateRequestId (uuid : Uuid) : fitsColumn 128 (generateRequestId uuid) = true := by
  have hlen : (String.ofList (uuid.hex.take 16)).length ≤ 16 := by
    rw [String.length_ofList]
    exact List.length_take_le _ _
  have hprefix : "cmd-".length = 4 := by decide
  unfold fitsColumn generateRequestId
  rw [decide_eq_true_eq, String.length_append]
  omega

/-- The database inserts the log row of a dispatch if its request identifier is new and its summary
is accepted. -/
theorem createLog_of_fresh {device : Device} (hadm : db.Admitted env.schema)
    (hdevice : requireDevice db deviceId = .ok device) (hcommand : fitsColumn 128 commandType = true)
    (hfresh : ∀ l ∈ db.deviceCommandLogs, l.requestId ≠ generateRequestId d.uuid)
    (hrequest : env.driver.acceptsJson (scrub env.runtime (.obj payload)) = true)
    (userId : Option ℤ) :
    (db.insertCommandLog (newLog env d device commandType payload userId)).Admitted env.schema ∧
      createLog env d db device commandType payload userId = .ok
        (db.insertCommandLog (newLog env d device commandType payload userId),
          insertedLog db (newLog env d device commandType payload userId)) := by
  have hdev := (requireDevice_eq_ok hdevice).1
  have hfits : env.schema.enforceLengths = true →
      (newLog env d device commandType payload userId).fits = true := by
    intro hs
    have hd := hadm.columnsFit hs hdev
    simp only [DeviceCommandLog.fits, newLog, fits_generateRequestId, hd.deviceId, hcommand,
      hd.channelType, Bool.true_and]
    decide
  have hadm' := hadm.insertCommandLog hfits hfresh
  have hbind : bindJson env (newLog env d device commandType payload userId).requestSummary =
      .ok () := if_pos hrequest
  refine ⟨hadm', ?_⟩
  unfold createLog
  simp only [hbind, commit_eq_ok.2 ⟨rfl, hadm'⟩, bind, Except.bind, pure, Except.pure]

/-- **A dispatch whose log the database accepts** answers with what its query returns. -/
theorem dispatch_of_query {device : Device} {data : List (Str × Json)} {userId : Option ℤ}
    (hadm : db.Admitted env.schema) (hdevice : requireDevice db deviceId = .ok device)
    (hcommand : fitsColumn 128 commandType = true) (hlog : LogAccepted env d db payload data)
    (hquery : ∀ log, query env d (db.insertCommandLog log) device deviceId commandType payload =
      .ok data) :
    (dispatch env d db deviceId commandType payload userId).1 = .ok
      { requestId := generateRequestId d.uuid
        mode := modeOf env payload
        result := data } := by
  obtain ⟨hadm', hcreate⟩ :=
    createLog_of_fresh hadm hdevice hcommand hlog.fresh hlog.request userId
  have hmem : insertedLog db (newLog env d device commandType payload userId) ∈
      (db.insertCommandLog (newLog env d device commandType payload userId)).deviceCommandLogs :=
    List.mem_append_right _ (List.mem_singleton_self _)
  have hsuccess : fitsColumn 32 "success" = true := by decide
  have hfinished : ((db.insertCommandLog (newLog env d device commandType payload
      userId)).writeCommandLog (insertedLog db (newLog env d device commandType payload userId))
        (finishedLog env d (insertedLog db (newLog env d device commandType payload userId))
          "success" data none)).Admitted env.schema :=
    hadm'.writeCommandLog hmem rfl rfl fun hf => by
      simp only [DeviceCommandLog.fits, Bool.and_eq_true] at hf ⊢
      exact ⟨hf.1, hsuccess⟩
  have hfinish := commit_eq_ok.2 ⟨rfl, hfinished⟩
  have hbind : bindJson env (finishedLog env d
      (insertedLog db (newLog env d device commandType payload userId)) "success" data
        none).responseSummary = .ok () := if_pos hlog.response
  unfold dispatch
  simp only [hdevice, hcreate, hquery]
  unfold finish finishLog
  simp only [hbind, hfinish, bind, Except.bind]
  rfl

end

end CommandService

end SmsForwarder
