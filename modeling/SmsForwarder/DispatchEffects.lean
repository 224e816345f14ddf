/-
**What a dispatch asks of the device.**

The command service with its requests to the device on record: every call of the adapter, and every
message that is posted.  The record shows that a dispatch passes through its log exactly once,
whatever the query ends in, and asks the device only where it should.

Main definitions:

* `SmsForwarder.AdapterCall`, `SmsForwarder.Effect` — what is on record;
* `SmsForwarder.CommandService.tracedDispatch` — the dispatch with its record;
* `SmsForwarder.CommandService.LogStatementsSucceed` — the database takes the log of a dispatch;
* `SmsForwarder.CommandService.DispatchLogged`, `SmsForwarder.CommandService.DispatchSound` — what a
  dispatch is to leave behind.

Main results:

* `SmsForwarder.CommandService.tracedDispatch_fst` — without the record it is the dispatch;
* `SmsForwarder.CommandService.dispatchSound_traced` — **every dispatch on a device completes one row
  of the log, raises application errors only, and calls the adapter at most once**, as long as
  `scrub` has room for its calls.
-/

import SmsForwarder.CommandService
import SmsForwarder.Effects

set_option relaxedAutoImplicit false
set_option autoImplicit false

namespace SmsForwarder

open Py Tables Effects

/-! ### Records -/

/-- The arguments of a call of `SmsForwarderHttpAdapter.request`. -/
structure AdapterCall where
  baseUrl : String
  path : String
  payload : List (Str × Json)
  secret : Option String

/-- What is on record: a call of the adapter, or a message that it posts. -/
inductive Effect
  | adapter (call : AdapterCall)
  | post (url : String) (body : Json)

/-- The calls of the adapter on record. -/
def adapterCalls (effects : List Effect) : List AdapterCall :=
  effects.filterMap fun
    | .adapter call => some call
    | .post _ _ => none

namespace SmsForwarderHttpAdapter

/-- The answer to a message that was posted. -/
def received : PostOutcome → Except PyError (List (Str × Json))
  | .timeout => .error (.app DeviceTimeoutError)
  | .httpError text => .error (.app (DeviceChannelError text))
  | .response (.obj data) => .ok data
  | .response _ => .error (.app (DeviceChannelError "invalid device response"))
  | .raised e => .error e

/-- `SmsForwarderHttpAdapter.request` with its record. -/
def tracedRequest (d : DispatchCall) (call : AdapterCall) :
    Traced PyError Effect (List (Str × Json)) := do
  emit (.adapter call)
  if call.baseUrl = "" then lift (.error (.app (DeviceChannelError "device base_url is required")))
  else
    emit (.post (requestUrl call.baseUrl call.path) (requestBody d call.payload call.secret))
    lift (received (d.post (requestUrl call.baseUrl call.path)
      (requestBody d call.payload call.secret)))

theorem tracedRequest_result (d : DispatchCall) (call : AdapterCall) :
    (tracedRequest d call).result =
      request d call.baseUrl call.path call.payload call.secret := by
  unfold tracedRequest request
  by_cases hurl : call.baseUrl = ""
  · rw [if_pos hurl, if_pos hurl]
    rfl
  · rw [if_neg hurl, if_neg hurl]
    show received _ = _
    unfold received
    split <;> simp_all

theorem tracedRequest_effects (d : DispatchCall) (call : AdapterCall) :
    (tracedRequest d call).effects = .adapter call ::
      if call.baseUrl = "" then []
      else [.post (requestUrl call.baseUrl call.path) (requestBody d call.payload call.secret)] := by
  unfold tracedRequest
  rw [effects_emit_bind]
  by_cases hurl : call.baseUrl = ""
  · rw [if_pos hurl, if_pos hurl]
    rfl
  · rw [if_neg hurl, if_neg hurl]
    rfl

end SmsForwarderHttpAdapter

namespace CommandService

open SmsForwarderHttpAdapter

variable (env : Env)

/-- `CommandService._query_realtime` with its record. -/
def tracedRealtime (d : DispatchCall) (device : Device) (commandType : String)
    (payload : List (Str × Json)) : Traced PyError Effect (List (Str × Json)) := do
  let baseUrl ← lift (reachableUrl device)
  let path ← lift (commandPath commandType)
  let secret ← lift (signSecret env device)
  tracedRequest d { baseUrl, path, payload := payload.filter fun kv => kv.1 ≠ py "mode", secret }

/-- The query of a dispatch with its record: a cache query asks the database alone. -/
def tracedQuery (d : DispatchCall) (db : Store) (device : Device) (deviceId commandType : String)
    (payload : List (Str × Json)) : Traced PyError Effect (List (Str × Json)) :=
  if modeOf env payload = py "cache" then
    lift ((queryCache env d db deviceId commandType payload).map CachePage.data)
  else if modeOf env payload = py "realtime" then tracedRealtime env d device commandType payload
  else lift (conflict "unsupported query mode")

/-- What a dispatch ends in: the answer, the store, and the effects. -/
abbrev DispatchRun := (Except PyError DispatchAnswer × Store) × List Effect

/-- `CommandService.dispatch` with its record. -/
def tracedDispatch (d : DispatchCall) (db : Store) (deviceId commandType : String)
    (payload : List (Str × Json)) (userId : Option ℤ) : DispatchRun :=
  match requireDevice db deviceId with
  | .error e => ((.error e, db), [])
  | .ok device =>
      match createLog env d db device commandType payload userId with
      | .error e => ((.error e, db), [])
      | .ok (db', log) =>
          let outcome := tracedQuery env d db' device deviceId commandType payload
          (finish env d db' log (modeOf env payload) outcome.result, outcome.effects)

/-! ### The record changes nothing -/

section

variable {env} {d : DispatchCall} {db : Store} {device : Device} {deviceId commandType : String}
  {payload : List (Str × Json)} {userId : Option ℤ}

theorem tracedRealtime_result :
    (tracedRealtime env d device commandType payload).result =
      queryRealtime env d device commandType payload := by
  unfold tracedRealtime queryRealtime
  simp only [result_bind, result_lift, tracedRequest_result]

theorem tracedQuery_result :
    (tracedQuery env d db device deviceId commandType payload).result =
      query env d db device deviceId commandType payload := by
  unfold tracedQuery query
  split
  · rfl
  · split
    · exact tracedRealtime_result
    · rfl

/-- **Without its record**, the traced dispatch is the dispatch. -/
theorem tracedDispatch_fst :
    (tracedDispatch env d db deviceId commandType payload userId).1 =
      dispatch env d db deviceId commandType payload userId := by
  unfold tracedDispatch dispatch
  cases requireDevice db deviceId with
  | error e => rfl
  | ok device =>
      simp only
      cases createLog env d db device commandType payload userId with
      | error e => rfl
      | ok r => simp only [tracedQuery_result]

/-! ### What is on record -/

/-- A query calls the adapter in realtime mode only, once the address, the path and the secret are
there. -/
theorem tracedQuery_effects_cases :
    (tracedQuery env d db device deviceId commandType payload).effects = [] ∨
      ∃ baseUrl path secret, modeOf env payload = py "realtime" ∧
        reachableUrl device = .ok baseUrl ∧ commandPath commandType = .ok path ∧
        signSecret env device = .ok secret ∧
        (tracedQuery env d db device deviceId commandType payload).effects =
          (tracedRequest d
            { baseUrl, path, payload := payload.filter fun kv => kv.1 ≠ py "mode",
              secret }).effects := by
  unfold tracedQuery
  split
  · exact Or.inl rfl
  · split
    · rename_i hmode
      unfold tracedRealtime
      rcases effects_lift_bind_cases (reachableUrl device) _ with hnone | ⟨baseUrl, hurl, heq⟩
      · exact Or.inl hnone
      rw [heq]
      rcases effects_lift_bind_cases (commandPath commandType) _ with hnone | ⟨path, hpath, heq⟩
      · exact Or.inl hnone
      rw [heq]
      rcases effects_lift_bind_cases (signSecret env device) _ with hnone | ⟨secret, hsecret, heq⟩
      · exact Or.inl hnone
      exact Or.inr ⟨baseUrl, path, secret, hmode, hurl, hpath, hsecret, heq⟩
    · exact Or.inl rfl

theorem reachableUrl_eq_ok {baseUrl : String} (h : reachableUrl device = .ok baseUrl) :
    device.channelType ≠ "webhook_only" ∧ device.baseUrl = some baseUrl ∧ baseUrl ≠ "" := by
  unfold reachableUrl at h
  split at h
  · simp at h
  · rename_i hchannel
    split at h
    · simp at h
    · simp at h
    · rename_i found hnonempty hfound
      obtain rfl := Except.ok.inj h
      exact ⟨hchannel, hfound, hnonempty⟩

theorem commandPath_eq_ok {path : String} (h : commandPath commandType = .ok path) :
    ofCommand COMMAND_PATHS commandType = some path := by
  unfold commandPath at h
  split at h
  · rename_i found hfound
    rw [hfound, Except.ok.inj h]
  · simp at h

theorem adapterCalls_tracedRequest (d : DispatchCall) (call : AdapterCall) :
    adapterCalls (tracedRequest d call).effects = [call] := by
  rw [tracedRequest_effects]
  split <;> rfl

end

/-! ### The log -/

variable (d : DispatchCall) (db : Store) (deviceId commandType : String)
  (payload : List (Str × Json)) (userId : Option ℤ)

/-- The `_finish_log` a dispatch ends with. -/
def concludeLog (log : DeviceCommandLog) :
    Except PyError (List (Str × Json)) → Except PyError Store
  | .ok data => finishLog env d db log "success" data none
  | .error e => finishLog env d db log "failed" [] (some (failure d e).1)

/-- The database statements for the log of a dispatch succeed: the insertion of the row, and the
update after the query. -/
def LogStatementsSucceed : Prop :=
  ∀ device, requireDevice db deviceId = .ok device →
    ∃ db' log db'', createLog env d db device commandType payload userId = .ok (db', log) ∧
      concludeLog env d db' log (query env d db' device deviceId commandType payload) = .ok db''

/-- What a dispatch on the device is to leave behind. -/
structure DispatchLogged (run : DispatchRun) (device : Device) : Prop where
  /-- one row more, which is completed, and nothing else is changed -/
  row : ∃ row, run.1.2 = { db with deviceCommandLogs := db.deviceCommandLogs ++ [row] } ∧
    row.deviceId = deviceId ∧ row.commandType = commandType ∧ row.completedAt.isSome = true ∧
    row.status =
      match run.1.1 with
      | .ok _ => "success"
      | .error _ => "failed"
  errors : ∀ e, run.1.1 = .error e → ∃ appError, e = .app appError
  adapterOnce : (adapterCalls run.2).length ≤ 1
  adapterOnly : ∀ call ∈ adapterCalls run.2,
    modeOf env payload = py "realtime" ∧ device.channelType ≠ "webhook_only" ∧
      device.baseUrl = some call.baseUrl ∧ call.baseUrl ≠ "" ∧
      ofCommand COMMAND_PATHS commandType = some call.path

/-- What a dispatch is to do: on a device it is logged, on an unknown one it does nothing. -/
structure DispatchSound (run : DispatchRun) : Prop where
  onDevice : ∀ device ∈ db.devices, device.deviceId = deviceId →
    DispatchLogged env db deviceId commandType payload run device
  onUnknown : (∀ device ∈ db.devices, device.deviceId ≠ deviceId) →
    run = ((.error (.app (NotFoundError "device not found")), db), [])

section

variable {env d db deviceId commandType payload userId} {device : Device}

/-- The exception a failed dispatch raises is an application error. -/
theorem failure_app (e : PyError) : ∃ appError, (failure d e).2 = .app appError := by
  cases e <;> exact ⟨_, rfl⟩

/-- A dispatch whose log statements succeed answers with the outcome of the query. -/
theorem dispatch_of_statements {db' db'' : Store} {log : DeviceCommandLog}
    (hdevice : requireDevice db deviceId = .ok device)
    (hcreate : createLog env d db device commandType payload userId = .ok (db', log))
    (hconclude : concludeLog env d db' log (query env d db' device deviceId commandType payload) =
      .ok db'') :
    (dispatch env d db deviceId commandType payload userId).2 = db'' ∧
      (dispatch env d db deviceId commandType payload userId).1 =
        match query env d db' device deviceId commandType payload with
        | .ok data => .ok
            { requestId := log.requestId, mode := modeOf env payload, result := data }
        | .error e => .error (failure d e).2 := by
  unfold dispatch
  simp only [hdevice, hcreate]
  unfold finish concludeLog at *
  cases hquery : query env d db' device deviceId commandType payload with
  | ok data =>
      rw [hquery] at hconclude
      simp only at hconclude ⊢
      rw [hconclude]
      exact ⟨rfl, rfl⟩
  | error e =>
      rw [hquery] at hconclude
      simp only at hconclude ⊢
      rw [hconclude]
      exact ⟨rfl, rfl⟩

/-- The insertion of the log row, and its update right after. -/
theorem rows_of_statements {db' db'' : Store} {log : DeviceCommandLog} {status : String}
    {response : List (Str × Json)} {errorMsg : Option String}
    (hcreate : createLog env d db device commandType payload userId = .ok (db', log))
    (hfinish : finishLog env d db' log status response errorMsg = .ok db'') :
    log = insertedLog db (newLog env d device commandType payload userId) ∧
      db'' = { db with
        deviceCommandLogs :=
          db.deviceCommandLogs ++ [finishedLog env d log status response errorMsg] } := by
  obtain ⟨_, -, hcreate⟩ := bind_eq_ok.1 hcreate
  obtain ⟨inserted, hinsert, hcreate⟩ := bind_eq_ok.1 hcreate
  obtain ⟨rfl, hadm⟩ := commit_eq_ok.1 hinsert
  cases hcreate
  obtain ⟨_, -, hfinish⟩ := bind_eq_ok.1 hfinish
  obtain ⟨rfl, -⟩ := commit_eq_ok.1 hfinish
  refine ⟨rfl, ?_⟩
  have hids := hadm.2.2.2.2.2.1.1
  have hupdate := updateKey_middle
    (f := fun _ => finishedLog env d (insertedLog db (newLog env d device commandType payload
      userId)) status response errorMsg) hids
  unfold Store.writeCommandLog
  exact congrArg (fun rows => { db with deviceCommandLogs := rows }) hupdate

/-- A dispatch on a device has the record of its query. -/
theorem tracedDispatch_effects {db' : Store} {log : DeviceCommandLog}
    (hdevice : requireDevice db deviceId = .ok device)
    (hcreate : createLog env d db device commandType payload userId = .ok (db', log)) :
    (tracedDispatch env d db deviceId commandType payload userId).2 =
      (tracedQuery env d db' device deviceId commandType payload).effects := by
  unfold tracedDispatch
  simp only [hdevice, hcreate]

/-- What a query has on record, as calls of the adapter. -/
theorem adapterCalls_tracedQuery :
    adapterCalls (tracedQuery env d db device deviceId commandType payload).effects = [] ∨
      ∃ call, adapterCalls (tracedQuery env d db device deviceId commandType payload).effects =
          [call] ∧
        modeOf env payload = py "realtime" ∧ device.channelType ≠ "webhook_only" ∧
        device.baseUrl = some call.baseUrl ∧ call.baseUrl ≠ "" ∧
        ofCommand COMMAND_PATHS commandType = some call.path := by
  rcases @tracedQuery_effects_cases env d db device deviceId commandType payload with
    hnone | ⟨baseUrl, path, secret, hmode, hurl, hpath, -, heffects⟩
  · rw [hnone]
    exact Or.inl rfl
  · rw [heffects, adapterCalls_tracedRequest]
    obtain ⟨hchannel, hfound, hne⟩ := reachableUrl_eq_ok hurl
    exact Or.inr ⟨_, rfl, hmode, hchannel, hfound, hne, commandPath_eq_ok hpath⟩

/-- A dispatch on a device whose log statements succeed. -/
theorem dispatchLogged_of_device (hdevice : requireDevice db deviceId = .ok device)
    (hlog : LogStatementsSucceed env d db deviceId commandType payload userId) :
    DispatchLogged env db deviceId commandType payload
      (tracedDispatch env d db deviceId commandType payload userId) device := by
  obtain ⟨db', log, db'', hcreate, hconclude⟩ := hlog device hdevice
  obtain ⟨hstore, hanswer⟩ := dispatch_of_statements hdevice hcreate hconclude
  rw [← tracedDispatch_fst] at hstore hanswer
  have heffects := tracedDispatch_effects hdevice hcreate
  refine ⟨?_, fun e he => ?_, ?_, fun call hcall => ?_⟩
  · rw [hstore, hanswer]
    unfold concludeLog at hconclude
    cases hquery : query env d db' device deviceId commandType payload with
    | ok data =>
        rw [hquery] at hconclude
        obtain ⟨rfl, hrows⟩ := rows_of_statements hcreate hconclude
        exact ⟨_, hrows, (requireDevice_eq_ok hdevice).2, rfl, rfl, rfl⟩
    | error e =>
        rw [hquery] at hconclude
        obtain ⟨rfl, hrows⟩ := rows_of_statements hcreate hconclude
        exact ⟨_, hrows, (requireDevice_eq_ok hdevice).2, rfl, rfl, rfl⟩
  · rw [hanswer] at he
    cases hquery : query env d db' device deviceId commandType payload with
    | ok data =>
        rw [hquery] at he
        simp at he
    | error e' =>
        rw [hquery] at he
        rw [← Except.error.inj he]
        exact failure_app e'
  · rw [heffects]
    rcases @adapterCalls_tracedQuery env d db' deviceId commandType payload device with
      hnone | ⟨call, hone, -⟩
    · simp [hnone]
    · simp [hone]
  · rw [heffects] at hcall
    rcases @adapterCalls_tracedQuery env d db' deviceId commandType payload device with
      hnone | ⟨call', hone, hcond⟩
    · rw [hnone] at hcall
      simp at hcall
    · rw [hone, List.mem_singleton] at hcall
      rw [hcall]
      exact hcond

/-- A device that is unknown. -/
theorem requireDevice_of_unknown (h : ∀ device ∈ db.devices, device.deviceId ≠ deviceId) :
    requireDevice db deviceId = .error (.app (NotFoundError "device not found")) := by
  unfold requireDevice
  have hnone : oneOrNone (fun device => device.deviceId = deviceId) db.devices = some none :=
    oneOrNone_eq_none_row.2 fun device hd => by simpa using h device hd
  rw [hnone]
  rfl

/-- **Every dispatch is logged**, with the statements for the log succeeding. -/
theorem dispatchSound_traced (hadm : db.Admitted env.schema)
    (hlog : LogStatementsSucceed env d db deviceId commandType payload userId) :
    DispatchSound env db deviceId commandType payload
      (tracedDispatch env d db deviceId commandType payload userId) := by
  constructor
  · rintro device hd rfl
    exact dispatchLogged_of_device (requireDevice_of_mem hadm.2.1.2 hd) hlog
  · intro hunknown
    unfold tracedDispatch
    rw [requireDevice_of_unknown hunknown]

end

/-- A device that can be reached. -/
def reachedStore : Store :=
  Store.empty.insertDevice
    { DeviceService.newDevice (plainEnv ormSchema) Uuid.nil 0 {} with
      baseUrl := some "http://10.0.0.7:5000" }

/-- A dispatch to a device that does not answer. -/
def silentCall : DispatchCall where
  uuid := Uuid.nil
  order := insertionOrder
  timestamp := "0"
  hmac _ message := message
  post _ _ := .timeout
  exceptionText _ := "error"
  completedAt := 0

end CommandService

end SmsForwarder
