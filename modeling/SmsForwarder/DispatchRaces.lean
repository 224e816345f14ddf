/-
**Queries that run in parallel.**

A dispatch reads the row of its device, commits a row of the log that says it is pending, queries,
and commits what became of it in the same row.  While it waits for the device, other dispatches and
other requests are served, and they read and commit as they like.  The log is exact all the same:
behind the rows that were there it has one row for every dispatch that came as far as its first
commit, in the order of these commits.  The row is pending until its dispatch ends and then says what
it answered, unless the second commit did not come about: `scrub` has raised a `RecursionError`, or
the database an exception of its own, which the dispatch then ends with.

Main definitions:

* `SmsForwarder.DispatchStage`, `SmsForwarder.dispatchStep` — the steps of a dispatch;
* `SmsForwarder.RaceStep` — a step of a dispatch, or the commit of another request;
* `SmsForwarder.Visited` — the tables and the stages that a dispatch has seen;
* `SmsForwarder.EndLogged`, `SmsForwarder.StageLogged` — what the row of a dispatch says when it has
  ended, and at each stage.

Main results:

* `SmsForwarder.dispatch_alone` — a dispatch that is alone does what `dispatch` does;
* `SmsForwarder.raceStep_system` — the other requests of the API are steps of the race;
* `SmsForwarder.dispatches_logged` — **the log has the dispatches, whatever happens in between.**
-/

import Mathlib.Logic.Relation
import SmsForwarder.Accountability
import SmsForwarder.Interleavings
import SmsForwarder.OwnedRows
import SmsForwarder.RecursionLimit

set_option relaxedAutoImplicit false
set_option autoImplicit false

namespace SmsForwarder

open Py Tables Runs OwnedRows CommandService

/-! ### The steps of a dispatch -/

/-- A call of `CommandService.dispatch`. -/
structure DispatchRequest where
  call : DispatchCall
  deviceId : String
  commandType : String
  payload : List (Str × Json)
  userId : Option ℤ
  limit : StackLimit

/-- How far a dispatch is. -/
inductive DispatchStage
  | start
  /-- the device row was read -/
  | found (device : Device)
  /-- the row of the log was committed, and the commit expired the device row -/
  | logged (device : Device) (log : DeviceCommandLog)
  /-- a cache query has counted the events -/
  | counted (log : DeviceCommandLog) (eventType : String) (pageNum pageSize : ℤ) (total : ℕ)
  | queried (log : DeviceCommandLog) (outcome : Except PyError (List (Str × Json)))
  /-- the dispatch has ended, and has left this row -/
  | done (row : Option DeviceCommandLog) (answer : Except PyError DispatchAnswer)

/-- The row of the dispatch. -/
def DispatchStage.row : DispatchStage → Option DeviceCommandLog
  | .start | .found _ => none
  | .logged _ log | .counted log _ _ _ _ | .queried log _ => some log
  | .done row _ => row

section

variable (env : Env)

/-- What a cache query takes from its payload. -/
def cachedPage (commandType : String) (payload : List (Str × Json)) :
    Except PyError (String × ℤ × ℤ) := do
  let eventType ← cachedType commandType
  let pageNum ← intOf env (Json.getD payload (py "page_num") (.num (.int 1)))
  let pageSize ← intOf env (Json.getD payload (py "page_size") (.num (.int 10)))
  pure (eventType, pageNum, pageSize)

/-- The device row as it is read again: no row is ever deleted. -/
def reloadedDevice (db : Store) (device : Device) : Device :=
  (lookup Device.id device.id db.devices).getD device

/-- The row that a dispatch completes. -/
def concludedLog (d : DispatchCall) (log : DeviceCommandLog) :
    Except PyError (List (Str × Json)) → DeviceCommandLog
  | .ok data => finishedLog env d log "success" data none
  | .error e => finishedLog env d log "failed" [] (some (failure d e).1)

variable (r : DispatchRequest)

/-- The answer of a dispatch that has completed its row. -/
def DispatchRequest.answer (log : DeviceCommandLog) :
    Except PyError (List (Str × Json)) → Except PyError DispatchAnswer
  | .ok data => .ok { requestId := log.requestId, mode := modeOf env r.payload, result := data }
  | .error e => .error (failure r.call e).2

/-- The stage after the first query of the dispatch. -/
def DispatchRequest.query (db : Store) (device : Device) (log : DeviceCommandLog) :
    DispatchStage :=
  if modeOf env r.payload = py "cache" then
    match cachedPage env r.commandType r.payload with
    | .ok (eventType, pageNum, pageSize) =>
        .counted log eventType pageNum pageSize (matchingEvents db r.deviceId eventType).length
    | .error e => .queried log (.error e)
  else if modeOf env r.payload = py "realtime" then
    .queried log (queryRealtime env r.call (reloadedDevice db device) r.commandType r.payload)
  else .queried log (conflict "unsupported query mode")

/-- The next step of a dispatch. -/
def DispatchRequest.step (db : Store) : DispatchStage → Store × DispatchStage
  | .start =>
      match requireDevice db r.deviceId with
      | .ok device => (db, .found device)
      | .error e => (db, .done none (.error e))
  | .found device =>
      match limitedCreateLog env r.limit r.call db device r.commandType r.payload r.userId with
      | .ok (db', log) => (db', .logged device log)
      | .error e => (db, .done none (.error e))
  | .logged device log => (db, r.query env db device log)
  | .counted log eventType pageNum pageSize total =>
      (db, .queried log
        ((fetchPage env r.call (matchingEvents db r.deviceId eventType) pageNum pageSize).map
          fun rows => CachePage.data { rows, total, pageNum, pageSize }))
  | .queried log outcome =>
      match limitedConclude env r.limit r.call db log outcome with
      | .ok db' =>
          (db', .done (some (concludedLog env r.call log outcome)) (r.answer env log outcome))
      | .error e => (db, .done (some log) (.error e))
  | .done row answer => (db, .done row answer)

variable {ι : Type} (requests : ι → DispatchRequest)

/-- The next step of the dispatch `i`. -/
def dispatchStep (i : ι) : Store → DispatchStage → Store × DispatchStage := (requests i).step env

/-- The configurations of dispatches that run in parallel. -/
abbrev DispatchConfig (ι : Type) := Interleavings.Config Store ι DispatchStage

variable [DecidableEq ι]

/-- A dispatch takes a step, or another request commits, which writes no row of the log. -/
inductive RaceStep (c : DispatchConfig ι) : DispatchConfig ι → Prop
  | dispatch (i : ι) : RaceStep c (Interleavings.exec (dispatchStep env requests) c i).2
  | other (db' : Store) : db'.Admitted env.schema → db'.deviceCommandLogs = c.1.deviceCommandLogs →
      RaceStep c (db', c.2)

/-- A run in which every dispatch starts. -/
abbrev Raced (before : Store) (c : DispatchConfig ι) : Prop :=
  Relation.ReflTransGen (RaceStep env requests) (before, fun _ => .start) c

end

/-! ### A dispatch that is alone -/

section

variable {env : Env} {db db' : Store} {r : DispatchRequest} {log : DeviceCommandLog}
  {device : Device}

/-- The row is completed, or what completes it failed. -/
theorem finish_eq_conclude (mode : Str) (outcome : Except PyError (List (Str × Json)))
    (hmode : mode = modeOf env r.payload) :
    limitedFinish env r.limit r.call db log mode outcome =
      match limitedConclude env r.limit r.call db log outcome with
      | .ok db' => (r.answer env log outcome, db')
      | .error e => (.error e, db) := by
  subst hmode
  unfold limitedFinish limitedConclude
  cases limitedScrub env r.limit (summarized outcome) with
  | error e => rfl
  | ok v =>
      unfold finish concludeLog
      cases outcome with
      | ok data => rfl
      | error e => rfl

/-- An ended dispatch does nothing any more. -/
theorem alone_ended (env : Env) {ι : Type} (requests : ι → DispatchRequest) (i : ι) (n : ℕ)
    (db : Store)
    (row : Option DeviceCommandLog) (answer : Except PyError DispatchAnswer) :
    Interleavings.alone (dispatchStep env requests) i n (db, .done row answer) =
      (db, .done row answer) := by
  induction n with
  | zero => rfl
  | succ n ih => exact ih

/-- The last step of a dispatch that is alone. -/
theorem alone_queried (env : Env) {ι : Type} (requests : ι → DispatchRequest) (i : ι) (n : ℕ)
    (db : Store) (log : DeviceCommandLog) (outcome : Except PyError (List (Str × Json))) :
    ∃ row, Interleavings.alone (dispatchStep env requests) i (n + 1) (db, .queried log outcome) =
      ((limitedFinish env (requests i).limit (requests i).call db log
          (modeOf env (requests i).payload) outcome).2,
        .done row (limitedFinish env (requests i).limit (requests i).call db log
          (modeOf env (requests i).payload) outcome).1) := by
  rw [Interleavings.alone_succ, finish_eq_conclude _ _ rfl]
  simp only [dispatchStep, DispatchRequest.step]
  cases limitedConclude env (requests i).limit (requests i).call db log outcome with
  | ok db' => exact ⟨_, alone_ended env requests i n db' _ _⟩
  | error e => exact ⟨_, alone_ended env requests i n db _ _⟩

/-- A cache query reads its page after it has counted. -/
theorem queryCache_eq_steps (d : DispatchCall) (deviceId commandType : String)
    (payload : List (Str × Json)) :
    queryCache env d db deviceId commandType payload = (do
      let (eventType, pageNum, pageSize) ← cachedPage env commandType payload
      let rows ← fetchPage env d (matchingEvents db deviceId eventType) pageNum pageSize
      pure { rows, total := (matchingEvents db deviceId eventType).length, pageNum, pageSize }) := by
  unfold queryCache cachedPage
  simp only [bind_assoc, pure_bind]

/-- The row that is read again is the one that was read. -/
theorem reloadedDevice_self (hu : UniqueKey Device.id db.devices) (hmem : device ∈ db.devices) :
    reloadedDevice db device = device := by
  unfold reloadedDevice
  rw [(lookup_eq_some_iff hu).2 ⟨hmem, rfl⟩]
  rfl

/-- The last steps of a dispatch that is alone, from the commit of its row. -/
theorem alone_logged (env : Env) {ι : Type} (requests : ι → DispatchRequest) (i : ι) (n : ℕ)
    (db : Store) (log : DeviceCommandLog) (hdevice : reloadedDevice db device = device) :
    ∃ row, Interleavings.alone (dispatchStep env requests) i (n + 3) (db, .logged device log) =
      ((limitedFinish env (requests i).limit (requests i).call db log
          (modeOf env (requests i).payload)
          (query env (requests i).call db device (requests i).deviceId (requests i).commandType
            (requests i).payload)).2,
        .done row (limitedFinish env (requests i).limit (requests i).call db log
          (modeOf env (requests i).payload)
          (query env (requests i).call db device (requests i).deviceId (requests i).commandType
            (requests i).payload)).1) := by
  rw [Interleavings.alone_succ]
  simp only [dispatchStep, DispatchRequest.step]
  unfold DispatchRequest.query query
  by_cases hcache : modeOf env (requests i).payload = py "cache"
  · rw [if_pos hcache, if_pos hcache, queryCache_eq_steps]
    cases hpage : cachedPage env (requests i).commandType (requests i).payload with
    | error e => exact alone_queried env requests i (n + 1) db log (.error e)
    | ok page =>
        obtain ⟨eventType, pageNum, pageSize⟩ := page
        simp only [bind, Except.bind]
        rw [Interleavings.alone_succ]
        simp only [dispatchStep, DispatchRequest.step]
        cases fetchPage env (requests i).call
            (matchingEvents db (requests i).deviceId eventType) pageNum pageSize with
        | ok rows => exact alone_queried env requests i n db log _
        | error e => exact alone_queried env requests i n db log _
  · rw [if_neg hcache, if_neg hcache]
    by_cases hrealtime : modeOf env (requests i).payload = py "realtime"
    · rw [if_pos hrealtime, if_pos hrealtime, hdevice]
      exact alone_queried env requests i (n + 1) db log _
    · rw [if_neg hrealtime, if_neg hrealtime]
      exact alone_queried env requests i (n + 1) db log _

/-- **A dispatch that is alone** does what `dispatch` does under the recursion limit. -/
theorem dispatch_alone (env : Env) {ι : Type} (requests : ι → DispatchRequest) (i : ι) (db : Store)
    (hadm : db.Admitted env.schema) :
    let r := requests i
    let result :=
      (limitedDispatch env r.limit r.call db r.deviceId r.commandType r.payload r.userId).1
    ∃ row, Interleavings.alone (dispatchStep env requests) i 5 (db, .start) =
      (result.2, .done row result.1) := by
  intro r result
  have hresult : result =
      (limitedDispatch env r.limit r.call db r.deviceId r.commandType r.payload r.userId).1 := rfl
  rw [hresult, Interleavings.alone_succ]
  unfold limitedDispatch
  simp only [dispatchStep, DispatchRequest.step]
  cases hrequire : requireDevice db (requests i).deviceId with
  | error e => exact ⟨none, alone_ended env requests i 4 db none _⟩
  | ok device =>
      simp only [Interleavings.alone_succ (n := 3)]
      simp only [dispatchStep, DispatchRequest.step]
      cases hcreate : limitedCreateLog env (requests i).limit (requests i).call db device
          (requests i).commandType (requests i).payload (requests i).userId with
      | error e => exact ⟨none, alone_ended env requests i 3 db none _⟩
      | ok created =>
          obtain ⟨-, hdb⟩ := createLog_eq_ok (createLog_of_limited hcreate)
          simp only [tracedQuery_result]
          refine alone_logged env requests i 0 created.1 created.2 (reloadedDevice_self ?_ ?_)
          · rw [hdb]
            exact hadm.2.1.1
          · rw [hdb]
            exact (requireDevice_eq_ok hrequire).1

end

/-! ### The log -/

/-- The row of a dispatch that has not ended: its request was scrubbed, its answer was not. -/
structure Pending (env : Env) (r : DispatchRequest) (log : DeviceCommandLog) : Prop where
  command : LogsCommand env r.call r.deviceId r.commandType r.payload r.userId log
  status : log.status = "pending"
  completedAt : log.completedAt = none
  request : dictFrames env r.limit r.payload ≤ r.limit.frames

/-- At some moment of the run to `c` the tables were `db`, and the dispatch `i` was at this stage. -/
def Visited (env : Env) {ι : Type} [DecidableEq ι] (requests : ι → DispatchRequest)
    (before : Store) (c : DispatchConfig ι) (i : ι) (db : Store) (stage : DispatchStage) : Prop :=
  ∃ c', Raced env requests before c' ∧ Relation.ReflTransGen (RaceStep env requests) c' c ∧
    c'.1 = db ∧ c'.2 i = stage

/-- What a dispatch that has ended has left in the log, and what it answered, if these are the
tables and the stages that it has seen. -/
inductive EndLogged (env : Env) (r : DispatchRequest) (visited : Store → DispatchStage → Prop) :
    Option DeviceCommandLog → Except PyError DispatchAnswer → Prop
  /-- it ended before its first commit -/
  | unlogged (err : PyError) :
      (err = .app (NotFoundError "device not found") ∨ ∀ appError, err ≠ .app appError) →
        EndLogged env r visited none (.error err)
  | success (row : DeviceCommandLog) (answer : DispatchAnswer) :
      LogsCommand env r.call r.deviceId r.commandType r.payload r.userId row →
      row.status = "success" → row.completedAt.isSome = true → answer.requestId = row.requestId →
      row.responseSummary = scrub env.runtime (.obj answer.result) →
        EndLogged env r visited (some row) (.ok answer)
  | failed (row : DeviceCommandLog) (err : AppError) :
      LogsCommand env r.call r.deviceId r.commandType r.payload r.userId row →
      row.status = "failed" → row.completedAt.isSome = true →
        EndLogged env r visited (some row) (.error (.app err))
  /-- what its query returned nests too deep for `scrub` -/
  | tooDeep (row : DeviceCommandLog) (data : List (Str × Json)) (db : Store) :
      Pending env r row → visited db (.queried row (.ok data)) →
      r.limit.frames < dictFrames env r.limit data →
        EndLogged env r visited (some row) (.error .recursionError)
  /-- the statement that completes the row failed -/
  | statementFailed (row : DeviceCommandLog) (outcome : Except PyError (List (Str × Json)))
      (db : Store) (err : PyError) :
      Pending env r row → visited db (.queried row outcome) →
      concludeLog env r.call db row outcome = .error err → (∀ appError, err ≠ .app appError) →
        EndLogged env r visited (some row) (.error err)

/-- What the row of a dispatch says at each stage. -/
def StageLogged (env : Env) (r : DispatchRequest) (visited : Store → DispatchStage → Prop) :
    DispatchStage → Prop
  | .start => True
  | .found device => device.deviceId = r.deviceId
  | .logged _ log | .counted log _ _ _ _ | .queried log _ => Pending env r log
  | .done row answer => EndLogged env r visited row answer

/-- The log holds the rows that were there, and those of the dispatches, which have seen these
tables and stages. -/
structure DispatchesLogged (env : Env) {ι : Type} (requests : ι → DispatchRequest) (before : Store)
    (visited : ι → Store → DispatchStage → Prop) (c : DispatchConfig ι) : Prop where
  admitted : c.1.Admitted env.schema
  owned : Owned before.deviceCommandLogs (fun i => (c.2 i).row) c.1.deviceCommandLogs
  stages : ∀ i, StageLogged env (requests i) (visited i) (c.2 i)

section

variable {env : Env} {r : DispatchRequest} {db db' : Store} {log : DeviceCommandLog}
  {device : Device} {visited visited' : Store → DispatchStage → Prop}

theorem requireDevice_eq_error {deviceId : String} {err : PyError}
    (h : requireDevice db deviceId = .error err) :
    err = .app (NotFoundError "device not found") ∨ ∀ appError, err ≠ .app appError := by
  unfold requireDevice at h
  split at h
  · exact Or.inr fun _ => by simp [← Except.error.inj h]
  · exact Or.inl (Except.error.inj h).symm
  · simp at h

/-- The row that the first commit leaves is pending. -/
theorem pending_createLog (hdevice : device.deviceId = r.deviceId)
    (h : limitedCreateLog env r.limit r.call db device r.commandType r.payload r.userId =
      .ok (db', log)) : Pending env r log := by
  obtain ⟨hlog, -⟩ := createLog_eq_ok (createLog_of_limited h)
  have hrequest : dictFrames env r.limit r.payload ≤ r.limit.frames := by
    by_contra hdeep
    unfold limitedCreateLog at h
    rw [limitedScrub_eq, if_neg hdeep] at h
    simp [bind, Except.bind] at h
  rw [hlog]
  exact ⟨⟨rfl, hdevice, rfl, rfl, rfl⟩, rfl, rfl, hrequest⟩

/-- The second commit leaves the row completed, where the first one has left it. -/
theorem concludeLog_eq_ok {outcome : Except PyError (List (Str × Json))}
    (h : concludeLog env r.call db log outcome = .ok db') :
    db' = db.writeCommandLog log (concludedLog env r.call log outcome) ∧
      db'.Admitted env.schema := by
  cases outcome with
  | ok data =>
      obtain ⟨_, -, h⟩ := bind_eq_ok.1 h
      obtain ⟨rfl, hadm⟩ := commit_eq_ok.1 h
      exact ⟨rfl, hadm⟩
  | error e =>
      obtain ⟨_, -, h⟩ := bind_eq_ok.1 h
      obtain ⟨rfl, hadm⟩ := commit_eq_ok.1 h
      exact ⟨rfl, hadm⟩

theorem concludeLog_eq_error {outcome : Except PyError (List (Str × Json))} {err : PyError}
    (h : concludeLog env r.call db log outcome = .error err) (appError : AppError) :
    err ≠ .app appError := by
  cases outcome with
  | ok data => exact finishLog_eq_error h appError
  | error e => exact finishLog_eq_error h appError

/-- What keeps a dispatch from its first commit is no application error. -/
theorem limitedCreateLog_eq_error {err : PyError}
    (h : limitedCreateLog env r.limit r.call db device r.commandType r.payload r.userId =
      .error err) (appError : AppError) : err ≠ .app appError := by
  unfold limitedCreateLog at h
  rw [limitedScrub_eq] at h
  by_cases hdeep : dictFrames env r.limit r.payload ≤ r.limit.frames
  · rw [if_pos hdeep] at h
    exact createLog_eq_error h appError
  · rw [if_neg hdeep] at h
    rw [← Except.error.inj h]
    simp

/-- The completed row says what was answered. -/
theorem endLogged_concluded (h : Pending env r log) (outcome : Except PyError (List (Str × Json))) :
    EndLogged env r visited (some (concludedLog env r.call log outcome))
      (r.answer env log outcome) := by
  obtain ⟨hcommand, -, -, -⟩ := h
  have hconcluded : LogsCommand env r.call r.deviceId r.commandType r.payload r.userId
      (concludedLog env r.call log outcome) := by
    cases outcome <;> exact ⟨hcommand.1, hcommand.2, hcommand.3, hcommand.4, hcommand.5⟩
  cases outcome with
  | ok data => exact .success _ _ hconcluded rfl rfl rfl rfl
  | error e =>
      obtain ⟨appError, happ⟩ := failure_app (d := r.call) e
      have hanswer : r.answer env log (.error e) = .error (.app appError) := congrArg _ happ
      rw [hanswer]
      exact .failed _ appError hconcluded rfl rfl

/-- Without the second commit the row stays pending. -/
theorem endLogged_pending {outcome : Except PyError (List (Str × Json))} {err : PyError}
    (h : Pending env r log) (hvisited : visited db (.queried log outcome))
    (hconclude : limitedConclude env r.limit r.call db log outcome = .error err) :
    EndLogged env r visited (some log) (.error err) := by
  unfold limitedConclude at hconclude
  rw [limitedScrub_eq] at hconclude
  by_cases hdeep : dictFrames env r.limit (summarized outcome) ≤ r.limit.frames
  · rw [if_pos hdeep] at hconclude
    have hfailed : concludeLog env r.call db log outcome = .error err := hconclude
    exact .statementFailed log outcome db err h hvisited hfailed (concludeLog_eq_error hfailed)
  · rw [if_neg hdeep] at hconclude
    obtain rfl := Except.error.inj hconclude
    cases outcome with
    | ok data => exact .tooDeep log data db h hvisited (not_le.1 hdeep)
    | error e =>
        -- the request was scrubbed, so there is room for an empty dictionary
        refine absurd ?_ hdeep
        rw [summarized, dictFrames_nil]
        exact (one_le_dictFrames r.payload).trans h.request

/-- A longer run has seen more. -/
theorem EndLogged.mono {row : Option DeviceCommandLog} {answer : Except PyError DispatchAnswer}
    (h : EndLogged env r visited row answer)
    (hsub : ∀ db stage, visited db stage → visited' db stage) :
    EndLogged env r visited' row answer := by
  cases h with
  | unlogged err hkind => exact .unlogged err hkind
  | success row answer hcommand hstatus hdone hid hsummary =>
      exact .success row answer hcommand hstatus hdone hid hsummary
  | failed row err hcommand hstatus hdone => exact .failed row err hcommand hstatus hdone
  | tooDeep row data db hpending hvisited hdeep =>
      exact .tooDeep row data db hpending (hsub _ _ hvisited) hdeep
  | statementFailed row outcome db err hpending hvisited hfailed hnot =>
      exact .statementFailed row outcome db err hpending (hsub _ _ hvisited) hfailed hnot

/-- The row of a query that was made is still the pending one. -/
theorem row_query : (r.query env db device log).row = some log := by
  unfold DispatchRequest.query
  split
  · split <;> rfl
  · split <;> rfl

theorem stageLogged_query (h : Pending env r log) :
    StageLogged env r visited (r.query env db device log) := by
  unfold DispatchRequest.query
  split
  · split <;> exact h
  · split <;> exact h

end

section

variable {ι : Type} [DecidableEq ι] {env : Env} {requests : ι → DispatchRequest} {before : Store}
  {visited visited' : ι → Store → DispatchStage → Prop} {c : DispatchConfig ι} {i : ι}

omit [DecidableEq ι] in
theorem DispatchesLogged.mono (h : DispatchesLogged env requests before visited c)
    (hsub : ∀ i db stage, visited i db stage → visited' i db stage) :
    DispatchesLogged env requests before visited' c where
  admitted := h.admitted
  owned := h.owned
  stages i := by
    have hstage := h.stages i
    cases hi : c.2 i with
    | done row answer =>
        rw [hi] at hstage
        exact EndLogged.mono hstage (hsub i)
    | start | found | logged | counted | queried =>
        rw [hi] at hstage
        exact hstage

theorem rows_update (stage : DispatchStage) :
    (fun j => (Function.update c.2 i stage j).row) =
      Function.update (fun j => (c.2 j).row) i stage.row :=
  Function.comp_update DispatchStage.row c.2 i stage

/-- A step that writes nothing. -/
theorem DispatchesLogged.quiet (h : DispatchesLogged env requests before visited c)
    {stage : DispatchStage} (hrow : stage.row = (c.2 i).row)
    (hstage : StageLogged env (requests i) (visited i) stage) :
    DispatchesLogged env requests before visited (c.1, Function.update c.2 i stage) where
  admitted := h.admitted
  owned := by
    rw [rows_update, hrow, Function.update_eq_self i fun j => (c.2 j).row]
    exact h.owned
  stages := (Function.forall_update_iff c.2 fun j stage =>
    StageLogged env (requests j) (visited j) stage).2
    ⟨hstage, fun j _ => h.stages j⟩

/-- The first commit of a dispatch. -/
theorem DispatchesLogged.create (h : DispatchesLogged env requests before visited c)
    {device : Device} {log : DeviceCommandLog} {db' : Store} (hi : c.2 i = .found device)
    (hlimited : limitedCreateLog env (requests i).limit (requests i).call c.1 device
      (requests i).commandType (requests i).payload (requests i).userId = .ok (db', log)) :
    DispatchesLogged env requests before visited
      (db', Function.update c.2 i (.logged device log)) := by
  have hdevice := h.stages i
  have hcreate := createLog_of_limited hlimited
  rw [hi] at hdevice
  refine ⟨?_, ?_, ?_⟩
  · obtain ⟨_, -, hcreate⟩ := bind_eq_ok.1 hcreate
    obtain ⟨db₁, hcommit, hcreate⟩ := bind_eq_ok.1 hcreate
    obtain ⟨rfl, hadm⟩ := commit_eq_ok.1 hcommit
    cases hcreate
    exact hadm
  · rw [rows_update, (createLog_eq_ok hcreate).2]
    exact h.owned.append (by rw [hi]; rfl) log
  · exact (Function.forall_update_iff c.2 fun j stage =>
    StageLogged env (requests j) (visited j) stage).2
      ⟨pending_createLog hdevice hlimited, fun j _ => h.stages j⟩

/-- The second commit of a dispatch. -/
theorem DispatchesLogged.conclude (h : DispatchesLogged env requests before visited c)
    {log : DeviceCommandLog} {outcome : Except PyError (List (Str × Json))} {db' : Store}
    (hi : c.2 i = .queried log outcome)
    (hconclude : concludeLog env (requests i).call c.1 log outcome = .ok db') :
    DispatchesLogged env requests before visited
      (db', Function.update c.2 i (.done (some (concludedLog env (requests i).call log outcome))
        ((requests i).answer env log outcome))) := by
  have hpending := h.stages i
  rw [hi] at hpending
  obtain ⟨hdb, hadm⟩ := concludeLog_eq_ok hconclude
  refine ⟨hadm, ?_, ?_⟩
  · rw [rows_update, hdb]
    exact h.owned.rewrite (by rw [hi]; rfl) h.admitted.2.2.2.2.2.1.1 _
  · exact (Function.forall_update_iff c.2 fun j stage =>
    StageLogged env (requests j) (visited j) stage).2
      ⟨endLogged_concluded hpending outcome, fun j _ => h.stages j⟩

/-- **Every step of a dispatch keeps the log exact.** -/
theorem DispatchesLogged.exec (h : DispatchesLogged env requests before visited c) (i : ι)
    (hvisited : visited i c.1 (c.2 i)) :
    DispatchesLogged env requests before visited
      (Interleavings.exec (dispatchStep env requests) c i).2 := by
  have hlogged := h.stages i
  unfold Interleavings.exec dispatchStep
  cases hi : c.2 i with
  | start =>
      simp only [DispatchRequest.step]
      cases hrequire : requireDevice c.1 (requests i).deviceId with
      | ok device => exact h.quiet (by rw [hi]; rfl) (requireDevice_eq_ok hrequire).2
      | error e =>
          exact h.quiet (by rw [hi]; rfl) (.unlogged e (requireDevice_eq_error hrequire))
  | found device =>
      simp only [DispatchRequest.step]
      cases hcreate : limitedCreateLog env (requests i).limit (requests i).call c.1 device
          (requests i).commandType (requests i).payload (requests i).userId with
      | ok created => exact h.create hi hcreate
      | error e =>
          exact h.quiet (by rw [hi]; rfl) (.unlogged e (Or.inr (limitedCreateLog_eq_error hcreate)))
  | logged device log =>
      rw [hi] at hlogged
      exact h.quiet (by rw [hi]; exact row_query) (stageLogged_query hlogged)
  | counted log eventType pageNum pageSize total =>
      rw [hi] at hlogged
      exact h.quiet (by rw [hi]; rfl) hlogged
  | queried log outcome =>
      rw [hi] at hlogged hvisited
      simp only [DispatchRequest.step]
      cases hconclude : limitedConclude env (requests i).limit (requests i).call c.1 log
          outcome with
      | ok db' => exact h.conclude hi (concludeLog_of_limited hconclude)
      | error e => exact h.quiet (by rw [hi]; rfl) (endLogged_pending hlogged hvisited hconclude)
  | done row answer =>
      rw [hi] at hlogged
      exact h.quiet (by rw [hi]; rfl) hlogged

theorem DispatchesLogged.step {c' : DispatchConfig ι}
    (h : DispatchesLogged env requests before visited c) (hvisited : ∀ i, visited i c.1 (c.2 i))
    (hstep : RaceStep env requests c c') : DispatchesLogged env requests before visited c' := by
  cases hstep with
  | dispatch i => exact h.exec i (hvisited i)
  | other db' hadm hlogs =>
      refine ⟨hadm, ?_, h.stages⟩
      rw [hlogs]
      exact h.owned

theorem dispatchesLogged_raced (hadm : before.Admitted env.schema)
    (hrun : Raced env requests before c) :
    DispatchesLogged env requests before (Visited env requests before c) c := by
  induction hrun with
  | refl => exact ⟨hadm, owned_start _, fun _ => trivial⟩
  | tail hrun hstep ih =>
      refine (ih.mono fun i db stage h => ?_).step (fun i => ?_) hstep
      · obtain ⟨c₀, hfirst, hrest, hdb, hstage⟩ := h
        exact ⟨c₀, hfirst, hrest.tail hstep, hdb, hstage⟩
      · exact ⟨_, hrun, .single hstep, rfl, rfl⟩

end

/-! ### Other requests -/

/-- The other requests of the API, and the command that creates administrators, are steps of the
race. -/
theorem raceStep_system {ι : Type} [DecidableEq ι] {e : AuthEnv} {iso : FrpsService.IsoFormat}
    {requests : ι → DispatchRequest} {s : ApiState} {stages : ι → DispatchStage}
    (hadm : s.Admitted e.env.schema) (op : SystemOp) (hop : op.queries = false) :
    RaceStep e.env requests (s.server.db, stages) ((op.exec e iso s).2.server.db, stages) := by
  have hadm' : (op.exec e iso s).2.Admitted e.env.schema := admitted_system op hadm
  refine RaceStep.other _ hadm'.db ?_
  rcases @effect_system e iso s op hadm.db with
    ⟨salt, username, password, rfl, hserver⟩ | ⟨req, user, outcome, db', rfl, -, hdb, heffect⟩
  · rw [hserver]
  · rw [hdb]
    have hkeep : Part.commandLogs.read db' = Part.commandLogs.read s.server.db := by
      refine read_of_effect heffect fun hwrites => ?_
      have hroute : req.route.queries = false := hop
      cases hcase : req.route with
      | query route deviceId d => simp [hcase, Route.queries] at hroute
      | _ => simp [hcase, Route.writes] at hwrites
    exact hkeep

/-- **The log has the dispatches, whatever happens in between.**  Any number of dispatches run in
parallel, and other requests commit between their steps.  At every moment the log holds the rows
that were there, and behind them, in the order of the first commits, one row for each dispatch that
came as far as that.  The row says whose command it is; it is pending as long as the dispatch has
not ended, and then says what the dispatch answered.  It stays pending if the dispatch ended for
want of its second commit, with the `RecursionError` of `scrub` or with what the statement raised. -/
theorem dispatches_logged (env : Env) {ι : Type} [DecidableEq ι] (requests : ι → DispatchRequest)
    (before : Store) (hadm : before.Admitted env.schema) (c : DispatchConfig ι)
    (hrun : Raced env requests before c) :
    (∃ order : List ι, order.Nodup ∧ (∀ i, i ∈ order ↔ (c.2 i).row.isSome = true) ∧
        c.1.deviceCommandLogs =
          before.deviceCommandLogs ++ order.filterMap fun i => (c.2 i).row) ∧
      ∀ i, StageLogged env (requests i) (Visited env requests before c i) (c.2 i) :=
  ⟨(dispatchesLogged_raced hadm hrun).owned, (dispatchesLogged_raced hadm hrun).stages⟩

/-- Turns of dispatches alone are a run. -/
theorem raced_final {env : Env} {ι : Type} [DecidableEq ι] {requests : ι → DispatchRequest}
    {before : Store} (sched : List ι) :
    Raced env requests before
      (final (Interleavings.exec (dispatchStep env requests)) (before, fun _ => .start) sched) := by
  induction sched using List.reverseRecOn with
  | nil => exact Relation.ReflTransGen.refl
  | append_singleton sched i ih =>
      rw [final_concat]
      exact ih.tail (RaceStep.dispatch i)

/-- The UUID whose digits are all one. -/
def Uuid.ones : Uuid where
  hex := List.replicate 32 '1'
  length_hex := List.length_replicate
  lowerHex c hc := by
    rw [List.eq_of_mem_replicate hc]
    decide

/-- Two queries to a device that does not answer. -/
def twoQueries (second : Bool) : DispatchRequest where
  call := { silentCall with uuid := if second then Uuid.ones else Uuid.nil }
  deviceId := generateDeviceId Uuid.nil
  commandType := "sms.query"
  payload := []
  userId := none
  limit := defaultLimit

/-- Both queries are pending when the first one ends. -/
def twoTurns : List Bool := [false, true, false, true, true, false, false, false]

theorem dispatches_logged_two :
    let c := final (Interleavings.exec (dispatchStep (plainEnv ormSchema) twoQueries))
      (reachedStore, fun _ => .start) twoTurns
    (∃ order : List Bool, order.Nodup ∧ (∀ i, i ∈ order ↔ (c.2 i).row.isSome = true) ∧
        c.1.deviceCommandLogs =
          reachedStore.deviceCommandLogs ++ order.filterMap fun i => (c.2 i).row) ∧
      ∀ i, StageLogged (plainEnv ormSchema) (twoQueries i)
        (Visited (plainEnv ormSchema) twoQueries reachedStore c i) (c.2 i) :=
  dispatches_logged (plainEnv ormSchema) twoQueries reachedStore (by decide) _ (raced_final twoTurns)

end SmsForwarder
