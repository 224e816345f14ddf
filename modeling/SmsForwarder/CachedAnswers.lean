/-
**What the cache answers.**

A device that cannot be reached is read from the cache: the server answers with what the phone has
posted.  This module follows such an answer back to the postings.  Whoever gets one may make the
query, and the answer is a page of the events that were posted for this device with a live token
under the type of the command; it leaves none of them out, it counts them all, and each item of it
is a body as it was posted.

Main definitions:

* `SmsForwarder.QueryRoute.mode`, `SmsForwarder.QueryRoute.pageNum`,
  `SmsForwarder.QueryRoute.pageSize` — what a query asks for;
* `SmsForwarder.ListsPage` — an answer is the page that was asked for.

Main results:

* `SmsForwarder.CommandService.queryCache_page` — what a cache query that succeeds returns;
* `SmsForwarder.cached_answers` — **the cache answers with what was posted.**
-/

import SmsForwarder.EventProvenance
import SmsForwarder.PagedQueries
import SmsForwarder.QuerySignatures

set_option relaxedAutoImplicit false
set_option autoImplicit false

namespace SmsForwarder

open Py Tables Runs

/-! ### Queries that succeed -/

namespace CommandService

section

variable {env : Env} {d : DispatchCall} {db : Store} {deviceId commandType : String}
  {payload : List (Str × Json)} {userId : Option ℤ}

/-- A cache query that succeeds returns what the database selects of the rows it counts. -/
theorem queryCache_page {page : CachePage}
    (h : queryCache env d db deviceId commandType payload = .ok page) :
    ∃ eventType, ofCommand EVENT_TYPES commandType = some eventType ∧
      intOf env (Json.getD payload (py "page_num") (.num (.int 1))) = .ok page.pageNum ∧
      intOf env (Json.getD payload (py "page_size") (.num (.int 10))) = .ok page.pageSize ∧
      page.total = (matchingEvents db deviceId eventType).length ∧
      env.driver.slice ((page.pageNum - 1) * page.pageSize) page.pageSize
        (d.order.sort (matchingEvents db deviceId eventType)) = some page.rows := by
  obtain ⟨eventType, hcommand, -⟩ := queryCache_eq_ok h
  have htype : cachedType commandType = .ok eventType := by
    unfold cachedType
    rw [hcommand]
  obtain ⟨found, hfound, h⟩ := bind_eq_ok.1 h
  rw [htype] at hfound
  obtain rfl := Except.ok.inj hfound
  obtain ⟨pageNum, hnum, h⟩ := bind_eq_ok.1 h
  obtain ⟨pageSize, hsize, h⟩ := bind_eq_ok.1 h
  obtain ⟨items, hitems, h⟩ := bind_eq_ok.1 h
  cases h
  refine ⟨eventType, hcommand, hnum, hsize, rfl, ?_⟩
  unfold fetchPage at hitems
  split at hitems
  · rename_i found hslice
    rw [hslice, Except.ok.inj hitems]
  · simp at hitems

/-- A dispatch that succeeds answers with what its query returned. -/
theorem dispatch_eq_ok {answer : DispatchAnswer}
    (h : (dispatch env d db deviceId commandType payload userId).1 = .ok answer) :
    ∃ device db' log, requireDevice db deviceId = .ok device ∧
      createLog env d db device commandType payload userId = .ok (db', log) ∧
      query env d db' device deviceId commandType payload = .ok answer.result := by
  unfold dispatch at h
  cases hdevice : requireDevice db deviceId with
  | error err =>
      rw [hdevice] at h
      simp at h
  | ok device =>
      rw [hdevice] at h
      simp only at h
      cases hcreate : createLog env d db device commandType payload userId with
      | error err =>
          rw [hcreate] at h
          simp at h
      | ok stored =>
          obtain ⟨db', log⟩ := stored
          rw [hcreate] at h
          simp only at h
          refine ⟨device, db', log, rfl, hcreate, ?_⟩
          cases hquery : query env d db' device deviceId commandType payload with
          | error raised =>
              rw [hquery] at h
              simp only [finish] at h
              split at h <;> simp at h
          | ok data =>
              rw [hquery] at h
              simp only [finish] at h
              split at h
              · rw [← Except.ok.inj h]
              · simp at h

end

end CommandService

/-! ### The bodies of the query routes -/

namespace QueryRoute

def mode : QueryRoute → QueryMode
  | config payload => payload.mode
  | sms payload => payload.mode
  | calls payload => payload.mode
  | contacts payload => payload.mode
  | battery payload => payload.mode
  | location payload => payload.mode

/-- The page that is asked for; a body that has no field for it asks for the first. -/
def pageNum : QueryRoute → ℤ
  | sms payload => payload.pageNum
  | calls payload => payload.pageNum
  | contacts payload => payload.pageNum
  | config _ | battery _ | location _ => 1

def pageSize : QueryRoute → ℤ
  | sms payload => payload.pageSize
  | calls payload => payload.pageSize
  | contacts payload => payload.pageSize
  | config _ | battery _ | location _ => 10

/-- The rows in front of the page. -/
def offset (route : QueryRoute) : ℤ := (route.pageNum - 1) * route.pageSize

variable (env : Env) (route : QueryRoute)

theorem modeOf_modelDump :
    CommandService.modeOf env route.modelDump = py route.mode.text := by
  cases route <;> rfl

theorem intOf_pageNum :
    CommandService.intOf env (Json.getD route.modelDump (py "page_num") (.num (.int 1))) =
      .ok route.pageNum := by
  cases route <;> rfl

theorem intOf_pageSize :
    CommandService.intOf env (Json.getD route.modelDump (py "page_size") (.num (.int 10))) =
      .ok route.pageSize := by
  cases route <;> rfl

theorem page_bounds : 1 ≤ route.pageNum ∧ 1 ≤ route.pageSize ∧ route.pageSize ≤ 100 := by
  cases route with
  | sms payload => exact ⟨payload.pageNum_ge, payload.pageSize_ge, payload.pageSize_le⟩
  | calls payload => exact ⟨payload.pageNum_ge, payload.pageSize_ge, payload.pageSize_le⟩
  | contacts payload => exact ⟨payload.pageNum_ge, payload.pageSize_ge, payload.pageSize_le⟩
  | config _ | battery _ | location _ =>
      exact ⟨le_refl (1 : ℤ), show (1 : ℤ) ≤ 10 by decide, show (10 : ℤ) ≤ 100 by decide⟩

end QueryRoute

/-- The answer is the page of these events that was asked for, and says how many they are.  A driver
that takes an offset of more than 64 bits may select what it likes of them. -/
def ListsPage (route : QueryRoute) (listed : List DeviceEvent) (result : List (Str × Json)) :
    Prop :=
  ∃ rows : List DeviceEvent, rows.Sublist listed ∧
    (route.offset < 2 ^ 63 →
      rows = (listed.drop route.offset.toNat).take route.pageSize.toNat) ∧
    result = (⟨rows, listed.length, route.pageNum, route.pageSize⟩ : CommandService.CachePage).data

section

variable {env : Env} {d : DispatchCall} {db : Store} {deviceId : String} {route : QueryRoute}
  {userId : Option ℤ}

/-- What a dispatch in cache mode answers, if it succeeds. -/
theorem listsPage_dispatch {answer : CommandService.DispatchAnswer} (hmode : route.mode = .cache)
    (h : (CommandService.dispatch env d db deviceId route.commandType route.modelDump userId).1 =
      .ok answer) :
    ∃ eventType, ofCommand EVENT_TYPES route.commandType =
        some eventType ∧
      ListsPage route (d.order.sort (CommandService.matchingEvents db deviceId eventType))
        answer.result := by
  obtain ⟨device, db', log, -, hcreate, hquery⟩ := CommandService.dispatch_eq_ok h
  have hcache : CommandService.modeOf env route.modelDump = py "cache" := by
    rw [route.modeOf_modelDump, hmode]
    rfl
  unfold CommandService.query at hquery
  rw [if_pos hcache] at hquery
  cases hpage : CommandService.queryCache env d db' deviceId route.commandType route.modelDump with
  | error err =>
      rw [hpage] at hquery
      simp [Except.map] at hquery
  | ok page =>
      rw [hpage] at hquery
      obtain ⟨eventType, hcommand, hnum, hsize, htotal, hslice⟩ :=
        CommandService.queryCache_page hpage
      rw [route.intOf_pageNum] at hnum
      rw [route.intOf_pageSize] at hsize
      have hnum' := Except.ok.inj hnum
      have hsize' := Except.ok.inj hsize
      -- the row that was logged first is none of those that are listed
      rw [CommandService.matchingEvents_of_createLog hcreate] at htotal hslice
      rw [← hnum', ← hsize'] at hslice
      refine ⟨eventType, hcommand, page.rows, env.driver.slice_sublist hslice, ?_, ?_⟩
      · intro hoffset
        obtain ⟨hone, hpos, hmax⟩ := route.page_bounds
        have hnonneg : 0 ≤ route.offset := mul_nonneg (by omega) (by omega)
        have hselect := env.driver.slice_eq route.offset.toNat route.pageSize.toNat
          (d.order.sort (CommandService.matchingEvents db deviceId eventType))
          (Or.inl (by omega)) (by omega)
        rw [Int.toNat_of_nonneg hnonneg, Int.toNat_of_nonneg (by omega)] at hselect
        have hboth := hslice.symm.trans hselect
        exact Option.some.inj hboth
      · rw [(d.order.perm _).length_eq, ← htotal, hnum', hsize']
        exact (Except.ok.inj hquery).symm

end

section

variable {iso : FrpsService.IsoFormat}

/-- Only a body that succeeds is answered so. -/
theorem respond_eq_success {requestId : String} {outcome : Except PyError (ApiData iso)}
    {answer : CommandService.DispatchAnswer}
    (h : respond iso requestId outcome = successResponse requestId (.dispatched answer)) :
    outcome = .ok (.dispatched answer) := by
  cases outcome with
  | ok data => exact congrArg Except.ok (congrArg ApiResponse.data h)
  | error err =>
      obtain ⟨details, hdata⟩ := data_respond_error iso requestId err
      rw [h] at hdata
      simp [successResponse] at hdata

/-- **The cache answers with what was posted.**  In every run from empty tables a query in cache
mode that is answered was made by a user who holds its permission; the answer is the page that was
asked for, newest first, of the events that were posted for the device before it, each with a token
that was live, under the type of the command, and the number of all of them. -/
theorem cached_answers (e : AuthEnv) (iso : FrpsService.IsoFormat) (ops : List SystemOp)
    (p : List (SystemCall iso) × SystemCall iso)
    (hp : p ∈ withHistory [] (trace (SystemOp.exec e iso) ApiState.empty ops)) (req : ApiRequest)
    (route : QueryRoute) (deviceId : String) (d : DispatchCall)
    (answer : CommandService.DispatchAnswer) (hop : p.2.op = .request req)
    (hroute : req.route = .query route deviceId d) (hmode : route.mode = .cache)
    (hanswer : p.2.answer = .response (successResponse req.requestId (.dispatched answer))) :
    ∃ user eventType events, SignedIn e p.2.before.accounts req user ∧
      Holds p.2.before.accounts user route.permission ∧
      ofCommand EVENT_TYPES route.commandType = some eventType ∧
      List.Forall₂ (fun q event => EventFor e q.1 q.2 event)
        ((withHistory [] p.1).filter fun q => storesEvent q.2) events ∧
      ListsPage route
        (d.order.sort (events.filter fun event =>
          event.deviceId = deviceId && event.eventType = eventType))
        answer.result := by
  obtain ⟨pre, post, htrace, hpre⟩ := mem_withHistory.1 hp
  obtain ⟨before, after, -, hbefore, hcall⟩ := trace_split _ htrace
  obtain rfl : p.1 = pre := hpre
  have hadm : (final (SystemOp.exec e iso) ApiState.empty before).Admitted e.env.schema :=
    final_of_keep _ (fun _ op h => admitted_system op h) (ApiState.admitted_empty _) before
  rw [hop] at hcall
  rw [hcall] at hanswer ⊢
  rw [hbefore]
  generalize hs : final (SystemOp.exec e iso) ApiState.empty before = s at hadm hanswer ⊢
  rcases exec_request_cases e iso s req with ⟨err, -, hexec⟩ | ⟨found, hauth, hexec⟩
  · obtain ⟨details, hdata⟩ := data_respond_error iso req.requestId err
    rw [hexec] at hanswer
    rw [SystemAnswer.response.inj hanswer] at hdata
    simp [successResponse] at hdata
  · have haccess : (Route.query route deviceId d).access = .permission route.permission := rfl
    rw [hroute] at hauth
    obtain ⟨user, rfl, hsigned, hholds⟩ :=
      (authorize_eq_ok hadm.accounts.2.1.1 (permission_ne_empty haccess)).1 hauth
    rw [hexec] at hanswer
    have hbody := respond_eq_success (SystemAnswer.response.inj hanswer)
    rw [hroute] at hbody
    have hdispatch : (CommandService.dispatch e.env d s.server.db deviceId route.commandType
        route.modelDump (some user.id)).1 = .ok answer := by
      have hmap : Except.map ApiData.dispatched (CommandService.dispatch e.env d s.server.db deviceId
        route.commandType route.modelDump (some user.id)).1 = .ok (ApiData.dispatched answer :
          ApiData iso) := hbody
      cases hresult : (CommandService.dispatch e.env d s.server.db deviceId route.commandType
          route.modelDump (some user.id)).1 with
      | error err =>
          rw [hresult] at hmap
          simp [Except.map] at hmap
      | ok found =>
          rw [hresult] at hmap
          exact congrArg Except.ok (ApiData.dispatched.inj (Except.ok.inj hmap))
    obtain ⟨eventType, hcommand, hlists⟩ := listsPage_dispatch hmode hdispatch
    refine ⟨user, eventType, s.server.db.deviceEvents, hsigned, hholds, hcommand, ?_, hlists⟩
    rw [← hs]
    exact events_stored e iso before

end

/-! ### A message that is read from the cache -/

def cacheQuery : QueryRoute := .sms { toPagedQueryRequest := CommandService.firstPage }

def cacheRequest : ApiRequest :=
  { sessionRequest with route := .query cacheQuery (generateDeviceId Uuid.nil) signedCall }

/-- What the administrator is answered. -/
def cacheAnswer : CommandService.DispatchAnswer where
  requestId := generateRequestId Uuid.nil
  mode := py "cache"
  result := [(py "items", .arr [messageBody]), (py "total", .num (.int 1)),
    (py "page_num", .num (.int 1)), (py "page_size", .num (.int 10))]

/-- The administrator reads the message that the phone has posted. -/
theorem cached_answers_session :
    ∃ user eventType events,
      SignedIn (plainAuthEnv ormSchema) (final plainExec ApiState.empty postedStart).accounts
        cacheRequest user ∧
      Holds (final plainExec ApiState.empty postedStart).accounts user "device:sms:query" ∧
      ofCommand EVENT_TYPES "sms.query" = some eventType ∧
      List.Forall₂ (fun q event => EventFor (plainAuthEnv ormSchema) q.1 q.2 event)
        ((withHistory [] (trace plainExec ApiState.empty postedStart)).filter fun q =>
          storesEvent q.2) events ∧
      ListsPage cacheQuery
        (signedCall.order.sort (events.filter fun event =>
          event.deviceId = generateDeviceId Uuid.nil && event.eventType = eventType))
        cacheAnswer.result := by
  refine cached_answers (plainAuthEnv ormSchema) FrpsService.noIso
    (postedStart ++ [.request cacheRequest])
    (trace plainExec ApiState.empty postedStart,
      call plainExec (final plainExec ApiState.empty postedStart) (.request cacheRequest))
    ?_ cacheRequest cacheQuery (generateDeviceId Uuid.nil) signedCall cacheAnswer rfl
    rfl rfl ?_
  · rw [trace_concat, withHistory_concat]
    exact List.mem_append_right _ (List.mem_singleton_self _)
  · obtain ⟨row, hexec⟩ :=
      @exec_session (final plainExec ApiState.empty postedStart) (by rw [final_postedStart])
        cacheRequest.route _ rfl
    show (plainExec (final plainExec ApiState.empty postedStart)
      (.request { sessionRequest with route := cacheRequest.route })).1 = _
    rw [hexec, final_postedStart]
    rfl

end SmsForwarder
