/-
**The errors of the API.**

An application error carries the code that the response will have; every other exception is answered
with 500 and nothing else.  Which application errors a route can raise is spread over the services
it calls.  This module collects them: what each route raises of its own, on top of what its
dependencies refuse; and what the response to it is then.

Main definitions:

* `SmsForwarder.OfCodes` — an exception that is not an application error of another code;
* `SmsForwarder.Access.codes`, `SmsForwarder.Route.codes` — the contract;
* `SmsForwarder.InContract` — a response is as a contract has it.

Main results:

* `SmsForwarder.raises_body` — what the body of a route can raise;
* `SmsForwarder.inContract_serve` — the response to a request is in the contract of its route.
-/

import SmsForwarder.ApiEffects
import SmsForwarder.Exceptions

set_option relaxedAutoImplicit false
set_option autoImplicit false

namespace SmsForwarder

open Py Tables Runs Exceptions

/-- The exception is not an application error, or its code is among these. -/
def OfCodes (codes : List ErrorCode) (err : PyError) : Prop :=
  ∀ exc, err = .app exc → exc.code ∈ codes

/-! ### The contract -/

/-- The codes that the dependencies of a route refuse with. -/
def Access.codes : Access → List ErrorCode
  | anyone => []
  | signedIn => [.unauthorized]
  | permission _ => [.unauthorized, .forbidden]

/-- The codes that the body of a route raises. -/
def Route.codes : Route → List ErrorCode
  | healthz | me | createDevice _ _ _ | listDevices => []
  | login _ _ => [.unauthorized]
  | getDevice _ | createWebhook _ _ | rotateWebhook _ _ | getTunnel _ | updateTunnel _ _
  | disableTunnel _ | rotateTunnelToken _ _ | getFrpcConfig _ _ => [.notFound]
  | updateDevice _ _ _ | enableTunnel _ _ _ => [.notFound, .conflict]
  | ingestWebhook _ => [.rateLimited, .unauthorized]
  | listFrpsDevices _ _ _ => [.deviceUnreachable]
  | query _ _ _ => [.notFound, .conflict, .deviceUnreachable, .deviceTimeout]

/-! ### Statements and lookups -/

section

variable {codes : List ErrorCode} {env : Env} {db : Store} {deviceId : String}

@[simp] theorem ofCodes_app {exc : AppError} : OfCodes codes (.app exc) ↔ exc.code ∈ codes :=
  ⟨fun h => h exc rfl, fun h _ heq => PyError.app.inj heq ▸ h⟩

/-- Every other exception is within any codes. -/
theorem ofCodes_of_ne {err : PyError} (h : ∀ exc, err ≠ .app exc) : OfCodes codes err :=
  fun exc heq => absurd heq (h exc)

/-- No application error is within no code. -/
theorem ofCodes_nil {err : PyError} : OfCodes [] err ↔ ∀ exc, err ≠ .app exc := by
  simp [OfCodes]

theorem raises_commit (schema : Schema) (db : Store) :
    Raises (OfCodes codes) (commit schema db) := by
  unfold commit
  refine raises_ite (fun _ => ?_) fun _ => raises_ite (fun _ => ?_) fun _ => ?_
  · exact raises_error.2 (ofCodes_of_ne (by simp))
  · exact raises_ok _
  · exact raises_error.2 (ofCodes_of_ne (by simp))

theorem raises_requireDevice (h : .notFound ∈ codes) :
    Raises (OfCodes codes) (requireDevice db deviceId) := by
  unfold requireDevice
  split
  · exact raises_error.2 (ofCodes_of_ne (by simp))
  · exact raises_error.2 (ofCodes_app.2 h)
  · exact raises_ok _

theorem raises_getTunnel : Raises (OfCodes codes) (TunnelService.getTunnel db deviceId) := by
  unfold TunnelService.getTunnel
  split
  · exact raises_error.2 (ofCodes_of_ne (by simp))
  · exact raises_ok _

theorem raises_requireTunnel (h : .notFound ∈ codes) :
    Raises (OfCodes codes) (TunnelService.requireTunnel db deviceId) := by
  refine raises_bind (raises_requireDevice h) fun _ _ => raises_bind raises_getTunnel fun t _ => ?_
  cases t with
  | none => exact raises_error.2 (ofCodes_app.2 h)
  | some t => exact raises_ok t

theorem raises_decrypt (ciphertext : String) : Raises (OfCodes codes) (decrypt env ciphertext) := by
  unfold decrypt
  split
  · exact raises_ok _
  · exact raises_error.2 (ofCodes_of_ne (by simp))

/-! ### The services -/

theorem raises_createDevice (uuid : Uuid) (nonce : ℕ) (payload : DeviceCreate) :
    Raises (OfCodes codes) (DeviceService.create env db uuid nonce payload) :=
  raises_bind (raises_commit _ _) fun _ _ => raises_pure _

theorem raises_updateDevice (nonce : ℕ) (payload : DeviceUpdate) (hnot : .notFound ∈ codes)
    (hconflict : .conflict ∈ codes) :
    Raises (OfCodes codes) (DeviceService.update env db deviceId nonce payload) := by
  refine raises_bind (raises_requireDevice hnot) fun device _ => raises_bind ?_ fun _ _ =>
    raises_bind (raises_bind ?_ fun _ _ => raises_commit _ _) fun _ _ => raises_pure _
  · unfold DeviceService.ensureUnmanaged
    split
    · exact raises_ok _
    · split
      · exact raises_error.2 (ofCodes_of_ne (by simp))
      · exact raises_error.2 (ofCodes_app.2 hconflict)
      · exact raises_ok _
  · unfold DeviceService.assign
    split
    · exact raises_error.2 (ofCodes_of_ne (by simp))
    · exact raises_ok _

theorem raises_createWebhook (secret : String) (h : .notFound ∈ codes) :
    Raises (OfCodes codes) (WebhookService.create env db deviceId secret) :=
  raises_bind (raises_requireDevice h) fun _ _ =>
    raises_bind (raises_commit _ _) fun _ _ => raises_pure _

theorem raises_rotateWebhook (secret : String) (h : .notFound ∈ codes) :
    Raises (OfCodes codes) (WebhookService.rotate env db deviceId secret) :=
  raises_bind (raises_requireDevice h) fun _ _ =>
    raises_bind (raises_commit _ _) fun _ _ => raises_pure _

theorem raises_enable (nonce : ℕ) (payload : TunnelEnableIn) (hnot : .notFound ∈ codes)
    (hconflict : .conflict ∈ codes) :
    Raises (OfCodes codes) (TunnelService.enable env db deviceId nonce payload) := by
  refine raises_bind (raises_requireDevice hnot) fun device _ =>
    raises_bind raises_getTunnel fun tunnel _ => raises_bind ?_ fun _ _ =>
      raises_bind ?_ fun port _ => raises_bind ?_ fun _ _ => raises_pure _
  · unfold TunnelService.ensureNotEnabled
    exact raises_ite (fun _ => raises_error.2 (ofCodes_app.2 hconflict)) fun _ => raises_ok _
  · intro err herr
    obtain ⟨message, rfl⟩ := TunnelService.choosePort_eq_error herr
    exact ofCodes_app.2 hconflict
  · unfold TunnelService.flushEnable
    split
    · exact raises_error.2 (ofCodes_app.2 hconflict)
    · exact raises_commit _ _

theorem raises_updateTunnel (payload : TunnelUpdateIn) (h : .notFound ∈ codes) :
    Raises (OfCodes codes) (TunnelService.update env db deviceId payload) :=
  raises_bind (raises_requireTunnel h) fun _ _ =>
    raises_bind (raises_commit _ _) fun _ _ => raises_pure _

theorem raises_disable (h : .notFound ∈ codes) :
    Raises (OfCodes codes) (TunnelService.disable env db deviceId) :=
  raises_bind (raises_requireDevice h) fun _ _ => raises_bind (raises_requireTunnel h) fun _ _ =>
    raises_bind (raises_commit _ _) fun _ _ => raises_pure _

theorem raises_rotateToken (nonce : ℕ) (h : .notFound ∈ codes) :
    Raises (OfCodes codes) (TunnelService.rotateToken env db deviceId nonce) :=
  raises_bind (raises_requireTunnel h) fun _ _ =>
    raises_bind (raises_commit _ _) fun _ _ => raises_pure _

theorem raises_renderFrpcConfig (userId : Option ℤ) (now : Timestamp) (h : .notFound ∈ codes) :
    Raises (OfCodes codes) (TunnelService.renderFrpcConfig env db deviceId userId now) :=
  raises_bind (raises_requireTunnel h) fun _ _ => raises_bind (raises_decrypt _) fun _ _ =>
    raises_bind (raises_commit _ _) fun _ _ => raises_pure _

theorem raises_listDevices {iso : FrpsService.IsoFormat} (order : FrpsService.PortOrder)
    (answer : FrpsService.DashboardAnswer) (connectedOnly : Bool)
    (h : .deviceUnreachable ∈ codes) :
    Raises (OfCodes codes) (FrpsService.listDevices iso env order db answer connectedOnly) := by
  refine raises_bind ?_ fun _ _ => raises_pure _
  unfold FrpsService.fetchTcpProxies
  split
  · exact raises_error.2 (ofCodes_app.2 h)
  · exact raises_error.2 (ofCodes_app.2 h)
  · split
    · refine raises_mapM fun proxy _ err herr => ?_
      obtain ⟨rfl, -⟩ := FrpsService.parseProxy_eq_error.1 herr
      exact ofCodes_of_ne (by simp)
    · exact raises_error.2 (ofCodes_app.2 h)
  · exact raises_error.2 (ofCodes_app.2 h)

/-! ### Postings -/

theorem raises_run {α : Type} {c : WebhookService.IngestCall} {x : Except PyError α}
    (statement : WebhookService.IngestStatement) (h : Raises (OfCodes codes) x) :
    Raises (OfCodes codes) (c.run statement x) := by
  unfold WebhookService.IngestCall.run
  exact raises_ite (fun _ => raises_error.2 (ofCodes_of_ne (by simp))) fun _ => h

theorem raises_ingest (webhook : DeviceWebhook) (c : WebhookService.IngestCall) :
    Raises (OfCodes codes) (WebhookService.ingest env db webhook c) := by
  refine raises_bind ?_ fun fields _ => raises_bind ?_ fun eventId _ => raises_bind ?_ fun event _ =>
    raises_bind ?_ fun working _ => raises_bind ?_ fun held _ => raises_bind ?_ fun device _ =>
      raises_bind ?_ fun _ _ => raises_pure _
  · unfold WebhookService.payloadFields
    split
    · exact raises_ok _
    · exact raises_error.2 (ofCodes_of_ne (by simp))
  · unfold WebhookService.eventIdOf WebhookService.stableEventId
    refine raises_ite (fun _ => raises_ok _) fun _ => ?_
    split
    · exact raises_ok _
    · exact raises_error.2 (ofCodes_of_ne (by simp))
  · unfold WebhookService.bindEvent
    split
    · exact raises_ok _
    · exact raises_error.2 (ofCodes_of_ne (by simp))
  · have hflush : Raises (OfCodes codes) (WebhookService.flushEvent env db event c) :=
      raises_run _ (raises_commit _ _)
    unfold WebhookService.addEvent
    split
    · exact raises_ok _
    · exact raises_run _ (raises_ok _)
    · rename_i err _ herr
      exact raises_error.2 (hflush err herr)
  · unfold WebhookService.heldWebhook
    refine raises_ite (fun _ => raises_run _ ?_) fun _ => raises_ok _
    split
    · exact raises_ok _
    · exact raises_error.2 (ofCodes_of_ne (by simp))
  · refine raises_run _ ?_
    unfold WebhookService.oneDevice
    split
    · exact raises_error.2 (ofCodes_of_ne (by simp))
    · exact raises_error.2 (ofCodes_of_ne (by simp))
    · exact raises_ok _
  · exact raises_run _ (raises_run _ (raises_commit _ _))

theorem raises_countRequest (rateLimits : List RateLimit) (req : IngestRequest)
    (h : .rateLimited ∈ codes) : Raises (OfCodes codes) (countRequest env rateLimits req) := by
  refine raises_bind ?_ fun record _ => raises_bind ?_ fun _ _ => ?_
  · unfold readWindow
    split
    · exact raises_error.2 (ofCodes_of_ne (by simp))
    · exact raises_ok _
  · unfold ensureBelow
    split
    · exact raises_ok _
    · exact raises_ite (fun _ => raises_error.2 (ofCodes_app.2 h)) fun _ => raises_ok _
  · unfold flushWindow commitRateLimits
    refine raises_ite (fun _ => raises_error.2 (ofCodes_of_ne (by simp))) fun _ => ?_
    exact raises_ite (fun _ => raises_ok _) fun _ => raises_error.2 (ofCodes_of_ne (by simp))

theorem raises_postEvent (req : IngestRequest) (h : .unauthorized ∈ codes) :
    Raises (OfCodes codes) (postEvent env db req) := by
  refine raises_bind ?_ fun _ _ => raises_bind ?_ fun _ _ => raises_ingest _ _
  · unfold requestJson
    split
    · exact raises_ok _
    · exact raises_error.2 (ofCodes_of_ne (by simp))
  · unfold WebhookService.lookup
    split
    · exact raises_error.2 (ofCodes_of_ne (by simp))
    · exact raises_error.2 (ofCodes_app.2 h)
    · exact raises_ok _

theorem raises_ingestWebhook (server : Server) (req : IngestRequest) (hrate : .rateLimited ∈ codes)
    (hunauth : .unauthorized ∈ codes) :
    Raises (OfCodes codes) (ingestWebhook env server req).1 := by
  unfold ingestWebhook
  cases hcount : countRequest env server.rateLimits req with
  | error err => exact raises_error.2 (raises_countRequest _ _ hrate err hcount)
  | ok rateLimits => exact raises_attempt.2 (raises_postEvent req hunauth)

/-! ### Commands -/

section

variable {d : DispatchCall} {device : Device} {commandType : String} {payload : List (Str × Json)}

/-- The codes a command ends in. -/
def commandCodes : List ErrorCode := [.notFound, .conflict, .deviceUnreachable, .deviceTimeout]

theorem raises_bindJson (v : Json) : Raises (OfCodes codes) (CommandService.bindJson env v) := by
  unfold CommandService.bindJson
  exact raises_ite (fun _ => raises_ok _) fun _ => raises_error.2 (ofCodes_of_ne (by simp))

theorem raises_createLog (userId : Option ℤ) :
    Raises (OfCodes codes)
      (CommandService.createLog env d db device commandType payload userId) :=
  raises_bind (raises_bindJson _) fun _ _ =>
    raises_bind (raises_commit _ _) fun _ _ => raises_pure _

theorem raises_finishLog (log : DeviceCommandLog) (status : String) (response : List (Str × Json))
    (errorMsg : Option String) :
    Raises (OfCodes codes) (CommandService.finishLog env d db log status response errorMsg) :=
  raises_bind (raises_bindJson _) fun _ _ => raises_commit _ _

theorem raises_queryCache :
    Raises (OfCodes commandCodes)
      (CommandService.queryCache env d db deviceId commandType payload) := by
  have hint : ∀ v, Raises (OfCodes commandCodes) (CommandService.intOf env v) := by
    intro v err herr
    rcases FrpsService.intOf_eq_error herr with ⟨rfl, -⟩ | ⟨hmem, -⟩
    · exact ofCodes_of_ne (by simp)
    · simp only [List.mem_cons, List.not_mem_nil, or_false] at hmem
      rcases hmem with rfl | rfl <;> exact ofCodes_of_ne (by simp)
  refine raises_bind ?_ fun _ _ => raises_bind (hint _) fun _ _ => raises_bind (hint _) fun _ _ =>
    raises_bind ?_ fun _ _ => raises_pure _
  · unfold CommandService.cachedType
    split
    · exact raises_ok _
    · exact raises_error.2 (ofCodes_app.2 (by decide))
  · unfold CommandService.fetchPage
    split
    · exact raises_ok _
    · exact raises_error.2 (ofCodes_of_ne (by simp))

theorem raises_queryRealtime
    (hpost : ∀ url body exc, d.post url body ≠ .raised (.app exc)) :
    Raises (OfCodes commandCodes)
      (CommandService.queryRealtime env d device commandType payload) := by
  refine raises_bind ?_ fun _ _ => raises_bind ?_ fun _ _ => raises_bind ?_ fun _ _ => ?_
  · unfold CommandService.reachableUrl
    refine raises_ite (fun _ => raises_error.2 (ofCodes_app.2 (by decide))) fun _ => ?_
    split
    · exact raises_error.2 (ofCodes_app.2 (by decide))
    · exact raises_error.2 (ofCodes_app.2 (by decide))
    · exact raises_ok _
  · unfold CommandService.commandPath
    split
    · exact raises_ok _
    · exact raises_error.2 (ofCodes_app.2 (by decide))
  · unfold CommandService.signSecret
    split
    · exact raises_ok _
    · exact raises_ok _
    · exact raises_map.2 (raises_decrypt _)
  · unfold SmsForwarderHttpAdapter.request
    refine raises_ite (fun _ => raises_error.2 (ofCodes_app.2 (by decide))) fun _ => ?_
    split
    · exact raises_error.2 (ofCodes_app.2 (by decide))
    · exact raises_error.2 (ofCodes_app.2 (by simp [DeviceChannelError, commandCodes]))
    · exact raises_ok _
    · exact raises_error.2 (ofCodes_app.2 (by decide))
    · rename_i err hraised
      refine raises_error.2 (ofCodes_of_ne ?_)
      rintro exc rfl
      exact hpost _ _ exc hraised

theorem raises_query (hpost : ∀ url body exc, d.post url body ≠ .raised (.app exc)) :
    Raises (OfCodes commandCodes)
      (CommandService.query env d db device deviceId commandType payload) := by
  unfold CommandService.query
  refine raises_ite (fun _ => raises_map.2 raises_queryCache) fun _ =>
    raises_ite (fun _ => raises_queryRealtime hpost) fun _ => ?_
  exact raises_error.2 (ofCodes_app.2 (by decide))

theorem raises_dispatch (userId : Option ℤ)
    (hpost : ∀ url body exc, d.post url body ≠ .raised (.app exc)) :
    Raises (OfCodes commandCodes)
      (CommandService.dispatch env d db deviceId commandType payload userId).1 := by
  unfold CommandService.dispatch
  cases hdevice : requireDevice db deviceId with
  | error err => exact raises_error.2 (raises_requireDevice (by decide) err hdevice)
  | ok device =>
      simp only
      cases hcreate : CommandService.createLog env d db device commandType payload userId with
      | error err => exact raises_error.2 (raises_createLog userId err hcreate)
      | ok stored =>
          simp only [CommandService.finish]
          cases hquery :
              CommandService.query env d stored.1 device deviceId commandType payload with
          | ok data =>
              simp only
              cases hfinish :
                  CommandService.finishLog env d stored.1 stored.2 "success" data none with
              | ok db' => exact raises_ok _
              | error err => exact raises_error.2 (raises_finishLog _ _ _ _ err hfinish)
          | error raised =>
              have hraised := raises_query hpost raised hquery
              simp only
              cases hfinish : CommandService.finishLog env d stored.1 stored.2 "failed" []
                  (some (CommandService.failure d raised).1) with
              | ok db' =>
                  refine raises_error.2 ?_
                  -- an application error is raised as it is, any other as a `DeviceChannelError`
                  cases raised with
                  | app exc => exact hraised
                  | _ => exact ofCodes_app.2 (by decide)
              | error err => exact raises_error.2 (raises_finishLog _ _ _ _ err hfinish)

end

end

/-! ### The routes -/

section

variable {e : AuthEnv} {iso : FrpsService.IsoFormat} {s : ApiState}

/-- The dependencies of a route raise what its contract says. -/
theorem raises_authorize (hu : UniqueKey User.id s.accounts.users) (access : Access)
    (credentials : Option Credentials) (now : Timestamp) :
    Raises (OfCodes access.codes) (authorize e s.accounts access credentials now) := by
  intro err herr exc heq
  subst heq
  cases access with
  | anyone => simp [authorize] at herr
  | signedIn =>
      have hcurrent : getCurrentUser e s.accounts credentials now = .error (.app exc) := by
        cases h : getCurrentUser e s.accounts credentials now with
        | ok user => simp [authorize, h, Except.map] at herr
        | error err => simpa [authorize, h, Except.map] using herr
      rw [code_getCurrentUser hu hcurrent]
      exact List.mem_singleton_self _
  | permission permission =>
      rcases code_authorize hu herr with h | h <;> simp [Access.codes, h]

/-- What is outside the server raises none of its errors. -/
structure Outside (e : AuthEnv) (route : Route) : Prop where
  checkpw : ∀ password hash exc, e.bcrypt.checkpw password hash ≠ .error (.app exc)
  post : ∀ query deviceId (d : DispatchCall), route = .query query deviceId d →
    ∀ url body exc, d.post url body ≠ .raised (.app exc)

theorem raises_login (a : Accounts) (payload : LoginRequest) (now : Timestamp)
    (h : ∀ password hash exc, e.bcrypt.checkpw password hash ≠ .error (.app exc)) :
    Raises (OfCodes [.unauthorized]) (login e a payload now) := by
  refine raises_bind ?_ fun _ _ => raises_pure _
  unfold authenticate
  split
  · exact raises_error.2 (ofCodes_of_ne (by simp))
  · exact raises_error.2 (ofCodes_app.2 (by simp [UnauthorizedError]))
  · refine raises_bind ?_ fun verified _ => raises_ite (fun _ => ?_) fun _ =>
      raises_ite (fun _ => ?_) fun _ => raises_ok _
    · unfold verifyPassword
      split
      · exact raises_ok _
      · split
        · exact raises_error.2 (ofCodes_of_ne (by simp))
        · rintro err herr exc rfl
          exact absurd herr (h _ _ exc)
    · exact raises_error.2 (ofCodes_app.2 (by simp [UnauthorizedError]))
    · exact raises_error.2 (ofCodes_app.2 (by simp [UnauthorizedError]))

/-- **What the body of a route can raise.** -/
theorem raises_body (route : Route) (user : Option User) (hout : Outside e route) :
    Raises (OfCodes route.codes) (route.body e iso s user).1 := by
  have hcall : ∀ {α : Type} {codes : List ErrorCode} {call : Store → Except PyError (Store × α)}
      {data : α → ApiData iso}, Raises (OfCodes codes) (call s.server.db) →
      Raises (OfCodes codes) (committed iso s call data).1 :=
    fun h => raises_map.2 (raises_attempt.2 h)
  cases route with
  | healthz => exact raises_ok _
  | login payload now => exact raises_map.2 (raises_login _ _ _ hout.checkpw)
  | me =>
      cases user with
      | some user => exact raises_ok _
      | none => exact raises_error.2 (ofCodes_of_ne (by simp))
  | createDevice uuid nonce payload => exact hcall (raises_createDevice uuid nonce payload)
  | listDevices => exact raises_ok _
  | getDevice deviceId => exact raises_map.2 (raises_requireDevice (by simp [Route.codes]))
  | updateDevice deviceId nonce payload =>
      exact hcall (raises_updateDevice nonce payload (by simp [Route.codes])
        (by simp [Route.codes]))
  | createWebhook deviceId secret =>
      exact hcall (raises_createWebhook secret (by simp [Route.codes]))
  | rotateWebhook deviceId secret =>
      exact hcall (raises_rotateWebhook secret (by simp [Route.codes]))
  | ingestWebhook req =>
      exact raises_map.2
        (raises_ingestWebhook _ req (by simp [Route.codes]) (by simp [Route.codes]))
  | getTunnel deviceId =>
      exact raises_map.2 (raises_bind (raises_requireDevice (by simp [Route.codes]))
        fun _ _ => raises_getTunnel)
  | enableTunnel deviceId nonce payload =>
      exact hcall (raises_enable nonce payload (by simp [Route.codes]) (by simp [Route.codes]))
  | updateTunnel deviceId payload =>
      exact hcall (raises_updateTunnel payload (by simp [Route.codes]))
  | disableTunnel deviceId => exact hcall (raises_disable (by simp [Route.codes]))
  | rotateTunnelToken deviceId nonce =>
      exact hcall (raises_rotateToken nonce (by simp [Route.codes]))
  | getFrpcConfig deviceId now =>
      exact hcall (raises_renderFrpcConfig _ now (by simp [Route.codes]))
  | listFrpsDevices order answer connectedOnly =>
      exact raises_map.2 (raises_listDevices order answer connectedOnly (by simp [Route.codes]))
  | query route deviceId d =>
      exact raises_map.2 (raises_dispatch _ (hout.post route deviceId d rfl))

/-! ### Responses -/

/-- The response to a request with this identifier is one that a contract of these codes has. -/
structure InContract (codes : List ErrorCode) (requestId : String) (response : ApiResponse iso) :
    Prop where
  code : response.code = 200 ∨ response.code = 500 ∨ ∃ code ∈ codes, response.code = code.toNat
  statusCode : response.statusCode = response.code
  failed : response.code ≠ 200 → ∃ details, response.data = .details details
  retryAfter : response.retryAfter.isSome = true ↔ response.code = 429
  requestIdHeader : response.requestIdHeader =
    if response.code = 500 then none else some requestId
  requestId : response.requestId = requestId

/-- The number of an error code is that of an HTTP error. -/
theorem ErrorCode.toNat_bounds (code : ErrorCode) :
    400 ≤ code.toNat ∧ code.toNat ≠ 500 ∧ (code.toNat = 429 ↔ code = .rateLimited) := by
  cases code <;> decide

/-- An unexpected exception is in every contract. -/
theorem inContract_unhandled (codes : List ErrorCode) (requestId : String) :
    InContract codes requestId (unhandledErrorHandler iso requestId) where
  code := Or.inr (Or.inl rfl)
  statusCode := rfl
  failed _ := ⟨[], rfl⟩
  retryAfter := by simp [unhandledErrorHandler]
  requestIdHeader := rfl
  requestId := rfl

/-- The response to what a route returns or raises is in the contract that the exceptions are in. -/
theorem inContract_respond {codes : List ErrorCode} (requestId : String)
    {outcome : Except PyError (ApiData iso)} (h : Raises (OfCodes codes) outcome) :
    InContract codes requestId (respond iso requestId outcome) := by
  cases outcome with
  | ok data => exact {
      code := Or.inl rfl
      statusCode := rfl
      failed := fun hne => absurd rfl hne
      retryAfter := by simp [respond, successResponse]
      requestIdHeader := rfl
      requestId := rfl }
  | error err =>
      cases err with
      | app exc =>
          obtain ⟨hle, hne, hlimit⟩ := ErrorCode.toNat_bounds exc.code
          exact {
            code := Or.inr (Or.inr ⟨exc.code, h _ rfl exc rfl, rfl⟩)
            statusCode := if_pos hle
            failed := fun _ => ⟨exc.details, rfl⟩
            retryAfter := by simp [respond, appErrorHandler, retryAfterHeader, hlimit]
            requestIdHeader := (if_neg hne).symm
            requestId := rfl }
      | _ => exact inContract_unhandled codes requestId

/-- A response that cannot be written is one to an unexpected exception, so it stays in the
contract. -/
theorem InContract.sent {codes : List ErrorCode} {requestId : String} {response : ApiResponse iso}
    (h : InContract codes requestId response) (renders : Json → Bool) :
    InContract codes requestId (response.sent renders) := by
  unfold ApiResponse.sent
  split
  · exact h
  · rw [h.requestId]
    exact inContract_unhandled codes requestId

/-- **The response to a request is in the contract of its route**, as long as nothing outside the
server raises one of its errors. -/
theorem inContract_serve (hadm : s.Admitted e.env.schema) {req : ApiRequest}
    (hout : Outside e req.route) :
    InContract (req.route.access.codes ++ req.route.codes) req.requestId (serve e iso s req).1 := by
  rcases serve_cases e iso s req with ⟨err, hauth, hserve⟩ | ⟨user, -, hserve⟩
  · rw [hserve]
    have hrefused := raises_authorize hadm.accounts.2.1.1 _ _ _ err hauth
    exact inContract_respond req.requestId (raises_error.2 fun exc heq =>
      List.mem_append_left _ (hrefused exc heq))
  · rw [hserve]
    exact inContract_respond req.requestId ((raises_body req.route user hout).mono
      fun err herr exc heq => List.mem_append_right _ (herr exc heq))

end

end SmsForwarder
