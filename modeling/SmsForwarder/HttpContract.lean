/-
**What the server sends.**

The framework stands between the network and the routes.  It checks the body and the parameters of a
request against what the route declares, and answers what does not fit by itself, with a text that
has none of the fields of the API; a body that is not JSON it refuses before the dependencies of the
route have seen the caller, and one with the wrong values after.  On the way back it writes the data
as JSON, which it may be unable to.  This module puts the two around the server, and says what every
response is that leaves it.

Main definitions:

* `SmsForwarder.CheckedRoute`, `SmsForwarder.RefusedRequest` — the routes whose values the framework
  checks, and a request with values that it refuses;
* `SmsForwarder.HttpRequest`, `SmsForwarder.HttpResponse`, `SmsForwarder.serveHttp` — the server with
  the framework around it;
* `SmsForwarder.HttpContract` — a response is as the contract of the API has it.

Main results:

* `SmsForwarder.access_checked` — a refused request passes the dependencies of its route;
* `SmsForwarder.http_contract` — **every response that is sent is in the contract.**
-/

import SmsForwarder.ErrorContract
import SmsForwarder.SessionRuns

set_option relaxedAutoImplicit false
set_option autoImplicit false

namespace SmsForwarder

open Py Tables Runs Exceptions

/-! ### Requests that the framework refuses -/

/-- The routes that declare a body or a parameter with a type of its own. -/
inductive CheckedRoute
  | login
  | createDevice
  | updateDevice
  | enableTunnel
  | updateTunnel
  | listFrpsDevices
  | queryConfig
  | querySms
  | queryCalls
  | queryContacts
  | queryBattery
  | queryLocation
  deriving DecidableEq

namespace CheckedRoute

/-- The dependencies of these routes. -/
def access : CheckedRoute → Access
  | login => .anyone
  | createDevice | updateDevice => .permission "device:admin"
  | enableTunnel | updateTunnel => .permission "device:tunnel:manage"
  | listFrpsDevices | queryConfig => .permission "device:view"
  | querySms => .permission "device:sms:query"
  | queryCalls => .permission "device:call:query"
  | queryContacts => .permission "device:contact:query"
  | queryBattery => .permission "device:battery:query"
  | queryLocation => .permission "device:location:query"

/-- The route declares a body; `list_frps_devices` has a parameter in the URL alone. -/
def takesBody : CheckedRoute → Bool
  | listFrpsDevices => false
  | _ => true

end CheckedRoute

/-- The checks that a request has passed which reached the route. -/
def Route.checked : Route → Option CheckedRoute
  | login _ _ => some .login
  | createDevice _ _ _ => some .createDevice
  | updateDevice _ _ _ => some .updateDevice
  | enableTunnel _ _ _ => some .enableTunnel
  | updateTunnel _ _ => some .updateTunnel
  | listFrpsDevices _ _ _ => some .listFrpsDevices
  | query (.config _) _ _ => some .queryConfig
  | query (.sms _) _ _ => some .querySms
  | query (.calls _) _ _ => some .queryCalls
  | query (.contacts _) _ _ => some .queryContacts
  | query (.battery _) _ _ => some .queryBattery
  | query (.location _) _ _ => some .queryLocation
  | _ => none

/-- **A request with wrong values passes the dependencies of its route**, which are those of the
requests that reach it. -/
theorem access_checked {route : Route} {checked : CheckedRoute} (h : route.checked = some checked) :
    checked.access = route.access := by
  cases route with
  | query route deviceId d => cases route <;> (obtain rfl := Option.some.inj h; rfl)
  | login | createDevice | updateDevice | enableTunnel | updateTunnel | listFrpsDevices =>
      obtain rfl := Option.some.inj h
      rfl
  | _ => exact absurd h (by simp [Route.checked])

/-- What the framework finds wrong with a request. -/
inductive Refusal
  /-- the body cannot be read: it is no UTF-8, or nested too deep -/
  | unreadable
  /-- the body is no JSON text -/
  | malformed
  /-- a value is missing, or is none that the route declares -/
  | invalid
  deriving DecidableEq

/-- It is the body that is wrong, whatever its values. -/
def Refusal.ofBody : Refusal → Bool
  | unreadable | malformed => true
  | invalid => false

/-- A request that does not have what its route declares. -/
structure RefusedRequest where
  route : CheckedRoute
  refusal : Refusal
  /-- what the framework says is wrong -/
  detail : Json
  authorization : Option Credentials
  requestId : String
  now : Timestamp
  body : refusal.ofBody = true → route.takesBody = true

/-- A request to a route of the API, once the framework has checked it. -/
inductive HttpRequest
  | accepted (req : ApiRequest)
  | refused (req : RefusedRequest)

/-! ### Responses -/

/-- What the server sends: a response of the API, or `{"detail": detail}`. -/
inductive HttpResponse (iso : FrpsService.IsoFormat)
  | api (response : ApiResponse iso)
  | detail (statusCode : ℕ) (detail : Json) (requestIdHeader : Option String)

section

variable (e : AuthEnv) (iso : FrpsService.IsoFormat) (renders : Json → Bool)

/-- The response of the framework.  It quotes what it was given, so it may be unable to write it. -/
def RefusedRequest.respond (req : RefusedRequest) (statusCode : ℕ) : HttpResponse iso :=
  if renders req.detail then .detail statusCode req.detail (some req.requestId)
  else .api (unhandledErrorHandler iso req.requestId)

/-- The response to a request that is refused: the values are checked after the dependencies. -/
def refuse (a : Accounts) (req : RefusedRequest) : HttpResponse iso :=
  match req.refusal with
  | .unreadable => req.respond iso renders 400
  | .malformed => req.respond iso renders 422
  | .invalid =>
      match authorize e a req.route.access req.authorization req.now with
      | .error err => .api (SmsForwarder.respond iso req.requestId (.error err))
      | .ok _ => req.respond iso renders 422

/-- A request with the response that is sent and the tables it leaves. -/
def serveHttp (s : ApiState) : HttpRequest → HttpResponse iso × ApiState
  | .accepted req => (.api ((serve e iso s req).1.sent renders), (serve e iso s req).2)
  | .refused req => (refuse e iso renders s.accounts req, s)

/-- What happens to the server: requests, and runs of `create_admin`. -/
inductive HttpOp
  | request (req : HttpRequest)
  | createAdmin (salt : ℕ) (username : String) (password : Str)

/-- What an operation ends in. -/
inductive HttpAnswer
  | response (response : HttpResponse iso)
  | admin (answer : SystemAnswer iso)

/-- The operation with its answer and the tables it leaves. -/
def HttpOp.exec (s : ApiState) : HttpOp → HttpAnswer iso × ApiState
  | request req => (.response (serveHttp e iso renders s req).1, (serveHttp e iso renders s req).2)
  | createAdmin salt username password =>
      let r := SystemOp.exec e iso s (.createAdmin salt username password)
      (.admin r.1, r.2)

end

/-! ### The contract -/

/-- The response is one that the contract of the API has: one of its own, with a code of the route,
or one of the framework, to a request that the framework refuses. -/
inductive HttpContract {iso : FrpsService.IsoFormat} : HttpRequest → HttpResponse iso → Prop
  | accepted (req : ApiRequest) (response : ApiResponse iso) :
      InContract (req.route.access.codes ++ req.route.codes) req.requestId response →
      HttpContract (.accepted req) (.api response)
  /-- the dependencies have refused the caller, or an exception was not expected -/
  | error (req : RefusedRequest) (response : ApiResponse iso) :
      InContract req.route.access.codes req.requestId response → response.code ≠ 200 →
      (req.refusal.ofBody = true → response.code = 500) →
      HttpContract (.refused req) (.api response)
  | detail (req : RefusedRequest) :
      HttpContract (.refused req)
        (.detail (if req.refusal = .unreadable then 400 else 422) req.detail (some req.requestId))

section

variable {e : AuthEnv} {iso : FrpsService.IsoFormat} {renders : Json → Bool} {s : ApiState}

/-- The response of the framework is in the contract. -/
theorem httpContract_respond (req : RefusedRequest) :
    HttpContract (.refused req)
      (req.respond iso renders (if req.refusal = .unreadable then 400 else 422)) := by
  unfold RefusedRequest.respond
  split
  · exact .detail req
  · exact .error req _ (inContract_unhandled _ _) (by simp [unhandledErrorHandler]) fun _ => rfl

/-- The response to a request that is refused is in the contract. -/
theorem httpContract_refuse (hadm : s.Admitted e.env.schema) (req : RefusedRequest) :
    HttpContract (.refused req) (refuse e iso renders s.accounts req) := by
  have hown := @httpContract_respond iso renders req
  unfold refuse
  cases hrefusal : req.refusal with
  | unreadable => simpa only [hrefusal, if_pos] using hown
  | malformed => simpa only [hrefusal, reduceCtorEq, if_false] using hown
  | invalid =>
      simp only
      cases hauth : authorize e s.accounts req.route.access req.authorization req.now with
      | ok user => simpa only [hrefusal, reduceCtorEq, if_false] using hown
      | error err =>
          have hin : InContract req.route.access.codes req.requestId
              (SmsForwarder.respond iso req.requestId (.error err)) :=
            inContract_respond req.requestId (raises_error.2
              (raises_authorize hadm.accounts.2.1.1 _ _ _ err hauth))
          refine .error req _ hin ?_ (by simp [hrefusal, Refusal.ofBody])
          cases err with
          | app exc =>
              have hle := (ErrorCode.toNat_bounds exc.code).1
              show exc.code.toNat ≠ 200
              omega
          | _ => simp [SmsForwarder.respond, unhandledErrorHandler]

/-- The response to a request is in the contract, and one that the framework refuses changes
nothing. -/
theorem httpContract_serve (hadm : s.Admitted e.env.schema) (req : HttpRequest)
    (hout : ∀ accepted, req = .accepted accepted → Outside e accepted.route) :
    HttpContract req (serveHttp e iso renders s req).1 := by
  cases req with
  | accepted req => exact .accepted req _ ((inContract_serve hadm (hout req rfl)).sent renders)
  | refused req => exact httpContract_refuse hadm req

/-- The database accepts the tables after every operation. -/
theorem admitted_http (hadm : s.Admitted e.env.schema) (op : HttpOp) :
    (op.exec e iso renders s).2.Admitted e.env.schema := by
  cases op with
  | createAdmin salt username password =>
      exact @admitted_system e iso s (.createAdmin salt username password) hadm
  | request req =>
      cases req with
      | accepted req => exact admitted_serve hadm
      | refused req => exact hadm

end

/-- **The contract of the API**: every response that a run sends to a route is in the contract.
Either it is a response of the API, with 200, 500 or a code that its route documents, as its HTTP
status too, a failure with nothing but the details of its error, and the headers `Retry-After` and
`X-Request-ID` as the code has them; or the framework has refused the request, which changes nothing
and is answered with 400 or 422, unless the caller is refused. -/
theorem http_contract (e : AuthEnv) (iso : FrpsService.IsoFormat) (renders : Json → Bool)
    (s : ApiState) (hadm : s.Admitted e.env.schema) (ops : List HttpOp)
    (hout : ∀ req, HttpOp.request (.accepted req) ∈ ops → Outside e req.route) :
    ∀ c ∈ trace (HttpOp.exec e iso renders) s ops, ∀ req, c.op = .request req →
      ∃ response, c.answer = .response response ∧ HttpContract req response ∧
        ∀ refused, req = .refused refused → c.after = c.before := by
  intro c hc req hop
  have hmem : HttpOp.request req ∈ ops := by
    rw [← map_op_trace (HttpOp.exec e iso renders) s ops, ← hop]
    exact List.mem_map_of_mem hc
  have keep : ∀ (t : ApiState) (op : HttpOp), t.Admitted e.env.schema →
      (op.exec e iso renders t).2.Admitted e.env.schema := fun _ op h => admitted_http h op
  obtain ⟨hbefore, hcall⟩ := before_of_mem_trace _ keep hadm hc
  rw [hop] at hcall
  rw [hcall]
  refine ⟨_, rfl, httpContract_serve hbefore req ?_, ?_⟩
  · rintro accepted rfl
    exact hout accepted hmem
  · rintro refused rfl
    rfl

/-! ### Requests of a signed-in administrator -/

/-- The text of a JSON error, which quotes nothing. -/
def missingField : Json := .arr [.str (py "Field required")]

/-- An `enable` whose body is no JSON, by nobody. -/
def malformedRequest : RefusedRequest where
  route := .enableTunnel
  refusal := .malformed
  detail := .str (py "JSON decode error")
  authorization := none
  requestId := "4"
  now := 0
  body _ := rfl

/-- An `enable` without a field, by the administrator. -/
def invalidRequest : RefusedRequest where
  route := .enableTunnel
  refusal := .invalid
  detail := missingField
  authorization := sessionRequest.authorization
  requestId := "5"
  now := sessionRequest.now
  body := by simp [Refusal.ofBody]

/-- The administrator creates a device, and the two requests follow. -/
def httpRun : List HttpOp :=
  [.request (.accepted createRequest), .request (.refused malformedRequest),
    .request (.refused invalidRequest)]

/-- The server with the framework around it, which can write every value. -/
abbrev plainHttp : ApiState → HttpOp → HttpAnswer FrpsService.noIso × ApiState :=
  HttpOp.exec (plainAuthEnv ormSchema) FrpsService.noIso fun _ => true

theorem outside_plain {route : Route} (h : ∀ query deviceId d, route ≠ .query query deviceId d) :
    Outside (plainAuthEnv ormSchema) route where
  checkpw _ _ _ := by simp [plainAuthEnv, plainBcrypt]
  post query deviceId d hroute := absurd hroute (h query deviceId d)

/-- What is answered to them, and the tables they leave. -/
theorem http_session :
    (trace plainHttp (final plainExec ApiState.empty sessionStart) httpRun).map Call.answer =
        [.response (.api (successResponse "2" (.device (deviceOut
            (DeviceService.newDevice (plainEnv ormSchema) Uuid.nil 0 phoneCreate))))),
          .response (.detail 422 malformedRequest.detail (some "4")),
          .response (.detail 422 missingField (some "5"))] ∧
      final plainHttp (final plainExec ApiState.empty sessionStart) httpRun =
        final plainExec ApiState.empty createdStart := by
  obtain ⟨row, hexec⟩ := exec_session rfl createRequest.route rfl
  obtain ⟨user, hauth⟩ := authorize_session "device:tunnel:manage"
  have hfirst : plainHttp (final plainExec ApiState.empty sessionStart)
      (.request (.accepted createRequest)) =
        (.response (.api (successResponse "2" (.device (deviceOut
          (DeviceService.newDevice (plainEnv ormSchema) Uuid.nil 0 phoneCreate))))),
          final plainExec ApiState.empty createdStart) := by
    have hserve : (serve (plainAuthEnv ormSchema) FrpsService.noIso
        (final plainExec ApiState.empty sessionStart) createRequest).1 =
          respond FrpsService.noIso "2" (Route.body (plainAuthEnv ormSchema) FrpsService.noIso
            (final plainExec ApiState.empty sessionStart) (some row) createRequest.route).1 :=
      SystemAnswer.response.inj (congrArg Prod.fst hexec)
    have hafter : (serve (plainAuthEnv ormSchema) FrpsService.noIso
        (final plainExec ApiState.empty sessionStart) createRequest).2 =
          final plainExec ApiState.empty createdStart := rfl
    simp only [plainHttp, HttpOp.exec, serveHttp, hserve, hafter]
    rfl
  have haccounts : (final plainExec ApiState.empty createdStart).accounts =
      (final plainExec ApiState.empty sessionStart).accounts := by
    rw [final_createdStart]
    rfl
  have hthird : plainHttp (final plainExec ApiState.empty createdStart)
      (.request (.refused invalidRequest)) =
        (.response (.detail 422 missingField (some "5")),
          final plainExec ApiState.empty createdStart) := by
    have hin : authorize (plainAuthEnv ormSchema)
        (final plainExec ApiState.empty createdStart).accounts invalidRequest.route.access
        invalidRequest.authorization invalidRequest.now = .ok (some user) := by
      rw [haccounts]
      exact hauth
    simp only [plainHttp, HttpOp.exec, serveHttp, refuse, hin]
    rfl
  have hsecond : plainHttp (final plainExec ApiState.empty createdStart)
      (.request (.refused malformedRequest)) =
        (.response (.detail 422 malformedRequest.detail (some "4")),
          final plainExec ApiState.empty createdStart) := rfl
  constructor
  · simp only [httpRun, trace, call, hfirst, hsecond, hthird, List.map_cons, List.map_nil]
  · rfl

theorem http_contract_session :
    (∀ c ∈ trace plainHttp (final plainExec ApiState.empty sessionStart) httpRun,
        ∀ req, c.op = .request req →
          ∃ response, c.answer = .response response ∧ HttpContract req response ∧
            ∀ refused, req = .refused refused → c.after = c.before) ∧
      (trace plainHttp (final plainExec ApiState.empty sessionStart) httpRun).map Call.answer =
        [.response (.api (successResponse "2" (.device (deviceOut
            (DeviceService.newDevice (plainEnv ormSchema) Uuid.nil 0 phoneCreate))))),
          .response (.detail 422 malformedRequest.detail (some "4")),
          .response (.detail 422 missingField (some "5"))] ∧
      final plainHttp (final plainExec ApiState.empty sessionStart) httpRun =
        final plainExec ApiState.empty createdStart := by
  refine ⟨http_contract (plainAuthEnv ormSchema) FrpsService.noIso (fun _ => true) _
    (accountsInvariant_run (plainAuthEnv ormSchema) FrpsService.noIso sessionStart).admitted
    httpRun fun req hmem => ?_, http_session⟩
  simp only [httpRun, List.mem_cons, HttpOp.request.injEq, HttpRequest.accepted.injEq,
    reduceCtorEq, List.not_mem_nil, or_false] at hmem
  rw [hmem]
  exact outside_plain (by simp [createRequest])

end SmsForwarder
