/-
**The HTTP API.**

Every route of the server under `/api/v1`: what it asks of the caller, the service call it makes,
and the response.  The checks on the caller are dependencies of the route, so they run before its
body, and an error that any of them or the body raises is turned into a response by one of two
handlers. The administrators of the server are created by a command of its own, on the same tables;
no route touches the accounts.

Main definitions:

* `SmsForwarder.Route`, `SmsForwarder.Route.access` — the routes with their arguments, and what each
  asks of the caller;
* `SmsForwarder.ApiRequest`, `SmsForwarder.ApiResponse`, `SmsForwarder.ApiState` — a request, a
  response, and the tables;
* `SmsForwarder.authorize`, `SmsForwarder.Route.body`, `SmsForwarder.serve` — the dependencies, the
  bodies of the routes, and the server;
* `SmsForwarder.ApiResponse.sent` — a response as it is sent;
* `SmsForwarder.SystemOp`, `SmsForwarder.SystemOp.exec` — requests, and runs of `create_admin`.

Main results:

* `SmsForwarder.authorize_eq_ok` — whom a route lets in;
* `SmsForwarder.serve_cases` — a request that is refused leaves the tables as they are, and one that
  is let in makes the call of its route;
* `SmsForwarder.accounts_serve` — no request changes the accounts.
-/

import SmsForwarder.AccessTokens
import SmsForwarder.FrpsDevices
import SmsForwarder.IngestEndpoint
import SmsForwarder.PagedQueries

set_option relaxedAutoImplicit false
set_option autoImplicit false

namespace SmsForwarder

open Py Tables Runs

/-! ### Bodies of the query routes -/

structure QueryModeRequest where
  mode : QueryMode := .realtime

/-- `payload.model_dump()`. -/
def QueryModeRequest.modelDump (req : QueryModeRequest) : List (Str × Json) :=
  [(py "mode", .str (py req.mode.text))]

/-- An optional integer in a JSON value. -/
def optionalNum : Option ℤ → Json
  | some z => .num (.int z)
  | none => .null

/-- An optional text in a JSON value. -/
def optionalText : Option Str → Json
  | some s => .str s
  | none => .null

structure SmsQueryRequest extends PagedQueryRequest where
  type : Option ℤ := none
  keyword : Option Str := none

structure CallQueryRequest extends PagedQueryRequest where
  type : Option ℤ := none
  phoneNumber : Option Str := none

structure ContactQueryRequest extends PagedQueryRequest where
  phoneNumber : Option Str := none
  name : Option Str := none

def SmsQueryRequest.modelDump (req : SmsQueryRequest) : List (Str × Json) :=
  ({ req.toPagedQueryRequest with
      fields := [(py "type", optionalNum req.type), (py "keyword", optionalText req.keyword)] } :
    PagedQueryRequest).modelDump

def CallQueryRequest.modelDump (req : CallQueryRequest) : List (Str × Json) :=
  ({ req.toPagedQueryRequest with
      fields := [(py "type", optionalNum req.type),
        (py "phone_number", optionalText req.phoneNumber)] } : PagedQueryRequest).modelDump

def ContactQueryRequest.modelDump (req : ContactQueryRequest) : List (Str × Json) :=
  ({ req.toPagedQueryRequest with
      fields := [(py "phone_number", optionalText req.phoneNumber),
        (py "name", optionalText req.name)] } : PagedQueryRequest).modelDump

/-- The six query routes, each with its body. -/
inductive QueryRoute
  | config (payload : QueryModeRequest)
  | sms (payload : SmsQueryRequest)
  | calls (payload : CallQueryRequest)
  | contacts (payload : ContactQueryRequest)
  | battery (payload : QueryModeRequest)
  | location (payload : QueryModeRequest)

namespace QueryRoute

/-- The command that a query route dispatches. -/
def commandType : QueryRoute → String
  | config _ => "config.query"
  | sms _ => "sms.query"
  | calls _ => "call.query"
  | contacts _ => "contact.query"
  | battery _ => "battery.query"
  | location _ => "location.query"

/-- The permission of a query route; `config` has none of its own. -/
def permission : QueryRoute → String
  | config _ => "device:view"
  | sms _ => "device:sms:query"
  | calls _ => "device:call:query"
  | contacts _ => "device:contact:query"
  | battery _ => "device:battery:query"
  | location _ => "device:location:query"

/-- `payload.model_dump()`. -/
def modelDump : QueryRoute → List (Str × Json)
  | config payload => payload.modelDump
  | sms payload => payload.modelDump
  | calls payload => payload.modelDump
  | contacts payload => payload.modelDump
  | battery payload => payload.modelDump
  | location payload => payload.modelDump

end QueryRoute

/-! ### Routes -/

/-- The routes with their arguments; the values that the code draws, the answers of the network and
the readings of the clock are arguments too. -/
inductive Route
  | healthz
  | login (payload : LoginRequest) (now : Timestamp)
  | me
  | createDevice (uuid : Uuid) (nonce : ℕ) (payload : DeviceCreate)
  | listDevices
  | getDevice (deviceId : String)
  | updateDevice (deviceId : String) (nonce : ℕ) (payload : DeviceUpdate)
  | createWebhook (deviceId secret : String)
  | rotateWebhook (deviceId secret : String)
  | ingestWebhook (req : IngestRequest)
  | getTunnel (deviceId : String)
  | enableTunnel (deviceId : String) (nonce : ℕ) (payload : TunnelEnableIn)
  | updateTunnel (deviceId : String) (payload : TunnelUpdateIn)
  | disableTunnel (deviceId : String)
  | rotateTunnelToken (deviceId : String) (nonce : ℕ)
  | getFrpcConfig (deviceId : String) (now : Timestamp)
  | listFrpsDevices (order : FrpsService.PortOrder) (answer : FrpsService.DashboardAnswer)
      (connectedOnly : Bool)
  | query (route : QueryRoute) (deviceId : String) (d : DispatchCall)

/-- What a route asks of the caller. -/
inductive Access
  | anyone
  /-- the dependency `CurrentUser` alone -/
  | signedIn
  /-- the dependency `require_permission` -/
  | permission (permission : String)

/-- The dependencies of the routes. -/
def Route.access : Route → Access
  | healthz | login _ _ | ingestWebhook _ => .anyone
  | me => .signedIn
  | listDevices | getDevice _ | getTunnel _ | listFrpsDevices _ _ _ => .permission "device:view"
  | createDevice _ _ _ | updateDevice _ _ _ => .permission "device:admin"
  | createWebhook _ _ | rotateWebhook _ _ => .permission "device:webhook:manage"
  | enableTunnel _ _ _ | updateTunnel _ _ | disableTunnel _ | rotateTunnelToken _ _
  | getFrpcConfig _ _ => .permission "device:tunnel:manage"
  | query route _ _ => .permission route.permission

/-! ### What the routes return -/

/-- `CurrentUserOut`. -/
structure CurrentUserOut where
  id : ℕ
  username : String
  displayName : Option String

/-- `CurrentUserOut.model_validate`. -/
def currentUserOut (user : User) : CurrentUserOut where
  id := user.id
  username := user.username
  displayName := user.displayName

/-- `DeviceOut`. -/
structure DeviceOut where
  deviceId : String
  deviceName : Option String
  channelType : String
  baseUrl : Option String
  status : String
  isActive : Bool
  lastSeenAt : Option Timestamp
  lastWebhookAt : Option Timestamp
  webhookCount : ℕ
  deriving DecidableEq

/-- `DeviceOut.model_validate`. -/
def deviceOut (device : Device) : DeviceOut where
  deviceId := device.deviceId
  deviceName := device.deviceName
  channelType := device.channelType
  baseUrl := device.baseUrl
  status := device.status
  isActive := device.isActive
  lastSeenAt := device.lastSeenAt
  lastWebhookAt := device.lastWebhookAt
  webhookCount := device.webhookCount

/-- `DeviceListOut`. -/
structure DeviceListOut where
  items : List DeviceOut
  total : ℕ

/-- `TunnelOut`, without `created_at` and `updated_at`: the database fills these two in, and no code
of the server reads them. -/
structure TunnelOut where
  enabled : Bool
  proxyType : String
  proxyName : String
  localIp : String
  localPort : ℤ
  remotePort : ℤ
  internalBaseUrl : String
  publicBaseUrl : Option String
  useEncryption : Bool
  useCompression : Bool
  status : String
  lastConfigGeneratedAt : Option Timestamp
  deriving DecidableEq

/-- `TunnelOut.model_validate`. -/
def tunnelOut (tunnel : DeviceTunnel) : TunnelOut where
  enabled := tunnel.enabled
  proxyType := tunnel.proxyType
  proxyName := tunnel.proxyName
  localIp := tunnel.localIp
  localPort := tunnel.localPort
  remotePort := tunnel.remotePort
  internalBaseUrl := tunnel.internalBaseUrl
  publicBaseUrl := tunnel.publicBaseUrl
  useEncryption := tunnel.useEncryption
  useCompression := tunnel.useCompression
  status := tunnel.status
  lastConfigGeneratedAt := tunnel.lastConfigGeneratedAt

/-- The field `data` of a response. -/
inductive ApiData (iso : FrpsService.IsoFormat)
  /-- `{"status": "ok"}` -/
  | healthy
  /-- `{"access_token": token, "token_type": "bearer"}` -/
  | token (accessToken : String)
  | user (user : CurrentUserOut)
  | device (device : DeviceOut)
  | devices (list : DeviceListOut)
  | issued (token : WebhookService.IssuedToken)
  | ingested (result : WebhookService.IngestResult)
  | tunnel (tunnel : TunnelOut)
  | tunnelToken (token : String)
  | frpcConfig (filename content : String)
  | frpsDevices (list : FrpsService.FrpsDeviceListOut iso)
  | dispatched (answer : CommandService.DispatchAnswer)
  /-- the details of an error, or an empty dictionary -/
  | details (details : List (String × ℤ))

structure ApiRequest where
  route : Route
  authorization : Option Credentials
  /-- the header `X-Request-ID`, or the UUID that takes its place -/
  requestId : String
  /-- the time at which the token is checked -/
  now : Timestamp

structure ApiResponse (iso : FrpsService.IsoFormat) where
  statusCode : ℕ
  code : ℕ
  msg : String
  data : ApiData iso
  requestId : String
  /-- the header `Retry-After` -/
  retryAfter : Option ℤ
  /-- the header `X-Request-ID`, which the middleware sets unless an exception passes it -/
  requestIdHeader : Option String

/-- The tables. -/
structure ApiState where
  accounts : Accounts
  server : Server

/-- The tables right after they were created. -/
def ApiState.empty : ApiState := ⟨⟨[], []⟩, ⟨Store.empty, []⟩⟩

/-- The tables with another store. -/
def ApiState.withDb (s : ApiState) (db : Store) : ApiState :=
  { s with server := { s.server with db } }

@[simp] theorem ApiState.withDb_accounts (s : ApiState) (db : Store) :
    (s.withDb db).accounts = s.accounts := rfl

@[simp] theorem ApiState.withDb_db (s : ApiState) (db : Store) : (s.withDb db).server.db = db := rfl

@[simp] theorem ApiState.withDb_rateLimits (s : ApiState) (db : Store) :
    (s.withDb db).server.rateLimits = s.server.rateLimits := rfl

@[simp] theorem ApiState.withDb_self (s : ApiState) : s.withDb s.server.db = s := rfl

/-! ### Dependencies -/

variable (e : AuthEnv) (iso : FrpsService.IsoFormat)

/-- The dependencies of a route, with the user they return. -/
def authorize (a : Accounts) (access : Access) (credentials : Option Credentials)
    (now : Timestamp) : Except PyError (Option User) :=
  match access with
  | .anyone => .ok none
  | .signedIn => (getCurrentUser e a credentials now).map some
  | .permission permission => do
      let user ← getCurrentUser e a credentials now
      let user ← requirePermission a permission user
      pure (some user)

/-! ### Bodies -/

/-- A service call that commits to the store, or raises and leaves it as it was. -/
def committed {α : Type} (s : ApiState) (call : Store → Except PyError (Store × α))
    (data : α → ApiData iso) : Except PyError (ApiData iso) × ApiState :=
  let r := attempt (call s.server.db) s.server.db
  (r.1.map data, s.withDb r.2)

/-- `DeviceService.list`: `ORDER BY id DESC`. -/
def DeviceService.list (db : Store) : List Device :=
  db.devices.insertionSort fun a b => b.id ≤ a.id

/-- The data of `list_devices`. -/
def deviceListOut (db : Store) : DeviceListOut :=
  let items := (DeviceService.list db).map deviceOut
  { items, total := items.length }

/-- `TunnelService.get`. -/
def TunnelService.get (db : Store) (deviceId : String) : Except PyError (Option DeviceTunnel) := do
  let _ ← TunnelService.getDevice db deviceId
  TunnelService.getTunnel db deviceId

/-- The data of `get_tunnel`: a device without a tunnel has an empty dictionary. -/
def tunnelData (tunnel : Option DeviceTunnel) : ApiData iso :=
  match tunnel with
  | some tunnel => .tunnel (tunnelOut tunnel)
  | none => .details []

/-- `user.id`, of the user that the dependencies returned. -/
def userIdOf (user : Option User) : Option ℤ := user.map fun user => (user.id : ℤ)

/-- The bodies of the routes: the data or the exception, and the tables that the route leaves. -/
def Route.body (s : ApiState) (user : Option User) :
    Route → Except PyError (ApiData iso) × ApiState
  | healthz => (.ok .healthy, s)
  | login payload now => ((SmsForwarder.login e s.accounts payload now).map .token, s)
  | me =>
      match user with
      | some user => (.ok (.user (currentUserOut user)), s)
      | none => (.error .attributeError, s)
  | createDevice uuid nonce payload =>
      committed iso s (fun db => DeviceService.create e.env db uuid nonce payload)
        fun device => .device (deviceOut device)
  | listDevices => (.ok (.devices (deviceListOut s.server.db)), s)
  | getDevice deviceId =>
      ((DeviceService.get s.server.db deviceId).map fun device => .device (deviceOut device), s)
  | updateDevice deviceId nonce payload =>
      committed iso s (fun db => DeviceService.update e.env db deviceId nonce payload)
        fun device => .device (deviceOut device)
  | createWebhook deviceId secret =>
      committed iso s (fun db => WebhookService.create e.env db deviceId secret) .issued
  | rotateWebhook deviceId secret =>
      committed iso s (fun db => WebhookService.rotate e.env db deviceId secret) .issued
  | ingestWebhook req =>
      let r := SmsForwarder.ingestWebhook e.env s.server req
      (r.1.map .ingested, { s with server := r.2 })
  | getTunnel deviceId => ((TunnelService.get s.server.db deviceId).map (tunnelData iso), s)
  | enableTunnel deviceId nonce payload =>
      committed iso s (fun db => TunnelService.enable e.env db deviceId nonce payload)
        fun tunnel => .tunnel (tunnelOut tunnel)
  | updateTunnel deviceId payload =>
      committed iso s (fun db => TunnelService.update e.env db deviceId payload)
        fun tunnel => .tunnel (tunnelOut tunnel)
  | disableTunnel deviceId =>
      committed iso s (fun db => TunnelService.disable e.env db deviceId)
        fun tunnel => .tunnel (tunnelOut tunnel)
  | rotateTunnelToken deviceId nonce =>
      committed iso s (fun db => TunnelService.rotateToken e.env db deviceId nonce) .tunnelToken
  | getFrpcConfig deviceId now =>
      committed iso s
        (fun db => TunnelService.renderFrpcConfig e.env db deviceId (userIdOf user) now)
        fun file => .frpcConfig file.1 file.2
  | listFrpsDevices order answer connectedOnly =>
      ((FrpsService.listDevices iso e.env order s.server.db answer connectedOnly).map .frpsDevices,
        s)
  | query route deviceId d =>
      let r := CommandService.dispatch e.env d s.server.db deviceId route.commandType
        route.modelDump (userIdOf user)
      (r.1.map .dispatched, s.withDb r.2)

/-! ### Responses -/

variable {iso} in
/-- The `msg` of a success: only a posting that was stored before has one of its own. -/
def successMsg : ApiData iso → String
  | .ingested result => if result.duplicate then "duplicate ignored" else "success"
  | _ => "success"

variable {iso} in
/-- `success_response`. -/
def successResponse (requestId : String) (data : ApiData iso) : ApiResponse iso where
  statusCode := 200
  code := 200
  msg := successMsg data
  data := data
  requestId := requestId
  retryAfter := none
  requestIdHeader := some requestId

/-- `app_error_handler`. -/
def appErrorHandler (requestId : String) (exc : AppError) : ApiResponse iso where
  statusCode := if 400 ≤ exc.code.toNat then exc.code.toNat else 400
  code := exc.code.toNat
  msg := exc.message
  data := .details exc.details
  requestId := requestId
  retryAfter := retryAfterHeader exc
  requestIdHeader := some requestId

/-- `unhandled_error_handler`. -/
def unhandledErrorHandler (requestId : String) : ApiResponse iso where
  statusCode := 500
  code := 500
  msg := "internal error"
  data := .details []
  requestId := requestId
  retryAfter := none
  requestIdHeader := none

/-- The response to a request whose route returned or raised, before it is rendered: see
`ApiResponse.sent`. -/
def respond (requestId : String) : Except PyError (ApiData iso) → ApiResponse iso
  | .ok data => successResponse requestId data
  | .error (.app exc) => appErrorHandler iso requestId exc
  | .error _ => unhandledErrorHandler iso requestId

variable {iso} in
/-- The values in the data of a response that came from a phone or from the dashboard.  The others
are numbers, and texts that the tables hold or the server made. -/
def ApiData.foreign : ApiData iso → List Json
  | .ingested result => [result.eventId]
  | .frpsDevices list => list.items.flatMap fun item =>
      [.str item.frpsStatus, optionalText item.clientVersion, optionalText item.todayTrafficIn,
        optionalText item.todayTrafficOut]
  | .dispatched answer => [.obj answer.result]
  | _ => []

variable {iso} in
/-- The data can be written as JSON.  Which values can is up to the framework: NaN, an infinity, a
lone surrogate or too deep a nesting cannot. -/
def ApiData.rendered (renders : Json → Bool) (data : ApiData iso) : Bool := data.foreign.all renders

variable {iso} in
/-- The response as it is sent: if its data cannot be written, that is an unexpected exception. -/
def ApiResponse.sent (renders : Json → Bool) (response : ApiResponse iso) : ApiResponse iso :=
  if response.data.rendered renders then response
  else unhandledErrorHandler iso response.requestId

variable {iso} in
/-- An error is written as it is. -/
theorem sent_respond_error (renders : Json → Bool) (requestId : String) (err : PyError) :
    (respond iso requestId (.error err)).sent renders = respond iso requestId (.error err) := by
  cases err <;> rfl

/-! ### The server -/

/-- A request with its response and the tables it leaves. -/
def serve (s : ApiState) (req : ApiRequest) : ApiResponse iso × ApiState :=
  match authorize e s.accounts req.route.access req.authorization req.now with
  | .error err => (respond iso req.requestId (.error err), s)
  | .ok user =>
      let r := req.route.body e iso s user
      (respond iso req.requestId r.1, r.2)

/-- What happens to the tables: requests, and runs of `create_admin`. -/
inductive SystemOp
  | request (req : ApiRequest)
  | createAdmin (salt : ℕ) (username : String) (password : Str)

/-- The route dispatches a command. -/
def Route.queries : Route → Bool
  | query _ _ _ => true
  | _ => false

/-- The operation dispatches a command. -/
def SystemOp.queries : SystemOp → Bool
  | request req => req.route.queries
  | createAdmin _ _ _ => false

/-- What an operation ends in. -/
inductive SystemAnswer
  | response (response : ApiResponse iso)
  | admin (outcome : Except PyError User)

/-- The operation with its answer and the tables it leaves. -/
def SystemOp.exec (s : ApiState) : SystemOp → SystemAnswer iso × ApiState
  | request req => (.response (serve e iso s req).1, (serve e iso s req).2)
  | createAdmin salt username password =>
      let r := attempt (SmsForwarder.createAdmin e.bcrypt e.env.schema salt s.accounts username
        password) s.accounts
      (.admin r.1, { s with accounts := r.2 })

/-! ### Whom a route lets in -/

/-- The user may use the routes with this permission: a granted row has it, or has `admin:*`. -/
def Holds (a : Accounts) (user : User) (permission : String) : Prop :=
  ∃ r ∈ a.permissions, r.userId = user.id ∧ r.granted = true ∧
    (r.permission = permission ∨ r.permission = "admin:*")

/-- The request carries a bearer token that names the user, who is active. -/
structure SignedIn (a : Accounts) (req : ApiRequest) (user : User) : Prop where
  mem : user ∈ a.users
  active : user.isActive = true
  bearer : ∃ c, req.authorization = some c ∧ e.env.runtime.lower c.scheme = py "bearer" ∧
    Names e c.credentials req.now user.id

section

variable {e} {iso} {s : ApiState} {req : ApiRequest} {a : Accounts}

theorem getCurrentUser_iff_signedIn (hu : UniqueKey User.id a.users) {user : User} :
    getCurrentUser e a req.authorization req.now = .ok user ↔ SignedIn e a req user := by
  rw [getCurrentUser_eq_ok hu]
  exact ⟨fun h => ⟨h.1, h.2.1, h.2.2⟩, fun h => ⟨h.mem, h.active, h.bearer⟩⟩

/-- **Whom a route with a permission lets in**: the active user that the token names, if a granted
row of the user has the permission. -/
theorem authorize_eq_ok (hu : UniqueKey User.id a.users) {permission : String}
    (hne : permission ≠ "") {found : Option User} :
    authorize e a (.permission permission) req.authorization req.now = .ok found ↔
      ∃ user, found = some user ∧ SignedIn e a req user ∧ Holds a user permission := by
  unfold authorize
  constructor
  · intro h
    obtain ⟨user, hcurrent, hrest⟩ := bind_eq_ok.1 h
    obtain ⟨user', hcheck, hfound⟩ := bind_eq_ok.1 hrest
    obtain ⟨hsame, -, hperm⟩ := requirePermission_eq_ok.1 hcheck
    refine ⟨user, ?_, (getCurrentUser_iff_signedIn hu).1 hcurrent,
      (hasPermission_eq_true.1 hperm).resolve_left hne⟩
    rw [← hsame]
    exact (Except.ok.inj hfound).symm
  · rintro ⟨user, rfl, hsigned, hholds⟩
    have hcheck : requirePermission a permission user = .ok user :=
      requirePermission_eq_ok.2 ⟨rfl, hsigned.active, hasPermission_eq_true.2 (Or.inr hholds)⟩
    simp only [(getCurrentUser_iff_signedIn hu).2 hsigned, hcheck, bind, Except.bind, pure,
      Except.pure]

/-- Who presents no valid token is refused with an `UnauthorizedError`. -/
theorem code_getCurrentUser (hu : UniqueKey User.id a.users) {credentials : Option Credentials}
    {now : Timestamp} {exc : AppError}
    (h : getCurrentUser e a credentials now = .error (.app exc)) : exc.code = .unauthorized := by
  unfold getCurrentUser at h
  split at h
  · rw [← PyError.app.inj (Except.error.inj h)]
    rfl
  · split at h
    · unfold getUserByToken at h
      rename_i c hscheme
      cases hdecode : decodeUserId e c.credentials now with
      | ok userId =>
          simp only [hdecode, bind, Except.bind] at h
          rw [PyError.app.inj (activeUser_eq_error hu h)]
          rfl
      | error err =>
          simp only [hdecode, bind, Except.bind] at h
          obtain rfl := Except.error.inj h
          unfold decodeUserId at hdecode
          split at hdecode
          · rw [← PyError.app.inj (Except.error.inj hdecode)]
            rfl
          · split at hdecode
            · unfold subjectId at hdecode
              split at hdecode
              · split at hdecode <;> simp at hdecode
              · rw [← PyError.app.inj (Except.error.inj hdecode)]
                rfl
            · rw [← PyError.app.inj (Except.error.inj hdecode)]
              rfl
    · rw [← PyError.app.inj (Except.error.inj h)]
      rfl

/-- A request is refused with an `UnauthorizedError` or a `ForbiddenError`. -/
theorem code_authorize (hu : UniqueKey User.id a.users) {access : Access}
    {credentials : Option Credentials} {now : Timestamp} {exc : AppError}
    (h : authorize e a access credentials now = .error (.app exc)) :
    exc.code = .unauthorized ∨ exc.code = .forbidden := by
  unfold authorize at h
  cases hcurrent : getCurrentUser e a credentials now with
  | error err =>
      cases access with
      | anyone => simp at h
      | signedIn | permission =>
          simp only [hcurrent, bind, Except.bind, Except.map] at h
          obtain rfl := Except.error.inj h
          exact Or.inl (code_getCurrentUser hu hcurrent)
  | ok user =>
      cases access with
      | anyone => simp at h
      | signedIn => simp [hcurrent, Except.map] at h
      | permission permission =>
          simp only [hcurrent, bind, Except.bind] at h
          cases hcheck : requirePermission a permission user with
          | ok user' => simp [hcheck, pure, Except.pure] at h
          | error err =>
              obtain ⟨message, rfl⟩ := requirePermission_eq_error hcheck
              simp only [hcheck] at h
              rw [← PyError.app.inj (Except.error.inj h)]
              exact Or.inr rfl

/-- No permission of a route is the empty one, which would let everybody in. -/
theorem permission_ne_empty {route : Route} {permission : String}
    (h : route.access = .permission permission) : permission ≠ "" := by
  rintro rfl
  cases route with
  | query route deviceId d => cases route <;> simp [Route.access, QueryRoute.permission] at h
  | _ => simp [Route.access] at h

/-- A request is refused, and leaves the tables as they are, or it makes the call of its route. -/
theorem serve_cases (e : AuthEnv) (iso : FrpsService.IsoFormat) (s : ApiState) (req : ApiRequest) :
    (∃ err, authorize e s.accounts req.route.access req.authorization req.now = .error err ∧
        serve e iso s req = (respond iso req.requestId (.error err), s)) ∨
      ∃ user, authorize e s.accounts req.route.access req.authorization req.now = .ok user ∧
        serve e iso s req = (respond iso req.requestId (req.route.body e iso s user).1,
          (req.route.body e iso s user).2) := by
  unfold serve
  cases h : authorize e s.accounts req.route.access req.authorization req.now with
  | error err => exact Or.inl ⟨err, rfl, rfl⟩
  | ok user => exact Or.inr ⟨user, rfl, rfl⟩

/-- No route touches the accounts. -/
theorem accounts_body (route : Route) (user : Option User) :
    (route.body e iso s user).2.accounts = s.accounts := by
  cases route with
  | me => cases user <;> rfl
  | _ => rfl

/-- **No request changes the accounts.** -/
theorem accounts_serve : (serve e iso s req).2.accounts = s.accounts := by
  rcases serve_cases e iso s req with ⟨err, -, hserve⟩ | ⟨user, -, hserve⟩
  · rw [hserve]
  · rw [hserve]
    exact accounts_body req.route user

end

end SmsForwarder
