/-
**Sessions.**

The server keeps nothing about who is logged in.  A session is a token, and what makes it one is in
the past: a login that was answered with it.  This module says what that comes to over whole runs.
If nobody can make tokens without the secret, so that whatever decodes was issued by a login of the
run, then a request to a guarded route is served exactly when it presents, as a bearer token, what
an earlier login was answered with, up to the second the token expires in; in every other case it is
answered with 401.  Nothing that happens after the login takes part: neither a new password nor
another login ends a session.

Main definitions:

* `SmsForwarder.IssuedBy` — the login that a token comes from;
* `SmsForwarder.Session` — the request belongs to a session of the user;
* `SmsForwarder.Unforged` — tokens that decode were issued.

Main results:

* `SmsForwarder.session_run` — **a guarded request is served exactly within a session.**
-/

import SmsForwarder.AccountRuns

set_option relaxedAutoImplicit false
set_option autoImplicit false

namespace SmsForwarder

open Py Tables Runs

section

variable {iso : FrpsService.IsoFormat}

/-- The call was a login with this body at this time, and it was answered with the token. -/
structure IssuedBy (token : String) (payload : LoginRequest) (issuedAt : Timestamp)
    (c : SystemCall iso) : Prop where
  op : ∃ req, c.op = .request req ∧ req.route = .login payload issuedAt
  answer : ∃ response, c.answer = .response response ∧ response.data = .token token

/-- The request belongs to a session of the user: it presents the token of an earlier login, whose
password was verified, in a second in which the token has not expired. -/
def Session (e : AuthEnv) (earlier : List (SystemCall iso)) (a : Accounts) (req : ApiRequest)
    (user : User) : Prop :=
  ∃ c ∈ earlier, ∃ payload issuedAt credentials,
    IssuedBy credentials.credentials payload issuedAt c ∧
    (∃ row, authenticate e.bcrypt c.before.accounts payload.username payload.password = .ok row) ∧
    req.authorization = some credentials ∧ e.env.runtime.lower credentials.scheme = py "bearer" ∧
    wholeSecond req.now ≤ expiry e issuedAt ∧ user ∈ a.users ∧ user.username = payload.username

/-- Nobody makes tokens without the secret: every token that is presented and decodes was issued by
an earlier login of the run. -/
def Unforged (e : AuthEnv) (tr : List (SystemCall iso)) : Prop :=
  ∀ earlier c later, tr = earlier ++ c :: later → ∀ req credentials, c.op = .request req →
    req.authorization = some credentials →
    e.jwt.decode credentials.credentials e.tokens.jwtSecret (wholeSecond req.now) ≠ none →
    ∃ c' ∈ earlier, ∃ payload issuedAt, IssuedBy credentials.credentials payload issuedAt c'

/-! ### Logins -/

variable {e : AuthEnv} {s : ApiState} {token : String} {payload : LoginRequest}
  {issuedAt : Timestamp}

/-- A login that was answered with a token verified the password, and the token is that of the
user. -/
theorem issuedBy_call {op : SystemOp}
    (h : IssuedBy token payload issuedAt (call (SystemOp.exec e iso) s op)) :
    ∃ user, authenticate e.bcrypt s.accounts payload.username payload.password = .ok user ∧
      token = createAccessToken e user issuedAt := by
  obtain ⟨⟨req, hop, hroute⟩, response, hanswer, hdata⟩ := h
  obtain rfl : op = .request req := hop
  obtain rfl : (serve e iso s req).1 = response := SystemAnswer.response.inj hanswer
  have hserve : (serve e iso s req).1 =
      respond iso req.requestId ((login e s.accounts payload issuedAt).map .token) := by
    unfold serve
    rw [hroute]
    rfl
  rw [hserve] at hdata
  unfold login at hdata
  cases hauth : authenticate e.bcrypt s.accounts payload.username payload.password with
  | ok user =>
      rw [hauth] at hdata
      exact ⟨user, rfl, (ApiData.token.inj hdata).symm⟩
  | error err =>
      -- no error is answered with a token
      rw [hauth] at hdata
      cases err <;> exact absurd hdata (by simp [bind, Except.bind, Except.map, respond,
        appErrorHandler, unhandledErrorHandler])

/-- The command keeps the identifier and the name of every user. -/
theorem exists_createAdmin {b : Bcrypt} {schema : Schema} {salt : ℕ} {a : Accounts}
    {username : String} {password : Str} {r : Accounts × User} (hadm : a.Admitted schema)
    (h : createAdmin b schema salt a username password = .ok r) {u : User} (hu : u ∈ a.users) :
    ∃ u' ∈ r.1.users, u'.id = u.id ∧ u'.username = u.username := by
  obtain ⟨found, hash, missing, hlook, -, -, -, -, hr₁⟩ := (createAdmin_eq_ok hadm).1 h
  rw [hr₁]
  cases found with
  | none => exact ⟨u, List.mem_append_left _ hu, rfl, rfl⟩
  | some user =>
      by_cases hid : u.id = user.id
      · obtain rfl : u = user := hadm.2.1.1.eq hu (mem_of_oneOrNone hlook).1 hid
        exact ⟨_, mem_updateKey.2 (Or.inl ⟨u, hu, rfl, rfl⟩), rfl, rfl⟩
      · exact ⟨u, mem_updateKey.2 (Or.inr ⟨hu, hid⟩), rfl, rfl⟩

/-- Every operation keeps the identifier and the name of every user. -/
theorem exists_exec (hadm : s.Admitted e.env.schema) (op : SystemOp) {u : User}
    (hu : u ∈ s.accounts.users) :
    ∃ u' ∈ (op.exec e iso s).2.accounts.users, u'.id = u.id ∧ u'.username = u.username := by
  cases op with
  | request req =>
      have haccounts : ((SystemOp.request req).exec e iso s).2.accounts = s.accounts :=
        accounts_serve
      rw [haccounts]
      exact ⟨u, hu, rfl, rfl⟩
  | createAdmin salt username password =>
      refine attempt_keeps
        (P := fun a : Accounts => ∃ u' ∈ a.users, u'.id = u.id ∧ u'.username = u.username)
        ⟨u, hu, rfl, rfl⟩ fun a' user hok => ?_
      exact exists_createAdmin hadm.accounts hok hu

/-- The token of a user says no more than the identifier and the name. -/
theorem createAccessToken_congr {user user' : User} (hid : user'.id = user.id)
    (hname : user'.username = user.username) (now : Timestamp) :
    createAccessToken e user' now = createAccessToken e user now := by
  unfold createAccessToken
  rw [hid, hname]

/-- What holds after every run of what its logins were answered with: the token names a user that
is still there. -/
structure SessionsInvariant (e : AuthEnv) (s : ApiState) (tr : List (SystemCall iso)) : Prop where
  accounts : AccountsInvariant e s tr
  issued : ∀ c ∈ tr, ∀ token payload issuedAt, IssuedBy token payload issuedAt c →
    (∃ row, authenticate e.bcrypt c.before.accounts payload.username payload.password = .ok row) ∧
      ∃ user ∈ s.accounts.users, user.username = payload.username ∧
        token = createAccessToken e user issuedAt

theorem SessionsInvariant.step {tr : List (SystemCall iso)} (op : SystemOp)
    (h : SessionsInvariant e s tr) :
    SessionsInvariant e (op.exec e iso s).2 (tr ++ [call (SystemOp.exec e iso) s op]) where
  accounts := h.accounts.step op
  issued := by
    intro c hc token payload issuedAt hissued
    have hadm := h.accounts.admitted
    obtain ⟨hverified, user, hmem, hname, htoken⟩ :
        (∃ row, authenticate e.bcrypt c.before.accounts payload.username payload.password =
            .ok row) ∧
          ∃ user ∈ s.accounts.users, user.username = payload.username ∧
            token = createAccessToken e user issuedAt := by
      rcases List.mem_append.1 hc with hold | hnew
      · exact h.issued c hold token payload issuedAt hissued
      · obtain rfl := List.mem_singleton.1 hnew
        obtain ⟨user, hauth, htoken⟩ := issuedBy_call hissued
        obtain ⟨hmem, hname, -⟩ := (authenticate_eq_ok hadm.accounts.2.1.2).1 hauth
        exact ⟨⟨user, hauth⟩, user, hmem, hname, htoken⟩
    -- the user is still there after the operation, perhaps with another password
    obtain ⟨user', hmem', hid, hname'⟩ := exists_exec hadm op hmem
    exact ⟨hverified, user', hmem', hname'.trans hname,
      htoken.trans (createAccessToken_congr hid hname' issuedAt).symm⟩

theorem sessionsInvariant_run (e : AuthEnv) (iso : FrpsService.IsoFormat) (ops : List SystemOp) :
    SessionsInvariant e (final (SystemOp.exec e iso) ApiState.empty ops)
      (trace (SystemOp.exec e iso) ApiState.empty ops) := by
  refine run_induction (SystemOp.exec e iso) ?_ (fun _ _ op h => h.step op) ops
  exact ⟨accountsInvariant_empty, by simp⟩

/-! ### Requests -/

/-- Whom a request presents, if the tokens it can present were issued: the user of a session, or
nobody, and then it is refused with an `UnauthorizedError`. -/
theorem getCurrentUser_cases {tr : List (SystemCall iso)} {req : ApiRequest}
    (h : SessionsInvariant e s tr) (hlen : tr.length < 2 ^ 63)
    (hforge : ∀ credentials, req.authorization = some credentials →
      e.jwt.decode credentials.credentials e.tokens.jwtSecret (wholeSecond req.now) ≠ none →
      ∃ c ∈ tr, ∃ payload issuedAt, IssuedBy credentials.credentials payload issuedAt c) :
    (∃ user, Session e tr s.accounts req user ∧
        getCurrentUser e s.accounts req.authorization req.now = .ok user) ∨
      (¬ ∃ user, Session e tr s.accounts req user) ∧
        ∃ message, getCurrentUser e s.accounts req.authorization req.now =
          .error (.app (UnauthorizedError message)) := by
  have hu : UniqueKey User.id s.accounts.users := h.accounts.admitted.accounts.2.1.1
  have hbound : ∀ user ∈ s.accounts.users, user.id < 2 ^ 63 := fun user hmem =>
    (h.accounts.provisioned.ids user hmem).trans_lt hlen
  unfold getCurrentUser
  cases hcred : req.authorization with
  | none =>
      refine Or.inr ⟨?_, _, rfl⟩
      rintro ⟨user, c, -, payload, issuedAt, credentials, -, -, hauth, -⟩
      rw [hcred] at hauth
      simp at hauth
  | some credentials =>
      by_cases hscheme : e.env.runtime.lower credentials.scheme = py "bearer"
      · simp only [hscheme, if_true]
        by_cases hdecode : e.jwt.decode credentials.credentials e.tokens.jwtSecret
            (wholeSecond req.now) = none
        · refine Or.inr ⟨?_, "invalid token", ?_⟩
          · rintro ⟨user, c, hc, payload, issuedAt, credentials', hissued, -, hauth, -, hlive, -⟩
            obtain rfl : credentials = credentials' :=
              Option.some.inj (hcred.symm.trans hauth)
            obtain ⟨-, user₀, -, -, htoken⟩ := h.issued c hc _ _ _ hissued
            rw [htoken] at hdecode
            unfold createAccessToken at hdecode
            rw [e.jwt.decode_encode, if_pos hlive] at hdecode
            simp at hdecode
          · unfold getUserByToken decodeUserId
            rw [hdecode]
            rfl
        · obtain ⟨c, hc, payload, issuedAt, hissued⟩ := hforge credentials hcred hdecode
          obtain ⟨hverified, user, hmem, hname, htoken⟩ := h.issued c hc _ _ _ hissued
          have hlive : wholeSecond req.now ≤ expiry e issuedAt := by
            by_contra hexpired
            rw [htoken] at hdecode
            unfold createAccessToken at hdecode
            rw [e.jwt.decode_encode, if_neg hexpired] at hdecode
            exact hdecode rfl
          refine Or.inl ⟨user, ⟨c, hc, payload, issuedAt, credentials, hissued, hverified, hcred,
            hscheme, hlive, hmem, hname⟩, ?_⟩
          have hactive := h.accounts.provisioned.active user hmem
          have hok := (getCurrentUser_issued hu (hbound user hmem) hscheme).2
            ⟨hlive, hmem, rfl, hactive⟩
          unfold getCurrentUser at hok
          rw [← htoken] at hok
          simpa [hscheme] using hok
      · simp only [hscheme, if_false]
        refine Or.inr ⟨?_, _, rfl⟩
        rintro ⟨user, c, -, payload, issuedAt, credentials', -, -, hauth, hscheme', -⟩
        obtain rfl : credentials = credentials' := Option.some.inj (hcred.symm.trans hauth)
        exact hscheme hscheme'

/-- The dependencies of a guarded route, on provisioned accounts. -/
theorem authorize_guarded {n : ℕ} {req : ApiRequest} (hadm : s.accounts.Admitted e.env.schema)
    (hprov : Provisioned n s.accounts) (hguard : req.route.access ≠ .anyone) :
    authorize e s.accounts req.route.access req.authorization req.now =
      (getCurrentUser e s.accounts req.authorization req.now).map some := by
  cases haccess : req.route.access with
  | anyone => exact absurd haccess hguard
  | signedIn => rfl
  | permission permission => exact hprov.authorize hadm permission req.authorization req.now

end

/-- **A guarded request is served exactly within a session.**  Take a run from empty tables, of
requests and of runs of `create_admin`, in which nobody makes tokens without the secret, and a
request of it to a route that asks for a user.  If the request presents, as a bearer token, what an
earlier login of the run was answered with, in a second in which that token has not expired, the
route does its work for the user who logged in; otherwise the answer is 401, and the tables stay as
they are. -/
theorem session_run (e : AuthEnv) (iso : FrpsService.IsoFormat) (ops : List SystemOp)
    (hlen : ops.length < 2 ^ 63)
    (hforge : Unforged e (trace (SystemOp.exec e iso) ApiState.empty ops))
    (earlier later : List (SystemCall iso)) (c : SystemCall iso) (req : ApiRequest)
    (hsplit : trace (SystemOp.exec e iso) ApiState.empty ops = earlier ++ c :: later)
    (hop : c.op = .request req) (hguard : req.route.access ≠ .anyone) :
    (∃ user, Session e earlier c.before.accounts req user ∧
        c.answer = .response
          (respond iso req.requestId (req.route.body e iso c.before (some user)).1) ∧
        c.after = (req.route.body e iso c.before (some user)).2) ∨
      (¬ ∃ user, Session e earlier c.before.accounts req user) ∧
        (∃ response, c.answer = .response response ∧ response.statusCode = 401) ∧
        c.after = c.before := by
  obtain ⟨bs, cs, rfl, hearlier, hc⟩ := trace_split (SystemOp.exec e iso) hsplit
  have hinv := sessionsInvariant_run e iso bs
  rw [← hearlier] at hinv
  have hshort : earlier.length < 2 ^ 63 := by
    have hops : (earlier.map Call.op).length = bs.length := by rw [hearlier, map_op_trace]
    rw [List.length_map] at hops
    rw [List.length_append] at hlen
    omega
  have hforge' := fun credentials => hforge earlier c later hsplit req credentials hop
  have hguarded := authorize_guarded hinv.accounts.admitted.accounts hinv.accounts.provisioned
    hguard
  rw [hop] at hc
  rw [hc]
  simp only [call, SystemOp.exec]
  rcases getCurrentUser_cases hinv hshort hforge' with
    ⟨user, hsession, hok⟩ | ⟨hnone, message, herr⟩
  · refine Or.inl ⟨user, hsession, ?_⟩
    rw [hok] at hguarded
    unfold serve
    rw [hguarded]
    exact ⟨rfl, rfl⟩
  · refine Or.inr ⟨hnone, ?_⟩
    rw [herr] at hguarded
    unfold serve
    rw [hguarded]
    exact ⟨⟨_, rfl, rfl⟩, rfl⟩

/-! ### A session -/

def adminLogin : LoginRequest where
  username := "admin"
  password := py "secret123"
  username_length := by decide
  password_length := by decide

def adminUser : User :=
  { id := 1, username := "admin", passwordHash := "", displayName := none, isActive := true }

def loginRequest : ApiRequest :=
  { route := .login adminLogin 0, authorization := none, requestId := "1", now := 0 }

/-- A request in the last second of the token of the login. -/
def sessionRequest : ApiRequest where
  route := .listDevices
  authorization := some ⟨py "Bearer", createAccessToken (plainAuthEnv ormSchema) adminUser 0⟩
  requestId := "2"
  now := seconds 3600

/-- The administrator is created, and logs in. -/
def sessionStart : List SystemOp :=
  [.createAdmin 0 "admin" (py "secret123"), .request loginRequest]

/-- The server, with tokens that can be read. -/
abbrev plainExec : ApiState → SystemOp → SystemAnswer FrpsService.noIso × ApiState :=
  SystemOp.exec (plainAuthEnv ormSchema) FrpsService.noIso

/-- The second call is the login that the token of the request comes from. -/
theorem issuedBy_sessionStart :
    ∃ c ∈ trace plainExec ApiState.empty sessionStart,
      IssuedBy (createAccessToken (plainAuthEnv ormSchema) adminUser 0) adminLogin 0 c := by
  refine ⟨_, List.mem_cons_of_mem _ List.mem_cons_self, ⟨loginRequest, rfl, rfl⟩, _, rfl, rfl⟩

theorem unforged_session :
    Unforged (plainAuthEnv ormSchema)
      (trace plainExec ApiState.empty (sessionStart ++ [.request sessionRequest])) := by
  intro earlier c later hsplit req credentials hop hauth _
  obtain ⟨bs, cs, hops, rfl, -⟩ := trace_split _ hsplit
  rw [hop] at hops
  -- the last request is the only one that presents a token
  rcases bs with _ | ⟨_, _ | ⟨_, _ | ⟨_, bs⟩⟩⟩
  · simp [sessionStart] at hops
  · simp only [sessionStart, List.cons_append, List.nil_append, List.cons.injEq,
      SystemOp.request.injEq] at hops
    obtain ⟨-, rfl, -⟩ := hops
    simp [loginRequest] at hauth
  · simp only [sessionStart, List.cons_append, List.nil_append, List.cons.injEq,
      SystemOp.request.injEq] at hops
    obtain ⟨rfl, rfl, rfl, -⟩ := hops
    obtain rfl := Option.some.inj hauth
    obtain ⟨c', hc', hissued⟩ := issuedBy_sessionStart
    exact ⟨c', hc', adminLogin, 0, hissued⟩
  · simp [sessionStart] at hops

theorem session_run_admin :
    (∃ user, Session (plainAuthEnv ormSchema) (trace plainExec ApiState.empty sessionStart)
          (final plainExec ApiState.empty sessionStart).accounts sessionRequest user ∧
        (call plainExec (final plainExec ApiState.empty sessionStart)
            (.request sessionRequest)).answer =
          .response (respond FrpsService.noIso "2"
            (Route.body (plainAuthEnv ormSchema) FrpsService.noIso
              (final plainExec ApiState.empty sessionStart) (some user) .listDevices).1) ∧
        (call plainExec (final plainExec ApiState.empty sessionStart)
            (.request sessionRequest)).after =
          (Route.body (plainAuthEnv ormSchema) FrpsService.noIso
            (final plainExec ApiState.empty sessionStart) (some user) .listDevices).2) ∨
      (¬ ∃ user, Session (plainAuthEnv ormSchema) (trace plainExec ApiState.empty sessionStart)
          (final plainExec ApiState.empty sessionStart).accounts sessionRequest user) ∧
        (∃ response, (call plainExec (final plainExec ApiState.empty sessionStart)
            (.request sessionRequest)).answer = .response response ∧ response.statusCode = 401) ∧
        (call plainExec (final plainExec ApiState.empty sessionStart)
            (.request sessionRequest)).after = final plainExec ApiState.empty sessionStart :=
  session_run (plainAuthEnv ormSchema) FrpsService.noIso (sessionStart ++ [.request sessionRequest])
    (by decide) unforged_session (trace plainExec ApiState.empty sessionStart) [] _ sessionRequest
    (trace_concat plainExec ApiState.empty sessionStart (.request sessionRequest)) rfl
    (by simp [sessionRequest, Route.access])

/-! ### A device and a posting -/

def phoneCreate : DeviceCreate where
  baseUrl := some ⟨"http://10.0.0.7:5000", by decide⟩
  signSecret := some ⟨"secret", by decide⟩

/-- The administrator creates a device. -/
def createRequest : ApiRequest :=
  { sessionRequest with route := .createDevice Uuid.nil 0 phoneCreate }

def createdStart : List SystemOp := sessionStart ++ [.request createRequest]

def messageBody : Json :=
  .obj [(py "event_type", .str (py "sms")), (py "event_id", .str (py "a"))]

/-- The phone posts a message with the token that the administrator was given for it. -/
def messagePosting : IngestRequest :=
  { bareRequest (WebhookService.newToken "secret") with body := some messageBody }

def webhookRequest : ApiRequest :=
  { sessionRequest with route := .createWebhook (generateDeviceId Uuid.nil) "secret" }

def postingRequest : ApiRequest :=
  { route := .ingestWebhook messagePosting, authorization := none, requestId := "3", now := 0 }

def postedStart : List SystemOp :=
  createdStart ++ [.request webhookRequest, .request postingRequest]

/-- The tables of the devices and the counters after these requests. -/
def messageServer : Server :=
  (ingestWebhook (plainEnv ormSchema)
    ⟨(Store.empty.insertDevice
        (DeviceService.newDevice (plainEnv ormSchema) Uuid.nil 0 phoneCreate)).insertWebhook
          (WebhookService.newWebhook (plainEnv ormSchema) (generateDeviceId Uuid.nil) "secret"), []⟩
    messagePosting).2

/-- The administrator is let in. -/
theorem authorize_session (permission : String) :
    ∃ row, authorize (plainAuthEnv ormSchema) (final plainExec ApiState.empty sessionStart).accounts
      (.permission permission) sessionRequest.authorization sessionRequest.now = .ok (some row) := by
  obtain ⟨row, hmem, hid, hactive⟩ :
      ∃ row ∈ (final plainExec ApiState.empty sessionStart).accounts.users,
        row.id = adminUser.id ∧ row.isActive = true := ⟨_, List.mem_cons_self, rfl, rfl⟩
  have hinv := accountsInvariant_run (plainAuthEnv ormSchema) FrpsService.noIso sessionStart
  have hcurrent : getCurrentUser (plainAuthEnv ormSchema)
      (final plainExec ApiState.empty sessionStart).accounts sessionRequest.authorization
      sessionRequest.now = .ok row :=
    (getCurrentUser_issued hinv.admitted.accounts.2.1.1 (by decide) rfl).2
      ⟨by decide, hmem, hid, hactive⟩
  refine ⟨row, ?_⟩
  rw [hinv.provisioned.authorize hinv.admitted.accounts]
  show (getCurrentUser _ _ sessionRequest.authorization sessionRequest.now).map some = _
  rw [hcurrent]
  rfl

/-- The administrator is let in, whatever happened to the devices. -/
theorem exec_session {s : ApiState}
    (haccounts : s.accounts = (final plainExec ApiState.empty sessionStart).accounts) (route : Route)
    {permission : String} (haccess : route.access = .permission permission) :
    ∃ row, plainExec s (.request { sessionRequest with route }) =
      (.response (respond FrpsService.noIso "2"
          (route.body (plainAuthEnv ormSchema) FrpsService.noIso s (some row)).1),
        (route.body (plainAuthEnv ormSchema) FrpsService.noIso s (some row)).2) := by
  obtain ⟨row, hin⟩ := authorize_session permission
  rw [← haccounts, ← haccess] at hin
  refine ⟨row, ?_⟩
  simp only [plainExec, SystemOp.exec, serve, hin]
  rfl

theorem final_createdStart :
    final plainExec ApiState.empty createdStart =
      (final plainExec ApiState.empty sessionStart).withDb (Store.empty.insertDevice
        (DeviceService.newDevice (plainEnv ormSchema) Uuid.nil 0 phoneCreate)) := by
  obtain ⟨row, hexec⟩ := exec_session rfl createRequest.route rfl
  show final plainExec ApiState.empty (sessionStart ++ [.request createRequest]) = _
  rw [final_concat]
  show (plainExec (final plainExec ApiState.empty sessionStart)
    (.request { sessionRequest with route := createRequest.route })).2 = _
  rw [hexec]
  rfl

theorem final_postedStart :
    final plainExec ApiState.empty postedStart =
      { final plainExec ApiState.empty sessionStart with server := messageServer } := by
  obtain ⟨row, hexec⟩ :=
    @exec_session (final plainExec ApiState.empty createdStart) (by rw [final_createdStart]; rfl)
      webhookRequest.route _ rfl
  show final plainExec ApiState.empty
    (createdStart ++ [.request webhookRequest] ++ [.request postingRequest]) = _
  rw [final_concat, final_concat]
  show (plainExec (plainExec (final plainExec ApiState.empty createdStart)
    (.request { sessionRequest with route := webhookRequest.route })).2
      (.request postingRequest)).2 = _
  rw [hexec, final_createdStart]
  rfl

end SmsForwarder
