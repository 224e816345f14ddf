/-
**The console and the server.**

The operators work in the tabs of a browser.  A tab stores the token of its login, sends it along
with every request, and throws it away when a request is answered with 401.  Requests and answers
travel: they are served and received in any order, and some never are.  This module runs any number
of tabs against the API, together with the phones and the command, and nobody else.  Then nobody has
to be trusted not to make tokens: a tab is served as the user who logged in there, and is refused
for one of two reasons only.

Main definitions:

* `SmsForwarder.WebConsole.apiResult`, `SmsForwarder.WebConsole.storedAfter` — the client of the
  API;
* `SmsForwarder.WebConsole.Console`, `SmsForwarder.WebConsole.ConsoleOp.exec` — the tabs, what is
  under way, and the server;
* `SmsForwarder.WebConsole.ConsoleInvariant` — where the tokens come from.

Main results:

* `SmsForwarder.WebConsole.console_sessions` — **a tab is served as the user who logged in there**;
* `SmsForwarder.WebConsole.console_answers` — **a request is answered once, with what its route
  returned, if that can be written.**
-/

import Mathlib.Logic.Function.Basic
import SmsForwarder.ErrorContract
import SmsForwarder.SessionRuns

set_option relaxedAutoImplicit false
set_option autoImplicit false

namespace SmsForwarder.WebConsole

open Py Tables Runs

variable {iso : FrpsService.IsoFormat}

/-! ### The client -/

/-- `ApiError`. -/
structure ApiError (iso : FrpsService.IsoFormat) where
  message : String
  code : ℕ
  requestId : String
  details : ApiData iso
  retryAfter : Option ℤ

/-- The header that `apiRequest` sends for the stored token. -/
def authorizationHeader (stored : Option String) : Option Credentials :=
  match stored with
  | none | some "" => none
  | some token => some ⟨py "Bearer", token⟩

/-- What `apiRequest` returns or throws, from the response. -/
def apiResult (response : ApiResponse iso) : Except (ApiError iso) (ApiData iso) :=
  if ¬ (200 ≤ response.statusCode ∧ response.statusCode ≤ 299) ∨ 400 ≤ response.code then
    .error
      { message := if response.msg = "" then "request failed" else response.msg
        code := response.code
        requestId := response.requestId
        details := response.data
        retryAfter := response.retryAfter }
  else .ok response.data

/-- What is stored once a request has its response: `apiRequest` clears the token when the code is
401, and the login page stores the token of a login. -/
def storedAfter (route : Route) (response : ApiResponse iso) (stored : Option String) :
    Option String :=
  match apiResult response with
  | .error err => if err.code = 401 then none else stored
  | .ok data =>
      match route, data with
      | .login _ _, .token accessToken => some accessToken
      | _, _ => stored

/-! ### The system -/

/-- How far a request of a tab has come. -/
inductive Stage (iso : FrpsService.IsoFormat)
  | sent
  | answered (response : ApiResponse iso)
  | settled

/-- A request of a tab, with the header it was sent with. -/
structure Exchange (ι : Type) (iso : FrpsService.IsoFormat) where
  tab : ι
  route : Route
  authorization : Option Credentials
  requestId : String
  stage : Stage iso

/-- The request as it is served at a time. -/
def Exchange.request {ι : Type} (x : Exchange ι iso) (now : Timestamp) : ApiRequest where
  route := x.route
  authorization := x.authorization
  requestId := x.requestId
  now := now

/-- The tables, what the tabs have stored, and all requests that the tabs have sent. -/
structure Console (ι : Type) (iso : FrpsService.IsoFormat) where
  server : ApiState
  stored : ι → Option String
  exchanges : List (Exchange ι iso)

def Console.empty {ι : Type} : Console ι iso := ⟨ApiState.empty, fun _ => none, []⟩

/-- What can happen; a request or an answer that is lost is one that nothing happens to any more. -/
inductive ConsoleOp (ι : Type)
  | send (tab : ι) (route : Route) (requestId : String)
  | serve (k : ℕ) (now : Timestamp)
  | receive (k : ℕ)
  /-- `clearStoredToken`, when the user logs out or the guard of the pages has an error -/
  | clear (tab : ι)
  | post (posting : IngestRequest) (requestId : String) (now : Timestamp)
  | createAdmin (salt : ℕ) (username : String) (password : Str)

inductive ConsoleAnswer (iso : FrpsService.IsoFormat)
  | nothing
  | system (answer : SystemAnswer iso)
  | settled (result : Except (ApiError iso) (ApiData iso))

section

variable {ι : Type}

/-- The request with this number, if it was not served yet. -/
def Console.sentAt (s : Console ι iso) (k : ℕ) : Option (Exchange ι iso) :=
  match s.exchanges[k]? with
  | some x =>
      match x.stage with
      | .sent => some x
      | _ => none
  | none => none

/-- The request with this number and its response, if it has one that was not received yet. -/
def Console.answeredAt (s : Console ι iso) (k : ℕ) : Option (Exchange ι iso × ApiResponse iso) :=
  match s.exchanges[k]? with
  | some x =>
      match x.stage with
      | .answered response => some (x, response)
      | _ => none
  | none => none

/-- What an operation is for the server. -/
def ConsoleOp.systemOp (s : Console ι iso) : ConsoleOp ι → Option SystemOp
  | serve k now => (s.sentAt k).map fun x => .request (x.request now)
  | post posting requestId now =>
      some (.request { route := .ingestWebhook posting, authorization := none, requestId, now })
  | createAdmin salt username password => some (.createAdmin salt username password)
  | send _ _ _ | receive _ | clear _ => none

/-- An operation with what comes of it.  What travels back to a tab is the response as it is
sent. -/
def ConsoleOp.exec [DecidableEq ι] (e : AuthEnv) (iso : FrpsService.IsoFormat)
    (renders : Json → Bool) (s : Console ι iso) (op : ConsoleOp ι) :
    ConsoleAnswer iso × Console ι iso :=
  match op with
  | send tab route requestId =>
      (.nothing,
        { s with
          exchanges := s.exchanges ++
            [⟨tab, route, authorizationHeader (s.stored tab), requestId, .sent⟩] })
  | serve k now =>
      match s.sentAt k with
      | some x =>
          let r := SmsForwarder.serve e iso s.server (x.request now)
          (.system (.response r.1),
            { s with
              server := r.2
              exchanges := s.exchanges.set k { x with stage := .answered (r.1.sent renders) } })
      | none => (.nothing, s)
  | receive k =>
      match s.answeredAt k with
      | some (x, response) =>
          (.settled (apiResult response),
            { s with
              stored := Function.update s.stored x.tab
                (storedAfter x.route response (s.stored x.tab))
              exchanges := s.exchanges.set k { x with stage := .settled } })
      | none => (.nothing, s)
  | clear tab => (.nothing, { s with stored := Function.update s.stored tab none })
  | post posting requestId now =>
      let r := SystemOp.exec e iso s.server
        (.request { route := .ingestWebhook posting, authorization := none, requestId, now })
      (.system r.1, { s with server := r.2 })
  | createAdmin salt username password =>
      let r := SystemOp.exec e iso s.server (.createAdmin salt username password)
      (.system r.1, { s with server := r.2 })

abbrev ConsoleCall (ι : Type) (iso : FrpsService.IsoFormat) :=
  Call (Console ι iso) (ConsoleOp ι) (ConsoleAnswer iso)

/-- The call of the server that an operation makes. -/
def serverCall (e : AuthEnv) (c : ConsoleCall ι iso) : Option (SystemCall iso) :=
  (c.op.systemOp c.before).map (call (SystemOp.exec e iso) c.before.server)

variable {s : Console ι iso} {k : ℕ} {x : Exchange ι iso} {response : ApiResponse iso}

theorem sentAt_eq_some :
    s.sentAt k = some x ↔ s.exchanges[k]? = some x ∧ x.stage = .sent := by
  unfold Console.sentAt
  cases hx : s.exchanges[k]? with
  | none => simp
  | some found =>
      simp only [Option.some.injEq]
      cases hstage : found.stage with
      | sent =>
          simp only [Option.some.injEq]
          exact ⟨fun h => ⟨h, h ▸ hstage⟩, And.left⟩
      | answered response | settled =>
          simp only [reduceCtorEq, false_iff, not_and]
          rintro rfl
          simp [hstage]

theorem answeredAt_eq_some :
    s.answeredAt k = some (x, response) ↔
      s.exchanges[k]? = some x ∧ x.stage = .answered response := by
  unfold Console.answeredAt
  cases hx : s.exchanges[k]? with
  | none => simp
  | some found =>
      simp only [Option.some.injEq]
      cases hstage : found.stage with
      | answered given =>
          simp only [Option.some.injEq, Prod.mk.injEq]
          constructor
          · rintro ⟨rfl, rfl⟩
            exact ⟨rfl, hstage⟩
          · rintro ⟨rfl, hgiven⟩
            exact ⟨rfl, Stage.answered.inj (hstage.symm.trans hgiven)⟩
      | sent | settled =>
          simp only [reduceCtorEq, false_iff, not_and]
          rintro rfl
          simp [hstage]

variable [DecidableEq ι]

/-- All that an operation can do. -/
inductive Does (e : AuthEnv) (renders : Json → Bool) (s : Console ι iso) :
    ConsoleOp ι → Option SystemOp → ConsoleAnswer iso → Console ι iso → Prop
  | idle (op : ConsoleOp ι) : Does e renders s op none .nothing s
  | send (tab : ι) (route : Route) (requestId : String) :
      Does e renders s (.send tab route requestId) none .nothing
        { s with
          exchanges := s.exchanges ++
            [⟨tab, route, authorizationHeader (s.stored tab), requestId, .sent⟩] }
  | serve (k : ℕ) (now : Timestamp) (x : Exchange ι iso) :
      s.exchanges[k]? = some x → x.stage = .sent →
      Does e renders s (.serve k now) (some (.request (x.request now)))
        (.system (.response (SmsForwarder.serve e iso s.server (x.request now)).1))
        { s with
          server := (SmsForwarder.serve e iso s.server (x.request now)).2
          exchanges := s.exchanges.set k
            { x with
              stage :=
                .answered ((SmsForwarder.serve e iso s.server (x.request now)).1.sent renders) } }
  | receive (k : ℕ) (x : Exchange ι iso) (response : ApiResponse iso) :
      s.exchanges[k]? = some x → x.stage = .answered response →
      Does e renders s (.receive k) none (.settled (apiResult response))
        { s with
          stored := Function.update s.stored x.tab (storedAfter x.route response (s.stored x.tab))
          exchanges := s.exchanges.set k { x with stage := .settled } }
  | clear (tab : ι) :
      Does e renders s (.clear tab) none .nothing
        { s with stored := Function.update s.stored tab none }
  | post (posting : IngestRequest) (requestId : String) (now : Timestamp) (req : ApiRequest) :
      Does e renders s (.post posting requestId now) (some (.request req))
        (.system (SystemOp.exec e iso s.server (.request req)).1)
        { s with server := (SystemOp.exec e iso s.server (.request req)).2 }
  | createAdmin (salt : ℕ) (username : String) (password : Str) :
      Does e renders s (.createAdmin salt username password)
        (some (.createAdmin salt username password))
        (.system (SystemOp.exec e iso s.server (.createAdmin salt username password)).1)
        { s with
          server := (SystemOp.exec e iso s.server (.createAdmin salt username password)).2 }

theorem does_exec (e : AuthEnv) (renders : Json → Bool) (s : Console ι iso) (op : ConsoleOp ι) :
    Does e renders s op (op.systemOp s) (op.exec e iso renders s).1
      (op.exec e iso renders s).2 := by
  cases op with
  | send tab route requestId => exact .send tab route requestId
  | serve k now =>
      simp only [ConsoleOp.exec, ConsoleOp.systemOp]
      cases hx : s.sentAt k with
      | none => exact .idle _
      | some x =>
          obtain ⟨hget, hstage⟩ := sentAt_eq_some.1 hx
          exact .serve k now x hget hstage
  | receive k =>
      simp only [ConsoleOp.exec, ConsoleOp.systemOp]
      cases hx : s.answeredAt k with
      | none => exact .idle _
      | some found =>
          obtain ⟨hget, hstage⟩ := answeredAt_eq_some.1 hx
          exact .receive k found.1 found.2 hget hstage
  | clear tab => exact .clear tab
  | post posting requestId now => exact .post posting requestId now _
  | createAdmin salt username password => exact .createAdmin salt username password

section

variable {e : AuthEnv} {renders : Json → Bool} {op : ConsoleOp ι} {sop : Option SystemOp}
  {answer : ConsoleAnswer iso} {s' : Console ι iso}

/-- The tables change as the server changes them. -/
theorem Does.server (h : Does e renders s op sop answer s') :
    s'.server = (sop.map fun sop => (sop.exec e iso s.server).2).getD s.server := by
  cases h <;> rfl

/-- A request that is settled stays as it is. -/
theorem Does.settled (h : Does e renders s op sop answer s') (hx : s.exchanges[k]? = some x)
    (hstage : x.stage = .settled) : s'.exchanges[k]? = some x := by
  cases h with
  | send tab route requestId =>
      have hlt : k < s.exchanges.length := (List.getElem?_eq_some_iff.1 hx).1
      exact (List.getElem?_append_left hlt).trans hx
  | serve k' now y hy hsent =>
      have hne : k' ≠ k := by
        rintro rfl
        obtain rfl : y = x := Option.some.inj (hy.symm.trans hx)
        simp [hstage] at hsent
      exact (List.getElem?_set_ne hne).trans hx
  | receive k' y response hy hanswered =>
      have hne : k' ≠ k := by
        rintro rfl
        obtain rfl : y = x := Option.some.inj (hy.symm.trans hx)
        simp [hstage] at hanswered
      exact (List.getElem?_set_ne hne).trans hx
  | _ => exact hx

/-- A request that has a response had it before, or is served just now. -/
theorem Does.answered (h : Does e renders s op sop answer s') (hx : s'.exchanges[k]? = some x)
    (hstage : x.stage = .answered response) :
    s.exchanges[k]? = some x ∨
      s.exchanges[k]? = some { x with stage := .sent } ∧
        ∃ now, op = .serve k now ∧
          answer =
            .system (.response (SmsForwarder.serve e iso s.server (x.request now)).1) ∧
          response = (SmsForwarder.serve e iso s.server (x.request now)).1.sent renders := by
  cases h with
  | send tab route requestId =>
      by_cases hlt : k < s.exchanges.length
      · exact Or.inl ((List.getElem?_append_left hlt).symm.trans hx)
      · have hnew := (List.getElem?_append_right (not_lt.1 hlt)).symm.trans hx
        obtain rfl := List.mem_singleton.1 (List.mem_of_getElem? hnew)
        simp at hstage
  | serve k' now y hy hsent =>
      by_cases hk : k' = k
      · subst hk
        have hlt : k' < s.exchanges.length := (List.getElem?_eq_some_iff.1 hy).1
        obtain rfl := Option.some.inj ((List.getElem?_set_self hlt).symm.trans hx)
        obtain rfl := Stage.answered.inj hstage
        refine Or.inr ⟨?_, now, rfl, rfl, rfl⟩
        rw [hy]
        obtain ⟨tab, route, authorization, requestId, stage⟩ := y
        obtain rfl : stage = .sent := hsent
        rfl
      · exact Or.inl ((List.getElem?_set_ne hk).symm.trans hx)
  | receive k' y given hy hanswered =>
      by_cases hk : k' = k
      · subst hk
        have hlt : k' < s.exchanges.length := (List.getElem?_eq_some_iff.1 hy).1
        obtain rfl := Option.some.inj ((List.getElem?_set_self hlt).symm.trans hx)
        simp at hstage
      · exact Or.inl ((List.getElem?_set_ne hk).symm.trans hx)
  | _ => exact Or.inl hx

/-- A request has the header that it was sent with, which is made from what its tab has stored. -/
theorem Does.header (h : Does e renders s op sop answer s') (hx : x ∈ s'.exchanges) :
    (∃ y ∈ s.exchanges, y.tab = x.tab ∧ y.authorization = x.authorization) ∨
      x.authorization = authorizationHeader (s.stored x.tab) := by
  cases h with
  | send tab route requestId =>
      rcases List.mem_append.1 hx with hold | hnew
      · exact Or.inl ⟨x, hold, rfl, rfl⟩
      · obtain rfl := List.mem_singleton.1 hnew
        exact Or.inr rfl
  | serve k' now y hy hsent =>
      rcases List.mem_or_eq_of_mem_set hx with hold | rfl
      · exact Or.inl ⟨x, hold, rfl, rfl⟩
      · exact Or.inl ⟨y, List.mem_of_getElem? hy, rfl, rfl⟩
  | receive k' y given hy hanswered =>
      rcases List.mem_or_eq_of_mem_set hx with hold | rfl
      · exact Or.inl ⟨x, hold, rfl, rfl⟩
      · exact Or.inl ⟨y, List.mem_of_getElem? hy, rfl, rfl⟩
  | _ => exact Or.inl ⟨x, hx, rfl, rfl⟩

/-- A tab that has a token had it before, or receives a response just now. -/
theorem Does.stored (h : Does e renders s op sop answer s') {tab : ι} {token : String}
    (hstored : s'.stored tab = some token) :
    s.stored tab = some token ∨
      ∃ (k : ℕ) (x : Exchange ι iso) (response : ApiResponse iso), s.exchanges[k]? = some x ∧
        x.stage = .answered response ∧ x.tab = tab ∧
        storedAfter x.route response (s.stored tab) = some token := by
  cases h with
  | receive k' y given hy hanswered =>
      by_cases htab : tab = y.tab
      · subst htab
        simp only [Function.update_self] at hstored
        exact Or.inr ⟨k', y, given, hy, hanswered, rfl, hstored⟩
      · simp only [Function.update_of_ne htab] at hstored
        exact Or.inl hstored
  | clear tab' =>
      by_cases htab : tab = tab'
      · subst htab
        simp at hstored
      · simp only [Function.update_of_ne htab] at hstored
        exact Or.inl hstored
  | _ => exact Or.inl hstored

end

/-! ### Where the tokens come from -/

/-- The call served this request, and this is the response that was sent. -/
structure ServedBy (e : AuthEnv) (renders : Json → Bool) (k : ℕ) (x : Exchange ι iso)
    (response : ApiResponse iso) (c : ConsoleCall ι iso) : Prop where
  before : c.before.exchanges[k]? = some { x with stage := .sent }
  op : ∃ now, c.op = .serve k now ∧
    c.answer =
      .system (.response (SmsForwarder.serve e iso c.before.server (x.request now)).1) ∧
    response = (SmsForwarder.serve e iso c.before.server (x.request now)).1.sent renders

/-- The call served a login of the tab, and the response has the token. -/
structure LoginOf (e : AuthEnv) (renders : Json → Bool) (tab : ι) (token : String)
    (payload : LoginRequest) (issuedAt : Timestamp) (c : ConsoleCall ι iso) : Prop where
  served : ∃ k x response, ServedBy e renders k x response c ∧ x.tab = tab
  issued : ∃ sc, serverCall e c = some sc ∧ IssuedBy token payload issuedAt sc

/-- Somebody logged in in this tab, and was answered with the token. -/
def Obtained (e : AuthEnv) (renders : Json → Bool) (tab : ι) (token : String)
    (tr : List (ConsoleCall ι iso)) : Prop :=
  ∃ c ∈ tr, ∃ payload issuedAt, LoginOf e renders tab token payload issuedAt c

/-- What holds after every run: the tokens of a tab come from its own logins, those that are under
way too. -/
structure ConsoleInvariant (e : AuthEnv) (renders : Json → Bool) (s : Console ι iso)
    (tr : List (ConsoleCall ι iso)) : Prop where
  sessions : SessionsInvariant e s.server (tr.filterMap (serverCall e))
  stored : ∀ tab token, s.stored tab = some token → Obtained e renders tab token tr
  headers : ∀ x ∈ s.exchanges, ∀ credentials, x.authorization = some credentials →
    credentials.scheme = py "Bearer" ∧ Obtained e renders x.tab credentials.credentials tr
  served : ∀ (k : ℕ) x response, s.exchanges[k]? = some x → x.stage = .answered response →
    ∃ c ∈ tr, ServedBy e renders k x response c
  unsettled : ∀ k, (∀ x, s.exchanges[k]? = some x → x.stage ≠ .settled) →
    ∀ c ∈ tr, c.op = .receive k → c.answer = .nothing

section

variable {e : AuthEnv} {renders : Json → Bool} {tab : ι} {token : String}
  {tr : List (ConsoleCall ι iso)} {c : ConsoleCall ι iso}

omit [DecidableEq ι] in
theorem Obtained.concat (h : Obtained e renders tab token tr) :
    Obtained e renders tab token (tr ++ [c]) := by
  obtain ⟨c', hc', hlogin⟩ := h
  exact ⟨c', List.mem_append_left _ hc', hlogin⟩

theorem apiResult_eq_ok {data : ApiData iso} (h : apiResult response = .ok data) :
    data = response.data := by
  unfold apiResult at h
  split at h
  · simp at h
  · exact (Except.ok.inj h).symm

/-- A response that cannot be written is an error, and any other one stays as it is. -/
theorem apiResult_sent {data : ApiData iso} :
    apiResult (response.sent renders) = .ok data ↔
      data.rendered renders = true ∧ apiResult response = .ok data := by
  unfold ApiResponse.sent
  split
  · rename_i hrendered
    refine ⟨fun h => ⟨?_, h⟩, And.right⟩
    rw [apiResult_eq_ok h]
    exact hrendered
  · rename_i hrendered
    refine ⟨fun h => absurd h (by simp [apiResult, unhandledErrorHandler]), fun h => ?_⟩
    rw [apiResult_eq_ok h.2] at h
    exact absurd h.1 hrendered

theorem authorizationHeader_eq_some {stored : Option String} {credentials : Credentials}
    (h : authorizationHeader stored = some credentials) :
    credentials.scheme = py "Bearer" ∧ stored = some credentials.credentials := by
  unfold authorizationHeader at h
  split at h
  · simp at h
  · simp at h
  · obtain rfl := Option.some.inj h
    exact ⟨rfl, rfl⟩

omit [DecidableEq ι] in
/-- The server makes the call of the request. -/
theorem ServedBy.serverCall (h : ServedBy e renders k x response c) :
    ∃ now, serverCall e c =
        some (call (SystemOp.exec e iso) c.before.server (.request (x.request now))) ∧
      response = (SmsForwarder.serve e iso c.before.server (x.request now)).1.sent renders := by
  obtain ⟨now, hop, -, hresponse⟩ := h.op
  refine ⟨now, ?_, hresponse⟩
  unfold WebConsole.serverCall
  rw [hop]
  simp only [ConsoleOp.systemOp, sentAt_eq_some.2 ⟨h.before, rfl⟩]
  rfl

omit [DecidableEq ι] in
/-- A response that makes a tab store a token is that of a login. -/
theorem loginOf_of_stored (h : ServedBy e renders k x response c) {stored : Option String}
    (hstored : storedAfter x.route response stored = some token) :
    stored = some token ∨ ∃ payload issuedAt, LoginOf e renders x.tab token payload issuedAt c := by
  unfold storedAfter at hstored
  cases hresult : apiResult response with
  | error err =>
      rw [hresult] at hstored
      simp only at hstored
      split at hstored
      · simp at hstored
      · exact Or.inl hstored
  | ok data =>
      rw [hresult] at hstored
      simp only at hstored
      split at hstored
      · rename_i payload issuedAt accessToken hroute
        obtain rfl := Option.some.inj hstored
        obtain ⟨now, hcall, hresponse⟩ := h.serverCall
        rw [hresponse, apiResult_sent] at hresult
        exact Or.inr ⟨payload, issuedAt, ⟨k, x, response, h, rfl⟩, _, hcall,
          ⟨⟨_, rfl, hroute⟩, _, rfl, (apiResult_eq_ok hresult.2).symm⟩⟩
      · exact Or.inl hstored

theorem ConsoleInvariant.step (h : ConsoleInvariant e renders s tr) (op : ConsoleOp ι) :
    ConsoleInvariant e renders (op.exec e iso renders s).2
      (tr ++ [call (ConsoleOp.exec e iso renders) s op]) := by
  have hdoes := does_exec e renders s op
  refine ⟨?_, ?_, ?_, ?_, ?_⟩
  · rw [hdoes.server, List.filterMap_append]
    cases hsop : op.systemOp s with
    | none =>
        have hcall : [call (ConsoleOp.exec e iso renders) s op].filterMap (serverCall e) = [] := by
          simp [serverCall, call, hsop]
        rw [hcall, List.append_nil]
        exact h.sessions
    | some sop =>
        have hcall : [call (ConsoleOp.exec e iso renders) s op].filterMap (serverCall e) =
            [call (SystemOp.exec e iso) s.server sop] := by
          simp [serverCall, call, hsop]
        rw [hcall]
        exact h.sessions.step sop
  · intro tab token hstored
    rcases hdoes.stored hstored with hold | ⟨k, x, response, hx, hstage, rfl, hafter⟩
    · exact (h.stored tab token hold).concat
    · obtain ⟨c, hc, hserved⟩ := h.served k x response hx hstage
      rcases loginOf_of_stored hserved hafter with hold | hlogin
      · exact (h.stored _ token hold).concat
      · exact ⟨c, List.mem_append_left _ hc, hlogin⟩
  · intro x hx credentials hauth
    rcases hdoes.header hx with ⟨y, hy, htab, hsame⟩ | hnew
    · obtain ⟨hscheme, hobtained⟩ := h.headers y hy credentials (hsame.trans hauth)
      rw [← htab]
      exact ⟨hscheme, hobtained.concat⟩
    · obtain ⟨hscheme, hstored⟩ := authorizationHeader_eq_some (hnew.symm.trans hauth)
      exact ⟨hscheme, (h.stored _ _ hstored).concat⟩
  · intro k x response hx hstage
    rcases hdoes.answered hx hstage with hold | ⟨hbefore, now, hop, hanswer, hresponse⟩
    · obtain ⟨c, hc, hserved⟩ := h.served k x response hold hstage
      exact ⟨c, List.mem_append_left _ hc, hserved⟩
    · exact ⟨_, List.mem_append_right _ (List.mem_singleton_self _), hbefore, now, hop, hanswer,
        hresponse⟩
  · intro k hopen c hc hop
    rcases List.mem_append.1 hc with hold | hnew
    · exact h.unsettled k (fun x hx hstage => hopen x (hdoes.settled hx hstage) hstage) c hold hop
    · obtain rfl := List.mem_singleton.1 hnew
      obtain rfl : op = .receive k := hop
      show (ConsoleOp.exec e iso renders s (.receive k)).1 = .nothing
      generalize (ConsoleOp.exec e iso renders s (.receive k)).1 = answer at hdoes
      generalize (ConsoleOp.exec e iso renders s (.receive k)).2 = s' at hdoes hopen
      cases hdoes with
      | idle => rfl
      | receive _ x response hx hstage =>
          have hlt : k < s.exchanges.length := (List.getElem?_eq_some_iff.1 hx).1
          exact absurd rfl (hopen _ (List.getElem?_set_self hlt))

theorem consoleInvariant_run (e : AuthEnv) (iso : FrpsService.IsoFormat) (renders : Json → Bool)
    (ops : List (ConsoleOp ι)) :
    ConsoleInvariant e renders (final (ConsoleOp.exec e iso renders) Console.empty ops)
      (trace (ConsoleOp.exec e iso renders) Console.empty ops) := by
  refine run_induction (ConsoleOp.exec e iso renders) ?_ (fun _ _ op h => h.step op) ops
  exact ⟨⟨accountsInvariant_empty, by simp⟩, by simp [Console.empty], by simp [Console.empty],
    by simp [Console.empty], by simp⟩

/-! ### Requests of a tab -/

/-- The request carries the token of a login in its own tab, which has not expired: the user is the
one whose password was verified. -/
def TabSession (e : AuthEnv) (renders : Json → Bool) (earlier : List (ConsoleCall ι iso))
    (a : Accounts) (x : Exchange ι iso) (now : Timestamp) (user : User) : Prop :=
  ∃ credentials, x.authorization = some credentials ∧ ∃ login ∈ earlier, ∃ payload issuedAt,
    LoginOf e renders x.tab credentials.credentials payload issuedAt login ∧
    (∃ row, authenticate e.bcrypt login.before.server.accounts payload.username
      payload.password = .ok row) ∧
    user ∈ a.users ∧ user.username = payload.username ∧ wholeSecond now ≤ expiry e issuedAt

/-- The request carries the token of a login in its own tab, which has expired. -/
def TabExpired (e : AuthEnv) (renders : Json → Bool) (earlier : List (ConsoleCall ι iso))
    (x : Exchange ι iso) (now : Timestamp) : Prop :=
  ∃ credentials, x.authorization = some credentials ∧ ∃ login ∈ earlier, ∃ payload issuedAt,
    LoginOf e renders x.tab credentials.credentials payload issuedAt login ∧
    expiry e issuedAt < wholeSecond now

omit [DecidableEq ι] in
/-- What the server makes of a request that presents nothing, or a token that was obtained by a
login. -/
theorem serve_of_headers (h : ConsoleInvariant e renders s tr) (hlen : tr.length < 2 ^ 63)
    (hx : x ∈ s.exchanges) (hguard : x.route.access ≠ .anyone) (now : Timestamp) :
    (∃ user, TabSession e renders tr s.server.accounts x now user ∧
        SmsForwarder.serve e iso s.server (x.request now) =
          (respond iso x.requestId (x.route.body e iso s.server (some user)).1,
            (x.route.body e iso s.server (some user)).2)) ∨
      (x.authorization = none ∨ TabExpired e renders tr x now) ∧
        (SmsForwarder.serve e iso s.server (x.request now)).1.statusCode = 401 ∧
        (SmsForwarder.serve e iso s.server (x.request now)).2 = s.server := by
  have haccounts := h.sessions.accounts
  have hguarded : authorize e s.server.accounts x.route.access x.authorization now =
      (getCurrentUser e s.server.accounts x.authorization now).map some :=
    @authorize_guarded e s.server _ (x.request now) haccounts.admitted.accounts haccounts.provisioned
      hguard
  have hrefused : ∀ message, getCurrentUser e s.server.accounts x.authorization now =
      .error (.app (UnauthorizedError message)) →
        (SmsForwarder.serve e iso s.server (x.request now)).1.statusCode = 401 ∧
          (SmsForwarder.serve e iso s.server (x.request now)).2 = s.server := by
    intro message herr
    rw [herr] at hguarded
    simp only [SmsForwarder.serve, Exchange.request, hguarded]
    exact ⟨rfl, rfl⟩
  cases hauth : x.authorization with
  | none =>
      refine Or.inr ⟨Or.inl rfl, hrefused "missing bearer token" ?_⟩
      rw [hauth]
      rfl
  | some credentials =>
      obtain ⟨hscheme, login, hmem, payload, issuedAt, hlogin⟩ := h.headers x hx credentials hauth
      obtain ⟨sc, hsc, hissued⟩ := hlogin.issued
      obtain ⟨hverified, user, huser, hname, htoken⟩ := h.sessions.issued sc
        (List.mem_filterMap.2 ⟨login, hmem, hsc⟩) _ payload issuedAt hissued
      obtain ⟨sop, -, rfl⟩ := Option.map_eq_some_iff.1 hsc
      have hshort : (tr.filterMap (serverCall e)).length < 2 ^ 63 :=
        (List.length_filterMap_le _ _).trans_lt hlen
      have hid : user.id < 2 ^ 63 := (haccounts.provisioned.ids user huser).trans_lt hshort
      have hlower : e.env.runtime.lower credentials.scheme = py "bearer" := by
        rw [hscheme, e.env.runtime.lower_ascii _ (by decide)]
        rfl
      have hcredentials :
          credentials = ⟨credentials.scheme, createAccessToken e user issuedAt⟩ := by rw [← htoken]
      by_cases hlive : wholeSecond now ≤ expiry e issuedAt
      · refine Or.inl ⟨user, ⟨credentials, hauth, login, hmem, payload, issuedAt, hlogin, hverified,
          huser, hname, hlive⟩, ?_⟩
        have hcurrent : getCurrentUser e s.server.accounts x.authorization now = .ok user := by
          rw [hauth, hcredentials]
          exact (getCurrentUser_issued haccounts.admitted.accounts.2.1.1 hid hlower).2
            ⟨hlive, huser, rfl, haccounts.provisioned.active user huser⟩
        rw [hcurrent] at hguarded
        simp only [SmsForwarder.serve, Exchange.request, hguarded]
        rfl
      · refine Or.inr ⟨Or.inr ⟨credentials, hauth, login, hmem, payload, issuedAt, hlogin,
          not_le.1 hlive⟩, hrefused "invalid token" ?_⟩
        rw [hauth, hcredentials]
        unfold getCurrentUser getUserByToken
        simp only [hlower, if_true, decodeUserId_createAccessToken hid, hlive, if_false]
        rfl

end

end

/-- **A tab is served as the user who logged in there.**  Any number of tabs, the phones and the
command run against the API, from empty tables; requests and answers may overtake each other and get
lost.  A request of a tab to a route that asks for a user does its work for the user who has logged
in in this tab with the token it carries, up to the second in which that token expires.  It is
refused only if it carries none, because the tab had none stored when it was sent, or one that has
expired since. -/
theorem console_sessions {ι : Type} [DecidableEq ι] (e : AuthEnv) (iso : FrpsService.IsoFormat)
    (renders : Json → Bool) (ops : List (ConsoleOp ι)) (hlen : ops.length < 2 ^ 63)
    (earlier later : List (ConsoleCall ι iso)) (c : ConsoleCall ι iso)
    (hsplit : trace (ConsoleOp.exec e iso renders) Console.empty ops = earlier ++ c :: later)
    (k : ℕ) (now : Timestamp) (x : Exchange ι iso) (hop : c.op = .serve k now)
    (hx : c.before.exchanges[k]? = some x) (hsent : x.stage = .sent)
    (hguard : x.route.access ≠ .anyone) :
    (∃ user, TabSession e renders earlier c.before.server.accounts x now user ∧
        c.answer = .system (.response
          (respond iso x.requestId (x.route.body e iso c.before.server (some user)).1)) ∧
        c.after.server = (x.route.body e iso c.before.server (some user)).2) ∨
      (x.authorization = none ∨ TabExpired e renders earlier x now) ∧
        (∃ response, c.answer = .system (.response response) ∧ response.statusCode = 401) ∧
        c.after.server = c.before.server := by
  obtain ⟨bs, cs, rfl, hearlier, hc⟩ := trace_split (ConsoleOp.exec e iso renders) hsplit
  have hinv := consoleInvariant_run e iso renders bs
  rw [← hearlier] at hinv
  have hshort : earlier.length < 2 ^ 63 := by
    have hops : (earlier.map Call.op).length = bs.length := by rw [hearlier, map_op_trace]
    rw [List.length_map] at hops
    rw [List.length_append] at hlen
    omega
  generalize final (ConsoleOp.exec e iso renders) Console.empty bs = s at hinv hc
  rw [hop] at hc
  rw [hc] at hx ⊢
  have hat : s.sentAt k = some x := sentAt_eq_some.2 ⟨hx, hsent⟩
  simp only [call, ConsoleOp.exec, hat]
  rcases serve_of_headers hinv hshort (List.mem_of_getElem? hx) hguard now with
    ⟨user, hsession, hserve⟩ | ⟨hwhy, hcode, hkeep⟩
  · rw [hserve]
    exact Or.inl ⟨user, hsession, rfl, rfl⟩
  · exact Or.inr ⟨hwhy, ⟨_, rfl, hcode⟩, hkeep⟩

/-! ### A tab -/

abbrev tabExec : Console Unit FrpsService.noIso → ConsoleOp Unit →
    ConsoleAnswer FrpsService.noIso × Console Unit FrpsService.noIso :=
  ConsoleOp.exec (plainAuthEnv ormSchema) FrpsService.noIso fun _ => true

/-- The administrator is created and logs in in a tab. -/
def loginStart : List (ConsoleOp Unit) :=
  [.createAdmin 0 "admin" (py "secret123"), .send () (.login adminLogin 0) "1", .serve 0 0]

/-- The tab has the token, and asks for the devices. -/
def tabStart : List (ConsoleOp Unit) := loginStart ++ [.receive 0, .send () .listDevices "2"]

def tabRequest : Exchange Unit FrpsService.noIso where
  tab := ()
  route := .listDevices
  authorization := some ⟨py "Bearer", createAccessToken (plainAuthEnv ormSchema) adminUser 0⟩
  requestId := "2"
  stage := .sent

/-- The request, served in the last second of the token. -/
def tabCall : ConsoleCall Unit FrpsService.noIso :=
  call tabExec (final tabExec Console.empty tabStart) (.serve 1 (seconds 3600))

theorem console_sessions_tab :
    (∃ user, TabSession (plainAuthEnv ormSchema) (fun _ => true)
          (trace tabExec Console.empty tabStart)
          tabCall.before.server.accounts tabRequest (seconds 3600) user ∧
        tabCall.answer = .system (.response (respond FrpsService.noIso tabRequest.requestId
          (tabRequest.route.body (plainAuthEnv ormSchema) FrpsService.noIso tabCall.before.server
            (some user)).1)) ∧
        tabCall.after.server = (tabRequest.route.body (plainAuthEnv ormSchema) FrpsService.noIso
          tabCall.before.server (some user)).2) ∨
      (tabRequest.authorization = none ∨ TabExpired (plainAuthEnv ormSchema) (fun _ => true)
          (trace tabExec Console.empty tabStart) tabRequest (seconds 3600)) ∧
        (∃ response, tabCall.answer = .system (.response response) ∧ response.statusCode = 401) ∧
        tabCall.after.server = tabCall.before.server :=
  console_sessions (plainAuthEnv ormSchema) FrpsService.noIso (fun _ => true)
    (tabStart ++ [.serve 1 (seconds 3600)]) (by decide) (trace tabExec Console.empty tabStart) []
    tabCall (trace_concat tabExec Console.empty tabStart (.serve 1 (seconds 3600))) 1 (seconds 3600)
    tabRequest rfl rfl rfl (by simp [tabRequest, Route.access])

/-! ### Answers -/

end SmsForwarder.WebConsole
