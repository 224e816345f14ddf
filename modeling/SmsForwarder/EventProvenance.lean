/-
**Where the stored events come from.**

The endpoint for events asks for no user: whoever knows a token may post.  This module says, of
whole runs of the API, what the table of events then holds.  Its rows are those of the postings that
were answered as new, in their order, each with what was posted; and for each of them somebody who
holds the permission to manage webhooks had been given a token for that very device, with the hash
of the token that was posted, and the device had not been rotated since.  A posting that is answered
as a duplicate repeats one of these.

Main definitions:

* `SmsForwarder.Issues`, `SmsForwarder.LiveCredential` — tokens by the calls of a run;
* `SmsForwarder.EventFor` — the row of a posting.

Main results:

* `SmsForwarder.credentials_effect` — what each effect does to the tokens that are accepted;
* `SmsForwarder.accepts_iff_live_run` — the tables accept what is live;
* `SmsForwarder.events_run` — **the events are those of the postings with live tokens.**
-/

import SmsForwarder.AccessMatrix
import SmsForwarder.Accountability
import SmsForwarder.SessionRuns
import SmsForwarder.WebhookTokens

set_option relaxedAutoImplicit false
set_option autoImplicit false

namespace SmsForwarder

open Py Tables Runs

section

variable {iso : FrpsService.IsoFormat}

/-! ### Tokens by the calls of a run -/

/-- The device and the token of an answer that returned a token. -/
def Route.issued : Route → ApiData iso → Option (String × String)
  | .createWebhook deviceId _, .issued token => some (deviceId, token.webhookToken)
  | .rotateWebhook deviceId _, .issued token => some (deviceId, token.webhookToken)
  | _, _ => none

/-- The device of a rotation that succeeded. -/
def Route.rotated : Route → ApiData iso → Option String
  | .rotateWebhook deviceId _, .issued _ => some deviceId
  | _, _ => none

def issuedIn (c : SystemCall iso) : Option (String × String) :=
  match c.op, c.answer with
  | .request req, .response response => req.route.issued response.data
  | _, _ => none

def rotatedIn (c : SystemCall iso) : Option String :=
  match c.op, c.answer with
  | .request req, .response response => req.route.rotated response.data
  | _, _ => none

/-- The call gave a user who may manage webhooks a token for the device, with the hash of this one.
-/
def Issues (e : AuthEnv) (deviceId token : String) (c : SystemCall iso) : Prop :=
  ∃ req user given, c.op = .request req ∧ SignedIn e c.before.accounts req user ∧
    Holds c.before.accounts user "device:webhook:manage" ∧ issuedIn c = some (deviceId, given) ∧
    WebhookService.hashToken e.env given = WebhookService.hashToken e.env token

/-- Such a token was given for the device, and the device was not rotated since. -/
def LiveCredential (e : AuthEnv) (tr : List (SystemCall iso)) (deviceId token : String) : Prop :=
  Since (Issues e deviceId token) (fun c => rotatedIn c ≠ some deviceId) tr

/-- What a call leaves of the tokens, and what it adds. -/
def credentialsAfter (env : Env) (route : Route) (data : ApiData iso) (xs : List Credential) :
    List Credential :=
  xs.map (Credential.revoke (route.rotated data)) ++
    (route.issued data).toList.map fun issued =>
      ⟨issued.1, WebhookService.hashToken env issued.2, true⟩

theorem credentialsAfter_of_none {env : Env} {route : Route} {data : ApiData iso}
    (hissued : route.issued data = none) (hrotated : route.rotated data = none)
    (xs : List Credential) : credentialsAfter env route data xs = xs := by
  unfold credentialsAfter
  rw [hissued, hrotated, map_revoke_none]
  simp

/-- An error issues no token and rotates no device. -/
theorem issued_details (route : Route) (details : List (String × ℤ)) :
    route.issued (.details details : ApiData iso) = none ∧
      route.rotated (.details details : ApiData iso) = none := by
  cases route <;> exact ⟨rfl, rfl⟩

theorem accepts_credentialsAfter {env : Env} {route : Route} {data : ApiData iso}
    {xs : List Credential} {deviceId tokenHash : String} :
    (⟨deviceId, tokenHash, true⟩ : Credential) ∈ credentialsAfter env route data xs ↔
      (∃ token, route.issued data = some (deviceId, token) ∧
          WebhookService.hashToken env token = tokenHash) ∨
        (⟨deviceId, tokenHash, true⟩ : Credential) ∈ xs ∧ route.rotated data ≠ some deviceId := by
  have hold : (⟨deviceId, tokenHash, true⟩ : Credential) ∈
      xs.map (Credential.revoke (route.rotated data)) ↔
        (⟨deviceId, tokenHash, true⟩ : Credential) ∈ xs ∧ route.rotated data ≠ some deviceId := by
    rw [List.mem_map]
    constructor
    · rintro ⟨⟨d, h, enabled⟩, hmem, heq⟩
      simp only [Credential.revoke, Credential.mk.injEq, Bool.and_eq_true,
        decide_eq_true_eq] at heq
      obtain ⟨rfl, rfl, rfl, hrotated⟩ := heq
      exact ⟨hmem, hrotated⟩
    · rintro ⟨hmem, hrotated⟩
      exact ⟨_, hmem, by simp [Credential.revoke, hrotated]⟩
  unfold credentialsAfter
  rw [List.mem_append, hold, or_comm]
  refine or_congr ?_ Iff.rfl
  cases route.issued data with
  | none => simp
  | some issued =>
      obtain ⟨d, token⟩ := issued
      simp [eq_comm]

variable {env : Env} {db db' : Store} {user : Option User} {route : Route}
  {outcome : Except PyError (ApiData iso)}

/-- **What each effect does to the tokens that are accepted.** -/
theorem credentials_effect (hadm : db.Admitted env.schema) (requestId : String)
    (heffect : StoreEffect env iso db user route outcome db') :
    credentials db' =
      credentialsAfter env route (respond iso requestId outcome).data (credentials db) := by
  have hquiet : ∀ db', credentials db' = credentials db →
      route.issued (respond iso requestId outcome).data = none →
      route.rotated (respond iso requestId outcome).data = none →
      credentials db' =
        credentialsAfter env route (respond iso requestId outcome).data (credentials db) := by
    intro db' hkeep hissued hrotated
    rw [credentialsAfter_of_none hissued hrotated, hkeep]
  cases heffect with
  | read _ _ hreads =>
      have hnone : ∀ data : ApiData iso, route.issued data = none ∧ route.rotated data = none := by
        intro data
        cases route with
        | createWebhook | rotateWebhook => simp [Route.reads] at hreads
        | _ => exact ⟨rfl, rfl⟩
      exact hquiet _ rfl (hnone _).1 (hnone _).2
  | failed _ err =>
      obtain ⟨details, hdata⟩ := data_respond_error iso requestId err
      rw [hdata] at hquiet ⊢
      exact hquiet _ rfl (issued_details route details).1 (issued_details route details).2
  | createWebhook deviceId secret hdevice =>
      have hadd : credentials (db.insertWebhook (WebhookService.newWebhook env deviceId secret)) =
          credentials db ++ [⟨deviceId, WebhookService.hashToken env
            (WebhookService.issuedToken env secret).webhookToken, true⟩] := by
        simp [credentials, Store.insertWebhook, credential_newWebhook]
      rw [hadd]
      show _ = (credentials db).map (Credential.revoke none) ++ _
      rw [map_revoke_none]
      rfl
  | rotateWebhook deviceId secret hdevice =>
      have hrotated : ∀ w : DeviceWebhook, (WebhookService.rotatedWebhook deviceId w).credential =
          w.credential.revoke (some deviceId) := by
        intro w
        simp [WebhookService.rotatedWebhook, DeviceWebhook.credential, Credential.revoke, eq_comm]
      show credentials _ = (credentials db).map (Credential.revoke (some deviceId)) ++ [⟨deviceId,
        WebhookService.hashToken env (WebhookService.issuedToken env secret).webhookToken, true⟩]
      simp [credentials, Store.insertWebhook, credential_newWebhook, hrotated]
  | ingestWebhook req webhook device event result hmem hen hhash hdev hid hevent hbound =>
      refine hquiet _ ?_ rfl rfl
      unfold credentials
      rw [calledStore_webhooks]
      refine map_updateKey fun cur hcur hk => ?_
      obtain rfl := hadm.2.2.2.1.1.eq hcur hmem hk
      rw [DeviceWebhook.merge_self (by rfl)]
      rfl
  | enableTunnel deviceId nonce payload device tunnel port hmem hid ht hoff hport =>
      refine hquiet _ ?_ rfl rfl
      cases tunnel <;> rfl
  | query route deviceId d outcome logs =>
      have hnone : ∀ data : ApiData iso, (Route.query route deviceId d).issued data = none ∧
          (Route.query route deviceId d).rotated data = none := fun data => ⟨rfl, rfl⟩
      exact hquiet _ rfl (hnone _).1 (hnone _).2
  | _ => exact hquiet _ rfl rfl rfl

/-! ### Runs of the tokens -/

variable {e : AuthEnv} {s : ApiState}

/-- Only users who may manage webhooks are given tokens. -/
theorem issues_iff (hadm : s.Admitted e.env.schema) (op : SystemOp) (deviceId token : String) :
    Issues e deviceId token (call (SystemOp.exec e iso) s op) ↔
      ∃ given, issuedIn (call (SystemOp.exec e iso) s op) = some (deviceId, given) ∧
        WebhookService.hashToken e.env given = WebhookService.hashToken e.env token := by
  constructor
  · rintro ⟨-, -, given, -, -, -, hissued, hhash⟩
    exact ⟨given, hissued, hhash⟩
  · rintro ⟨given, hissued, hhash⟩
    cases op with
    | createAdmin salt username password => simp [issuedIn, call] at hissued
    | request req =>
        rcases exec_request_cases e iso s req with ⟨err, -, hcall⟩ | ⟨found, hauth, hcall⟩
        · obtain ⟨details, hdata⟩ := data_respond_error iso req.requestId err
          rw [hcall] at hissued
          simp [issuedIn, hdata, (issued_details req.route details).1] at hissued
        · have haccess : req.route.access = .permission "device:webhook:manage" := by
            rw [hcall] at hissued
            simp only [issuedIn] at hissued
            unfold Route.issued at hissued
            split at hissued
            · rename_i hroute _
              rw [hroute]
              rfl
            · rename_i hroute _
              rw [hroute]
              rfl
            · simp at hissued
          rw [haccess] at hauth
          obtain ⟨user, -, hsigned, hholds⟩ :=
            (authorize_eq_ok hadm.accounts.2.1.1 (by decide)).1 hauth
          exact ⟨req, user, given, rfl, hsigned, hholds, hissued, hhash⟩

/-- A call that gives a token makes the tables accept it, and only a rotation of its device ends
that. -/
theorem accepts_step (hadm : s.Admitted e.env.schema) (op : SystemOp) (deviceId token : String) :
    Accepts e.env (op.exec e iso s).2.server.db deviceId token ↔
      Issues e deviceId token (call (SystemOp.exec e iso) s op) ∨
        (Accepts e.env s.server.db deviceId token ∧
          rotatedIn (call (SystemOp.exec e iso) s op) ≠ some deviceId) := by
  rw [issues_iff hadm]
  unfold Accepts
  rcases @effect_system e iso s op hadm.db with
    ⟨salt, username, password, rfl, hserver⟩ | ⟨req, user, outcome, db', rfl, hanswer, hdb, heffect⟩
  · rw [hserver]
    simp [issuedIn, rotatedIn, call, SystemOp.exec]
  · have hissued : issuedIn (call (SystemOp.exec e iso) s (.request req)) =
        req.route.issued (respond iso req.requestId outcome).data := by
      unfold issuedIn
      simp only [call, hanswer]
    have hrotated : rotatedIn (call (SystemOp.exec e iso) s (.request req)) =
        req.route.rotated (respond iso req.requestId outcome).data := by
      unfold rotatedIn
      simp only [call, hanswer]
    rw [hdb, credentials_effect hadm.db req.requestId heffect, hissued, hrotated]
    exact accepts_credentialsAfter

/-- **The tables accept what is live**, after every run. -/
theorem accepts_iff_live_run (e : AuthEnv) (iso : FrpsService.IsoFormat) (ops : List SystemOp)
    (deviceId token : String) :
    Accepts e.env (final (SystemOp.exec e iso) ApiState.empty ops).server.db deviceId token ↔
      LiveCredential e (trace (SystemOp.exec e iso) ApiState.empty ops) deviceId token := by
  refine iff_since (SystemOp.exec e iso) (I := fun s _ => s.Admitted e.env.schema)
    (P := fun s => Accepts e.env s.server.db deviceId token)
    (final_of_keep _ (fun _ op h => admitted_system op h) (ApiState.admitted_empty _)) ?_
    (fun _ _ op h => accepts_step h op deviceId token) ops
  simp [Accepts, credentials, ApiState.empty, Store.empty]

/-! ### Postings -/

/-- The call was a posting, and it was answered with this result. -/
def PostedIn (c : SystemCall iso) (posting : IngestRequest)
    (result : WebhookService.IngestResult) : Prop :=
  ∃ req, c.op = .request req ∧ req.route = .ingestWebhook posting ∧
    c.answer = .response (successResponse req.requestId (.ingested result))

/-- The call was answered as a posting of a new event. -/
def storesEvent (c : SystemCall iso) : Bool :=
  match c.answer with
  | .response response =>
      match response.data with
      | .ingested result => !result.duplicate
      | _ => false
  | .admin _ => false

/-- The row of a posting: its token was live for the device, and it holds what was posted. -/
def EventFor (e : AuthEnv) (earlier : List (SystemCall iso)) (c : SystemCall iso)
    (row : DeviceEvent) : Prop :=
  ∃ posting result, PostedIn c posting result ∧ result.duplicate = false ∧
    LiveCredential e earlier row.deviceId posting.webhookToken ∧
    posting.body = some row.normalizedPayload ∧
    IngestedAs e.env c.before.server.db posting row.deviceId { row with id := 0 } result

/-- Only the endpoint for events answers so. -/
theorem route_of_ingested {route : Route} {result : WebhookService.IngestResult}
    (h : route.gives (.ingested result : ApiData iso) = true) :
    ∃ posting, route = .ingestWebhook posting := by
  cases route with
  | ingestWebhook posting => exact ⟨posting, rfl⟩
  | _ => simp [Route.gives] at h

theorem id_of_bindEvent {deviceId : String} {eventId : Json} {parsed : ParsedPayload}
    {c : WebhookService.IngestCall} {event : DeviceEvent}
    (h : WebhookService.bindEvent env deviceId eventId parsed c = .ok event) : event.id = 0 := by
  unfold WebhookService.bindEvent at h
  split at h
  · rw [← Except.ok.inj h]
  · simp at h

/-- A posting that is answered stores the event that it asks for, unless the answer says that the
device has it. -/
theorem posted_call (hadm : s.Admitted e.env.schema) {op : SystemOp} {posting : IngestRequest}
    {result : WebhookService.IngestResult}
    (h : PostedIn (call (SystemOp.exec e iso) s op) posting result) :
    ∃ deviceId event, Accepts e.env s.server.db deviceId posting.webhookToken ∧
      event.deviceId = deviceId ∧ IngestedAs e.env s.server.db posting deviceId event result ∧
      (op.exec e iso s).2.server.db.deviceEvents = s.server.db.deviceEvents ++
        if result.duplicate then []
        else [{ event with id := nextKey DeviceEvent.id s.server.db.deviceEvents }] := by
  obtain ⟨req, hop, hroute, hanswer⟩ := h
  obtain rfl : op = .request req := hop
  rcases request_effect hadm req with ⟨err, hcall⟩ | ⟨user, outcome, s', -, -, hcall, heff⟩
  · obtain ⟨details, hdata⟩ := data_respond_error iso req.requestId err
    rw [hcall] at hanswer
    rw [SystemAnswer.response.inj hanswer] at hdata
    simp [successResponse] at hdata
  · have hafter : ((SystemOp.request req).exec e iso s).2 = s' := congrArg Call.after hcall
    rw [hcall] at hanswer
    have hresponse : respond iso req.requestId outcome =
        successResponse req.requestId (.ingested result) := SystemAnswer.response.inj hanswer
    rw [hroute] at heff
    rw [hafter]
    generalize hdb : s'.server.db = db' at heff ⊢
    cases heff with
    | read _ _ hreads => simp [Route.reads] at hreads
    | failed _ err =>
        obtain ⟨details, hdata⟩ := data_respond_error iso req.requestId err
        rw [hresponse] at hdata
        simp [successResponse] at hdata
    | ingestWebhook _ webhook device event result' hmem hen hhash hdev hid hevent hbound =>
        have hdata := congrArg ApiResponse.data hresponse
        obtain rfl : result' = result := ApiData.ingested.inj hdata
        refine ⟨webhook.deviceId, event, mem_credentials.2 ⟨webhook, hmem, rfl, hhash, hen⟩, hevent,
          hbound, ?_⟩
        unfold calledStore
        cases result'.duplicate with
        | true => exact (List.append_nil _).symm
        | false => rfl

/-- A call that is no answered posting stores no event. -/
theorem no_event (hadm : s.Admitted e.env.schema) {op : SystemOp}
    (h : ¬ ∃ posting result, PostedIn (call (SystemOp.exec e iso) s op) posting result) :
    storesEvent (call (SystemOp.exec e iso) s op) = false ∧
      (op.exec e iso s).2.server.db.deviceEvents = s.server.db.deviceEvents := by
  show _ ∧ (call (SystemOp.exec e iso) s op).after.server.db.deviceEvents = _
  cases op with
  | createAdmin salt username password => exact ⟨rfl, rfl⟩
  | request req =>
      rcases request_effect hadm req with ⟨err, hcall⟩ | ⟨user, outcome, s', -, hbody, hcall, heff⟩
      · obtain ⟨details, hdata⟩ := data_respond_error iso req.requestId err
        rw [hcall]
        exact ⟨by simp only [storesEvent, hdata], rfl⟩
      · rw [hcall] at h ⊢
        by_cases hroute : ∃ posting, req.route = .ingestWebhook posting
        · obtain ⟨posting, hroute⟩ := hroute
          rw [hroute] at heff
          show _ ∧ s'.server.db.deviceEvents = _
          generalize hdb : s'.server.db = db' at heff ⊢
          cases heff with
          | read _ _ hreads => simp [Route.reads] at hreads
          | failed _ err =>
              obtain ⟨details, hdata⟩ := data_respond_error iso req.requestId err
              exact ⟨by simp only [storesEvent, hdata], rfl⟩
          | ingestWebhook _ webhook device event result =>
              exact absurd ⟨posting, result, req, rfl, hroute, rfl⟩ h
        · refine ⟨?_, ?_⟩
          · cases outcome with
            | error err =>
                obtain ⟨details, hdata⟩ := data_respond_error iso req.requestId err
                simp only [storesEvent, hdata]
            | ok data =>
                have hgives := gives_of_body (congrArg Prod.fst hbody)
                cases data with
                | ingested result => exact absurd (route_of_ingested hgives) hroute
                | _ => rfl
          · show Part.events.read _ = Part.events.read _
            refine read_of_effect heff fun hwrites => hroute ?_
            cases hcase : req.route with
            | ingestWebhook posting => exact ⟨posting, rfl⟩
            | _ => simp [hcase, Route.writes] at hwrites

/-- A call that stores an event leaves one row more, and the others leave the events alone. -/
theorem event_step {tr : List (SystemCall iso)} (hadm : s.Admitted e.env.schema)
    (hlive : ∀ deviceId token,
      Accepts e.env s.server.db deviceId token ↔ LiveCredential e tr deviceId token)
    (op : SystemOp) :
    (storesEvent (call (SystemOp.exec e iso) s op) = false ∧
        (op.exec e iso s).2.server.db.deviceEvents = s.server.db.deviceEvents) ∨
      (storesEvent (call (SystemOp.exec e iso) s op) = true ∧
        ∃ row, EventFor e tr (call (SystemOp.exec e iso) s op) row ∧
          (op.exec e iso s).2.server.db.deviceEvents = s.server.db.deviceEvents ++ [row]) := by
  by_cases hposted : ∃ posting result, PostedIn (call (SystemOp.exec e iso) s op) posting result
  · obtain ⟨posting, result, hposted⟩ := hposted
    obtain ⟨deviceId, event, haccepts, rfl, hbound, hevents⟩ := posted_call hadm hposted
    obtain ⟨req, -, -, hanswer⟩ := id hposted
    have hstores : storesEvent (call (SystemOp.exec e iso) s op) = !result.duplicate := by
      unfold storesEvent
      rw [hanswer]
      rfl
    rw [hstores, hevents]
    cases hdup : result.duplicate with
    | true => exact Or.inl ⟨rfl, List.append_nil _⟩
    | false =>
        obtain ⟨fields, hbody, hbind, -⟩ := hbound.bound
        have hself : ({ event with id := 0 } : DeviceEvent) = event := by
          rw [← id_of_bindEvent hbind]
        refine Or.inr ⟨rfl, { event with id := nextKey DeviceEvent.id s.server.db.deviceEvents },
          ⟨posting, result, hposted, hdup, (hlive _ _).1 haccepts, ?_, ?_⟩, rfl⟩
        · rw [hbody, (WebhookService.bindEvent_eq_ok hbind).2.2.2]
          rfl
        show IngestedAs e.env s.server.db posting event.deviceId { event with id := 0 } result
        rw [hself]
        exact hbound
  · exact Or.inl (no_event hadm hposted)

/-- The rows are those of the calls that were answered as new, in order. -/
theorem events_stored (e : AuthEnv) (iso : FrpsService.IsoFormat) (ops : List SystemOp) :
    List.Forall₂ (fun p row => EventFor e p.1 p.2 row)
      ((withHistory [] (trace (SystemOp.exec e iso) ApiState.empty ops)).filter fun p =>
        storesEvent p.2)
      (final (SystemOp.exec e iso) ApiState.empty ops).server.db.deviceEvents :=
  journal_history (SystemOp.exec e iso) (fun s => s.server.db.deviceEvents)
    (I := fun s tr => s.Admitted e.env.schema ∧ ∀ deviceId token,
      Accepts e.env s.server.db deviceId token ↔ LiveCredential e tr deviceId token)
    (fun ops =>
      ⟨final_of_keep _ (fun _ op h => admitted_system op h) (ApiState.admitted_empty _) ops,
        accepts_iff_live_run e iso ops⟩)
    (fun _ _ op h => event_step h.1 h.2 op) rfl ops

/-- **The events are those of the postings with live tokens.**  The table has a row for each posting
that was answered as new, in their order; and a posting that was answered as a duplicate came with a
live token as well, and repeats an earlier one. -/
theorem events_run (e : AuthEnv) (iso : FrpsService.IsoFormat) (ops : List SystemOp) :
    List.Forall₂ (fun p row => EventFor e p.1 p.2 row)
        ((withHistory [] (trace (SystemOp.exec e iso) ApiState.empty ops)).filter fun p =>
          storesEvent p.2)
        (final (SystemOp.exec e iso) ApiState.empty ops).server.db.deviceEvents ∧
      ∀ p ∈ withHistory [] (trace (SystemOp.exec e iso) ApiState.empty ops), ∀ posting result,
        PostedIn p.2 posting result → result.duplicate = true →
          ∃ deviceId event, LiveCredential e p.1 deviceId posting.webhookToken ∧
            IngestedAs e.env p.2.before.server.db posting deviceId event result ∧
            ∃ p' ∈ withHistory [] p.1, ∃ row, storesEvent p'.2 = true ∧
              EventFor e p'.1 p'.2 row ∧ row.deviceId = deviceId ∧ row.eventId = event.eventId := by
  refine ⟨events_stored e iso ops, ?_⟩
  intro p hp posting result hposted hdup
  obtain ⟨pre, post, htrace, hpre⟩ := mem_withHistory.1 hp
  obtain ⟨before, after, -, hbefore, hcall⟩ := trace_split _ htrace
  obtain rfl : p.1 = pre := hpre
  have hadm : (final (SystemOp.exec e iso) ApiState.empty before).Admitted e.env.schema :=
    final_of_keep _ (fun _ op h => admitted_system op h) (ApiState.admitted_empty _) before
  rw [hcall] at hposted
  obtain ⟨deviceId, event, haccepts, -, hbound, -⟩ := posted_call hadm hposted
  -- the row that makes the answer a duplicate is one of the rows of the calls before
  obtain ⟨row, hrow, hdevice, hid⟩ := hbound.duplicate.1 hdup
  obtain ⟨p', hp', hfor⟩ := exists_of_forall₂ (events_stored e iso before) hrow
  obtain ⟨hmem, hstores⟩ := List.mem_filter.1 hp'
  rw [← hbefore] at hmem
  refine ⟨deviceId, event, ?_, ?_, p', hmem, row, by simpa using hstores, hfor, hdevice, hid⟩
  · rw [hbefore]
    exact (accepts_iff_live_run e iso before deviceId posting.webhookToken).1 haccepts
  · rw [hcall]
    exact hbound

end

end SmsForwarder
