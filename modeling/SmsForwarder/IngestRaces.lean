/-
**Events that are ingested in parallel.**

A posting reads the row of its webhook, inserts its event, reads the row of its device, and commits
the event together with the counters of both rows, each the value it has read plus one.  When several
workers ingest events, another posting may be committed between a read and the commit, and the commit
then overwrites its count.

An insertion is seen by the others only when it is committed.  An insertion of an identifier that
another worker has inserted and not yet committed would wait for that worker; the postings here have
identifiers of their own.

Main definitions:

* `SmsForwarder.IngestStage`, `SmsForwarder.ingestStep` — the steps of a posting;
* `SmsForwarder.CountersKept` — the counters agree with the events and with the postings;
* `SmsForwarder.CountsAsRead` — a commit finds the two counters as the posting has read them.

Main results:

* `SmsForwarder.ingest_alone` — a posting that is alone does what `lookup` and `ingest` do;
* `SmsForwarder.countersKept_of_countsAsRead` — **as long as every commit finds the counters as they
  were read, no update is lost**;
* `SmsForwarder.update_lost` — a run in which one is lost.
-/

import Mathlib.Data.Finset.Card
import SmsForwarder.Interleavings
import SmsForwarder.WebhookRuns

set_option relaxedAutoImplicit false
set_option autoImplicit false

namespace SmsForwarder

open Py Tables Runs WebhookService

/-! ### The steps of a posting -/

/-- How far a posting is. -/
inductive IngestStage
  | start
  /-- the webhook row was read -/
  | found (webhook : DeviceWebhook)
  /-- the event is stored already, and the rollback expired the webhook row -/
  | expired (webhook : DeviceWebhook) (event : DeviceEvent) (result : IngestResult)
  /-- the event is inserted, or it is stored already and the webhook row was read again -/
  | inserted (webhook : DeviceWebhook) (event : DeviceEvent) (result : IngestResult)
  /-- the device row was read -/
  | loaded (webhook : DeviceWebhook) (device : Device) (event : DeviceEvent) (result : IngestResult)
  | done (answer : Except PyError IngestResult)

/-- The stage after a statement: an exception ends the posting. -/
def IngestStage.after {α : Type} (x : Except PyError α) (next : α → IngestStage) : IngestStage :=
  match x with
  | .ok a => next a
  | .error e => .done (.error e)

/-- The stage after the insertion. -/
def IngestStage.added (webhook : DeviceWebhook) (event : DeviceEvent) (result : IngestResult) :
    IngestStage :=
  if result.duplicate then .expired webhook event result else .inserted webhook event result

/-- The end of a posting, and the store it leaves. -/
def IngestStage.committed (db : Store) (result : IngestResult) :
    Except PyError Store → Store × IngestStage
  | .ok db' => (db', .done (.ok result))
  | .error e => (db, .done (.error e))

/-- The posting was answered. -/
def IngestStage.returned : IngestStage → Bool
  | .done (.ok _) => true
  | _ => false

/-- A posting: the token in its path, and what reaches `ingest`. -/
structure PostedCall where
  token : String
  call : IngestCall

section

variable (env : Env)

/-- What `ingest` does before its first statement, and the insertion. -/
def insertPosted (db : Store) (webhook : DeviceWebhook) (c : IngestCall) :
    Except PyError (DeviceEvent × IngestResult) := do
  let fields ← payloadFields c.payload
  let parsed := parseWebhookPayload env.runtime fields c.parsedAt
  let eventId ← eventIdOf env webhook.deviceId parsed
  let event ← bindEvent env webhook.deviceId eventId parsed c
  let added ← addEvent env db event c
  pure (event, { duplicate := added.2, eventId, eventType := parsed.eventType })

/-- The next step of a posting. -/
def PostedCall.step (p : PostedCall) (db : Store) : IngestStage → Store × IngestStage
  | .start => (db, .after (lookup env db p.token) .found)
  | .found webhook =>
      (db, .after (insertPosted env db webhook p.call) fun r => .added webhook r.1 r.2)
  | .expired webhook event result =>
      (db, .after (heldWebhook db webhook true p.call) fun w => .inserted w event result)
  | .inserted webhook event result =>
      (db, .after (p.call.run .selectDevice (WebhookService.oneDevice db webhook.deviceId))
        fun device => .loaded webhook device event result)
  | .loaded webhook device event result =>
      IngestStage.committed db result (flushCall env (workingStore result.duplicate event db) device
        webhook result.duplicate p.call)
  | .done answer => (db, .done answer)

variable {ι : Type} (posted : ι → PostedCall)

/-- The next step of the posting `i`. -/
def ingestStep (i : ι) : Store → IngestStage → Store × IngestStage := (posted i).step env

/-- The configurations of postings that run in parallel. -/
abbrev IngestConfig (ι : Type) := Interleavings.Config Store ι IngestStage

end

/-! ### A posting that is alone -/

section

variable {env : Env} {db : Store}

/-- The store that the transaction sees after the insertion. -/
theorem addEvent_working {event : DeviceEvent} {c : IngestCall} {r : Store × Bool}
    (h : addEvent env db event c = .ok r) : r.1 = workingStore r.2 event db := by
  unfold addEvent at h
  split at h
  · rename_i working hflush
    obtain ⟨rfl, -⟩ := commit_eq_ok.1 (run_eq_ok hflush)
    cases h
    rfl
  · obtain rfl := Except.ok.inj (run_eq_ok h)
    rfl
  · simp at h

/-- An answered posting does nothing any more. -/
theorem alone_done (env : Env) {ι : Type} (posted : ι → PostedCall) (i : ι) (n : ℕ) (db : Store)
    (answer : Except PyError IngestResult) :
    Interleavings.alone (ingestStep env posted) i n (db, .done answer) = (db, .done answer) := by
  induction n with
  | zero => rfl
  | succ n ih => exact ih

/-- What is left of a posting after its insertion. -/
def finishPosted (env : Env) (db : Store) (webhook : DeviceWebhook) (event : DeviceEvent)
    (result : IngestResult) (c : IngestCall) : Except PyError (Store × IngestResult) := do
  let device ← c.run .selectDevice (WebhookService.oneDevice db webhook.deviceId)
  let db' ← flushCall env (workingStore result.duplicate event db) device webhook
    result.duplicate c
  pure (db', result)

/-- The last steps of a posting that is alone. -/
theorem alone_inserted (env : Env) {ι : Type} (posted : ι → PostedCall) (i : ι) (n : ℕ) (db : Store)
    (webhook : DeviceWebhook) (event : DeviceEvent) (result : IngestResult) :
    Interleavings.alone (ingestStep env posted) i (n + 2) (db, .inserted webhook event result) =
      ((attempt (finishPosted env db webhook event result (posted i).call) db).2,
        .done (attempt (finishPosted env db webhook event result (posted i).call) db).1) := by
  rw [Interleavings.alone_succ, Interleavings.alone_succ]
  unfold finishPosted
  simp only [ingestStep, PostedCall.step]
  cases (posted i).call.run .selectDevice (WebhookService.oneDevice db webhook.deviceId) with
  | error e => exact alone_done env posted i n db _
  | ok device =>
      simp only [IngestStage.after, bind, Except.bind]
      cases flushCall env (workingStore result.duplicate event db) device webhook
          result.duplicate (posted i).call with
      | error e => exact alone_done env posted i n db _
      | ok db' => exact alone_done env posted i n db' _

/-- `ingest` inserts the event, loads the webhook again if it has to, and finishes. -/
theorem ingest_eq_steps (env : Env) (db : Store) (webhook : DeviceWebhook) (c : IngestCall) :
    ingest env db webhook c = (do
      let r ← insertPosted env db webhook c
      let webhook ← heldWebhook db webhook r.2.duplicate c
      finishPosted env db webhook r.1 r.2 c) := by
  unfold ingest insertPosted finishPosted
  simp only [bind_assoc, pure_bind]
  refine bind_congr_right fun fields _ => ?_
  refine bind_congr_right fun eventId _ => ?_
  refine bind_congr_right fun event _ => ?_
  refine bind_congr_right fun added hadd => ?_
  obtain ⟨working, duplicate⟩ := added
  have hworking : working = workingStore duplicate event db := addEvent_working hadd
  have hdevice : ∀ deviceId, WebhookService.oneDevice (workingStore duplicate event db) deviceId =
      WebhookService.oneDevice db deviceId := by
    intro deviceId
    unfold WebhookService.oneDevice
    rw [workingStore_devices]
  rw [hworking]
  simp only [hdevice]

/-- **A posting that is alone** does what `lookup` and `ingest` do. -/
theorem ingest_alone (env : Env) {ι : Type} (posted : ι → PostedCall) (i : ι) (db : Store) :
    let r := attempt (do
      let webhook ← lookup env db (posted i).token
      ingest env db webhook (posted i).call) db
    Interleavings.alone (ingestStep env posted) i 5 (db, .start) = (r.2, .done r.1) := by
  intro r
  have hr : r = attempt (do
      let webhook ← lookup env db (posted i).token
      ingest env db webhook (posted i).call) db := rfl
  have hstart : Interleavings.alone (ingestStep env posted) i 5 (db, .start) =
      Interleavings.alone (ingestStep env posted) i 4
        (db, .after (lookup env db (posted i).token) .found) := rfl
  rw [hstart, hr]
  cases lookup env db (posted i).token with
  | error e => exact alone_done env posted i 4 db _
  | ok webhook =>
      have hfound : Interleavings.alone (ingestStep env posted) i 4
          (db, .after (.ok webhook) .found) = Interleavings.alone (ingestStep env posted) i 3
            (db, .after (insertPosted env db webhook (posted i).call)
              fun r => .added webhook r.1 r.2) := rfl
      rw [hfound]
      simp only [bind, Except.bind, ingest_eq_steps]
      cases insertPosted env db webhook (posted i).call with
      | error e => exact alone_done env posted i 3 db _
      | ok inserted =>
          obtain ⟨event, result⟩ := inserted
          simp only [IngestStage.after, IngestStage.added]
          cases hdup : result.duplicate with
          | false => exact alone_inserted env posted i 1 db webhook event result
          | true =>
              have hexpired : Interleavings.alone (ingestStep env posted) i 3
                  (db, .expired webhook event result) =
                Interleavings.alone (ingestStep env posted) i 2
                  (db, .after (heldWebhook db webhook true (posted i).call)
                    fun w => .inserted w event result) := rfl
              rw [if_pos rfl, hexpired]
              cases heldWebhook db webhook true (posted i).call with
              | error e => exact alone_done env posted i 2 db _
              | ok held => exact alone_inserted env posted i 0 db held event result

end

/-! ### What the counters are for -/

section

variable {ι : Type} [Fintype ι] (env : Env) (posted : ι → PostedCall)

/-- The number of postings with a token of this hash that were answered. -/
def callsThrough (c : IngestConfig ι) (tokenHash : String) : ℕ :=
  (Finset.univ.filter fun i => (c.2 i).returned = true ∧
    hashToken env (posted i).token = tokenHash).card

/-- No update is lost: every device counts its stored events, and the postings through a webhook that
were answered are added to what it had counted before. -/
structure CountersKept (before : Store) (c : IngestConfig ι) : Prop where
  webhookCount : ∀ d ∈ c.1.devices, d.webhookCount = storedEvents c.1 d.deviceId
  calledCount : ∀ w ∈ c.1.deviceWebhooks, ∃ w₀ ∈ before.deviceWebhooks, w₀.id = w.id ∧
    w.calledCount = w₀.calledCount + callsThrough env posted c w.webhookTokenHash

/-- If the next step of the posting is its commit, it finds the counters as the posting has read
them: that of the device, if it is going to count the event, and that of the webhook. -/
def CountsAsRead (c : IngestConfig ι) (i : ι) : Prop :=
  ∀ webhook device event result, c.2 i = .loaded webhook device event result →
    (result.duplicate = false →
      ∀ d ∈ c.1.devices, d.id = device.id → d.webhookCount = device.webhookCount) ∧
    ∀ w ∈ c.1.deviceWebhooks, w.id = webhook.id → w.calledCount = webhook.calledCount

/-! ### The invariant of the runs -/

/-- The webhook row is one of the table, and the token is its own. -/
def KnownWebhook (before : Store) (token : String) (w : DeviceWebhook) : Prop :=
  w.webhookTokenHash = hashToken env token ∧
    (w.id, w.deviceId, w.webhookTokenHash) ∈ webhookKeys before

/-- What a posting knows at each stage. -/
def IngestSound (before : Store) (token : String) : IngestStage → Prop
  | .start => True
  | .found webhook => KnownWebhook env before token webhook
  | .expired webhook event _ =>
      KnownWebhook env before token webhook ∧ event.deviceId = webhook.deviceId
  | .inserted webhook event _ =>
      KnownWebhook env before token webhook ∧ event.deviceId = webhook.deviceId
  | .loaded webhook device event _ =>
      KnownWebhook env before token webhook ∧ event.deviceId = webhook.deviceId ∧
        device.deviceId = webhook.deviceId ∧ (device.id, device.deviceId) ∈ deviceKeys before
  | .done _ => True

/-- The keys are those of the start, every posting is sound, and no update is lost. -/
structure IngestInvariant (before : Store) (c : IngestConfig ι) : Prop where
  admitted : c.1.Admitted env.schema
  devices : deviceKeys c.1 = deviceKeys before
  webhooks : webhookKeys c.1 = webhookKeys before
  stages : ∀ i, IngestSound env before (posted i).token (c.2 i)
  counters : CountersKept env posted before c

end

section

variable {ι : Type} [Fintype ι] [DecidableEq ι] {env : Env} {posted : ι → PostedCall}
  {before : Store} {c : IngestConfig ι} {i : ι}

omit [DecidableEq ι] in
theorem ingestInvariant_start (hadm : before.Admitted env.schema)
    (hcounts : ∀ d ∈ before.devices, d.webhookCount = storedEvents before d.deviceId) :
    IngestInvariant env posted before (before, fun _ => .start) where
  admitted := hadm
  devices := rfl
  webhooks := rfl
  stages _ := trivial
  counters :=
    { webhookCount := hcounts
      calledCount := fun w hw => ⟨w, hw, rfl, by simp [callsThrough, IngestStage.returned]⟩ }

/-- A posting that goes on without being answered is not counted. -/
theorem callsThrough_of_quiet {stage : IngestStage} {db : Store}
    (hbefore : (c.2 i).returned = false) (hstage : stage.returned = false) (tokenHash : String) :
    callsThrough env posted (db, Function.update c.2 i stage) tokenHash =
      callsThrough env posted c tokenHash := by
  unfold callsThrough
  congr 1
  refine Finset.filter_congr fun j _ => ?_
  show (Function.update c.2 i stage j).returned = true ∧ _ ↔ _
  by_cases hj : j = i
  · rw [hj, Function.update_self, hbefore, hstage]
  · rw [Function.update_of_ne hj]

/-- A posting that is answered is counted for its token. -/
theorem callsThrough_of_returned {stage : IngestStage} {db : Store}
    (hbefore : (c.2 i).returned = false) (hstage : stage.returned = true) (tokenHash : String) :
    callsThrough env posted (db, Function.update c.2 i stage) tokenHash =
      callsThrough env posted c tokenHash +
        if hashToken env (posted i).token = tokenHash then 1 else 0 := by
  have hsplit : ∀ j, (Function.update c.2 i stage j).returned = true ↔
      j = i ∨ (c.2 j).returned = true := by
    intro j
    by_cases hj : j = i
    · rw [hj, Function.update_self, hstage]
      exact iff_of_true rfl (Or.inl rfl)
    · rw [Function.update_of_ne hj]
      exact (or_iff_right hj).symm
  unfold callsThrough
  by_cases hhash : hashToken env (posted i).token = tokenHash
  · have hfilter : (Finset.univ.filter fun j => (Function.update c.2 i stage j).returned = true ∧
        hashToken env (posted j).token = tokenHash) =
        insert i (Finset.univ.filter fun j => (c.2 j).returned = true ∧
          hashToken env (posted j).token = tokenHash) := by
      ext j
      simp only [Finset.mem_filter, Finset.mem_univ, true_and, Finset.mem_insert, hsplit]
      constructor
      · rintro ⟨rfl | hj, hh⟩
        · exact Or.inl rfl
        · exact Or.inr ⟨hj, hh⟩
      · rintro (rfl | ⟨hj, hh⟩)
        · exact ⟨Or.inl rfl, hhash⟩
        · exact ⟨Or.inr hj, hh⟩
    rw [if_pos hhash, hfilter, Finset.card_insert_of_notMem]
    simp [hbefore]
  · rw [if_neg hhash, Nat.add_zero]
    congr 1
    refine Finset.filter_congr fun j _ => ?_
    rw [hsplit]
    constructor
    · rintro ⟨rfl | hj, hh⟩
      · exact absurd hh hhash
      · exact ⟨hj, hh⟩
    · rintro ⟨hj, hh⟩
      exact ⟨Or.inr hj, hh⟩

/-- A step that leaves the store alone and answers nothing. -/
theorem IngestInvariant.quiet (h : IngestInvariant env posted before c) {stage : IngestStage}
    (hsound : IngestSound env before (posted i).token stage) (hbefore : (c.2 i).returned = false)
    (hstage : stage.returned = false) :
    IngestInvariant env posted before (c.1, Function.update c.2 i stage) where
  admitted := h.admitted
  devices := h.devices
  webhooks := h.webhooks
  stages := (Function.forall_update_iff c.2 fun j stage =>
    IngestSound env before (posted j).token stage).2 ⟨hsound, fun j _ => h.stages j⟩
  counters :=
    { webhookCount := h.counters.webhookCount
      calledCount := fun w hw => by
        rw [callsThrough_of_quiet hbefore hstage]
        exact h.counters.calledCount w hw }

end

/-! ### The commit -/

section

variable {ι : Type} [Fintype ι] [DecidableEq ι] {env : Env} {posted : ι → PostedCall}
  {before : Store} {c : IngestConfig ι} {i : ι}

/-- A commit that finds the counters as they were read. -/
theorem IngestInvariant.commit (h : IngestInvariant env posted before c) {webhook : DeviceWebhook}
    {device : Device} {event : DeviceEvent} {result : IngestResult} {now : Timestamp}
    (hi : c.2 i = .loaded webhook device event result) (hread : CountsAsRead c i)
    (hadm : (calledStore c.1 webhook device event result.duplicate now).Admitted env.schema) :
    IngestInvariant env posted before (calledStore c.1 webhook device event result.duplicate now,
      Function.update c.2 i (.done (.ok result))) := by
  have hsound := h.stages i
  rw [hi] at hsound
  obtain ⟨⟨hhash, hkey⟩, hevent, hdev, hdevice⟩ := hsound
  rw [← h.webhooks] at hkey
  rw [← h.devices] at hdevice
  obtain ⟨hdeviceRead, hwebhookRead⟩ := hread webhook device event result hi
  refine ⟨hadm, deviceKeys_calledStore.trans h.devices, webhookKeys_calledStore.trans h.webhooks,
    ?_, ?_, fun w hw => ?_⟩
  · exact (Function.forall_update_iff c.2 fun j stage =>
      IngestSound env before (posted j).token stage).2 ⟨trivial, fun j _ => h.stages j⟩
  · exact webhookCount_calledStore h.admitted.2.1 h.counters.webhookCount hdevice
      (hevent.trans hdev.symm) hdeviceRead
  · obtain ⟨w', hw', hid, htoken, hcount⟩ :=
      calledCount_calledStore h.admitted.2.2.2.1 hkey hwebhookRead hw
    obtain ⟨w₀, hw₀, hid₀, hcount₀⟩ := h.counters.calledCount w' hw'
    refine ⟨w₀, hw₀, hid₀.trans hid, ?_⟩
    rw [callsThrough_of_returned (by rw [hi]; rfl) rfl, hcount, hcount₀, htoken, hhash,
      Nat.add_assoc]

omit [Fintype ι] [DecidableEq ι] in
/-- A statement that fails ends the posting, one that does not hands over what it knows. -/
theorem ingestSound_after {α : Type} {token : String} (x : Except PyError α)
    (next : α → IngestStage)
    (hnext : ∀ a, x = .ok a → IngestSound env before token (next a) ∧ (next a).returned = false) :
    IngestSound env before token (IngestStage.after x next) ∧
      (IngestStage.after x next).returned = false := by
  cases x with
  | ok a => exact hnext a rfl
  | error e => exact ⟨trivial, rfl⟩

omit [Fintype ι] [DecidableEq ι] in
/-- The insertion is of an event of the webhook's device. -/
theorem insertPosted_eq_ok {db : Store} {webhook : DeviceWebhook} {posting : IngestCall}
    {r : DeviceEvent × IngestResult} (h : insertPosted env db webhook posting = .ok r) :
    r.1.deviceId = webhook.deviceId := by
  obtain ⟨fields, -, h⟩ := bind_eq_ok.1 h
  obtain ⟨eventId, -, h⟩ := bind_eq_ok.1 h
  obtain ⟨event, hbind, h⟩ := bind_eq_ok.1 h
  obtain ⟨added, -, h⟩ := bind_eq_ok.1 h
  cases h
  exact (bindEvent_eq_ok hbind).1

omit [Fintype ι] [DecidableEq ι] in
/-- The row that is found for a token is known. -/
theorem knownWebhook_of_lookup {db : Store} {token : String} {webhook : DeviceWebhook}
    (hadm : db.Admitted env.schema) (hkeys : webhookKeys db = webhookKeys before)
    (h : lookup env db token = .ok webhook) : KnownWebhook env before token webhook := by
  obtain ⟨hw, hhash, -⟩ := (lookup_eq_ok hadm.2.2.2.1.2).1 h
  refine ⟨hhash, ?_⟩
  rw [← hkeys]
  exact List.mem_map_of_mem hw

omit [Fintype ι] [DecidableEq ι] in
/-- A known row is still known when it is loaded again, as a row of the same device. -/
theorem knownWebhook_of_reload {db : Store} {token : String} {webhook row : DeviceWebhook}
    {posting : IngestCall} (hadm : db.Admitted env.schema)
    (hkeys : webhookKeys db = webhookKeys before) (hknown : KnownWebhook env before token webhook)
    (h : heldWebhook db webhook true posting = .ok row) :
    KnownWebhook env before token row ∧ row.deviceId = webhook.deviceId := by
  obtain ⟨hhash, hkey⟩ := hknown
  have hreload := run_eq_ok h
  cases hl : Tables.lookup DeviceWebhook.id webhook.id db.deviceWebhooks with
  | none =>
      rw [hl] at hreload
      simp at hreload
  | some found =>
      rw [hl] at hreload
      obtain rfl := Except.ok.inj hreload
      obtain ⟨hrow, hid⟩ := (lookup_eq_some_iff hadm.2.2.2.1.1).1 hl
      rw [← hkeys] at hkey
      obtain ⟨hdev, htoken⟩ := eq_of_webhookKeys hadm.2.2.2.1.1 hkey hrow hid
      refine ⟨⟨htoken.trans hhash, ?_⟩, hdev⟩
      rw [← hkeys]
      exact List.mem_map_of_mem hrow

omit [DecidableEq ι] in
/-- The step of a posting that is not its commit leaves the store alone and keeps it sound. -/
theorem ingestSound_step (h : IngestInvariant env posted before c)
    (hcommit : ∀ webhook device event result, c.2 i ≠ .loaded webhook device event result)
    (hdone : ∀ answer, c.2 i ≠ .done answer) :
    (ingestStep env posted i c.1 (c.2 i)).1 = c.1 ∧
      IngestSound env before (posted i).token (ingestStep env posted i c.1 (c.2 i)).2 ∧
      (c.2 i).returned = false ∧ (ingestStep env posted i c.1 (c.2 i)).2.returned = false := by
  have hsound := h.stages i
  cases hi : c.2 i with
  | start =>
      obtain ⟨hnext, hquiet⟩ := ingestSound_after (lookup env c.1 (posted i).token) .found
        fun webhook hfound =>
          ⟨knownWebhook_of_lookup h.admitted h.webhooks hfound, rfl⟩
      exact ⟨rfl, hnext, rfl, hquiet⟩
  | found webhook =>
      rw [hi] at hsound
      obtain ⟨hnext, hquiet⟩ := ingestSound_after
        (insertPosted env c.1 webhook (posted i).call) (fun r => .added webhook r.1 r.2)
        fun r hr => by
          unfold IngestStage.added
          split
          · exact ⟨⟨hsound, insertPosted_eq_ok hr⟩, rfl⟩
          · exact ⟨⟨hsound, insertPosted_eq_ok hr⟩, rfl⟩
      exact ⟨rfl, hnext, rfl, hquiet⟩
  | expired webhook event result =>
      rw [hi] at hsound
      obtain ⟨hknown, hevent⟩ := hsound
      obtain ⟨hnext, hquiet⟩ := ingestSound_after
        (heldWebhook c.1 webhook true (posted i).call) (fun w => .inserted w event result)
        fun w hw => by
          obtain ⟨hknown', hdev⟩ := knownWebhook_of_reload h.admitted h.webhooks hknown hw
          exact ⟨⟨hknown', hevent.trans hdev.symm⟩, rfl⟩
      exact ⟨rfl, hnext, rfl, hquiet⟩
  | inserted webhook event result =>
      rw [hi] at hsound
      obtain ⟨hknown, hevent⟩ := hsound
      obtain ⟨hnext, hquiet⟩ := ingestSound_after
        ((posted i).call.run .selectDevice (WebhookService.oneDevice c.1 webhook.deviceId))
        (fun device => .loaded webhook device event result) fun device hdevice => by
          obtain ⟨hd, hdev⟩ := oneDevice_eq_ok (run_eq_ok hdevice)
          refine ⟨⟨hknown, hevent, hdev, ?_⟩, rfl⟩
          rw [← h.devices]
          exact List.mem_map_of_mem hd
      exact ⟨rfl, hnext, rfl, hquiet⟩
  | loaded webhook device event result => exact absurd hi (hcommit webhook device event result)
  | done answer => exact absurd hi (hdone answer)

/-- **Every step whose commit finds the counters as they were read keeps the invariant.** -/
theorem ingestInvariant_exec (h : IngestInvariant env posted before c) (hread : CountsAsRead c i) :
    IngestInvariant env posted before (Interleavings.exec (ingestStep env posted) c i).2 := by
  unfold Interleavings.exec
  by_cases hdone : ∃ answer, c.2 i = .done answer
  · obtain ⟨answer, hi⟩ := hdone
    have hstep : ingestStep env posted i c.1 (c.2 i) = (c.1, c.2 i) := by
      rw [hi]
      rfl
    rw [hstep, Function.update_eq_self]
    exact h
  by_cases hcommit : ∃ webhook device event result, c.2 i = .loaded webhook device event result
  · obtain ⟨webhook, device, event, result, hi⟩ := hcommit
    have hstep : ingestStep env posted i c.1 (c.2 i) = IngestStage.committed c.1 result
        (flushCall env (workingStore result.duplicate event c.1) device webhook result.duplicate
          (posted i).call) := by
      rw [hi]
      rfl
    rw [hstep]
    cases hflush : flushCall env (workingStore result.duplicate event c.1) device webhook
        result.duplicate (posted i).call with
    | error e => exact h.quiet trivial (by rw [hi]; rfl) rfl
    | ok db' =>
        obtain ⟨rfl, hadm⟩ := commit_eq_ok.1 (run_eq_ok (run_eq_ok hflush))
        exact h.commit hi hread hadm
  · obtain ⟨hstore, hsound, hbefore, hstage⟩ := ingestSound_step h
      (fun webhook device event result hi => hcommit ⟨webhook, device, event, result, hi⟩)
      (fun answer hi => hdone ⟨answer, hi⟩)
    rw [hstore]
    exact h.quiet hsound hbefore hstage

/-- **Events ingested in parallel.**  In every run in which every commit finds the counters as the
posting has read them, no update is lost: in each state every device counts its events, and every
webhook the postings through it. -/
theorem countersKept_of_countsAsRead (env : Env) (posted : ι → PostedCall) (db : Store)
    (hadm : db.Admitted env.schema)
    (hcounts : ∀ d ∈ db.devices, d.webhookCount = storedEvents db d.deviceId) (sched : List ι)
    (hread : ∀ step ∈ trace (Interleavings.exec (ingestStep env posted)) (db, fun _ => .start) sched,
      CountsAsRead step.before step.op) :
    Along (Interleavings.exec (ingestStep env posted)) (fun c _ => CountersKept env posted db c)
      (db, fun _ => .start) sched := by
  have hinv : ∀ pre, pre <+: sched → IngestInvariant env posted db
      (final (Interleavings.exec (ingestStep env posted)) (db, fun _ => .start) pre) := by
    intro pre
    induction pre using List.reverseRecOn with
    | nil => exact fun _ => ingestInvariant_start hadm hcounts
    | append_singleton pre i ih =>
        intro hpre
        rw [final_concat]
        refine ingestInvariant_exec (ih ((List.prefix_append _ _).trans hpre)) ?_
        exact hread _ ((mem_trace_iff _).2 ⟨pre, i, hpre, rfl⟩)
  exact fun pre hpre => (hinv pre hpre).counters

end

/-! ### Runs -/

/-- A device with a webhook, before its first event. -/
def oneWebhook : Store where
  devices := [{ DeviceService.newDevice (plainEnv ormSchema) Uuid.nil 0 {} with
    id := 1, deviceId := "d" }]
  deviceTunnels := []
  deviceWebhooks := [{ newWebhook (plainEnv ormSchema) "d" "t" with id := 1 }]
  deviceEvents := []
  deviceCommandLogs := []
  auditLogs := []

/-- A posting of an event with this identifier. -/
def namedPosting (eventId : String) : PostedCall where
  token := "wh_t"
  call :=
    { payload := .obj [(py "id", .str (py eventId))]
      sourceIp := none
      parsedAt := 0
      now := 0 }

/-- The events of two postings, by the worker that ingests them. -/
def twoPostings (i : Bool) : PostedCall := if i then namedPosting "b" else namedPosting "a"

/-- The second posting looks its webhook up when the first one has committed. -/
def postedInTurn : List Bool := [false, false, false, false, true, true, true, true]

/-- **The one after the other**, two postings are both counted. -/
theorem two_postings_counted :
    Along (Interleavings.exec (ingestStep (plainEnv ormSchema) twoPostings))
      (fun c _ => CountersKept (plainEnv ormSchema) twoPostings oneWebhook c)
      (oneWebhook, fun _ => .start) postedInTurn := by
  refine countersKept_of_countsAsRead (plainEnv ormSchema) twoPostings oneWebhook
    (by decide) (by decide) postedInTurn ?_
  intro step hstep webhook device event result hi
  simp only [postedInTurn, trace, List.mem_cons, List.not_mem_nil, or_false] at hstep
  rcases hstep with rfl | rfl | rfl | rfl | rfl | rfl | rfl | rfl
  · cases hi
  · cases hi
  · cases hi
  · cases hi
    exact ⟨by decide, by decide⟩
  · cases hi
  · cases hi
  · cases hi
  · cases hi
    exact ⟨by decide, by decide⟩

/-- Both postings read their rows before either commits. -/
def lostRun : IngestConfig Bool :=
  final (Interleavings.exec (ingestStep (plainEnv ormSchema) twoPostings))
    (oneWebhook, fun _ => .start) [false, true, false, true, false, true, false, true]

/-- **A lost update**: both postings are answered and both events are stored, and yet the device and
the webhook have counted one. -/
theorem update_lost :
    (∀ i, (lostRun.2 i).returned = true) ∧
      lostRun.1.devices.map Device.webhookCount = [1] ∧ storedEvents lostRun.1 "d" = 2 ∧
      lostRun.1.deviceWebhooks.map DeviceWebhook.calledCount = [1] ∧
      ¬ CountersKept (plainEnv ormSchema) twoPostings oneWebhook lostRun := by
  have hcount : lostRun.1.devices.map Device.webhookCount = [1] := by rfl
  have hstored : lostRun.1.devices.map (fun d => storedEvents lostRun.1 d.deviceId) = [2] := by rfl
  refine ⟨by decide, hcount, by rfl, by rfl, fun h => ?_⟩
  have hsame := List.map_congr_left h.webhookCount
  rw [hcount, hstored] at hsame
  simp at hsame

end SmsForwarder
