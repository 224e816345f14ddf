/-
**Identifiers of events that have none.**

An event without an identifier of the client is named by the digest of its device, its type and the
text of its body.  The text that is digested tells all three, up to the order of object keys; so two
deliveries of a device without an identifier have the same name exactly if they are the same event.

Main definitions:

* `SmsForwarder.stableEventSource` — the text that is digested;
* `SmsForwarder.delivery` — what a posting that was answered delivered;
* `SmsForwarder.Resent` — an earlier delivery of the device that has the name of a later one.

Main results:

* `SmsForwarder.stableEventSource_eq_iff` — the text tells the device, the type and the body;
* `SmsForwarder.recorded_final` — the stored names are those that postings were answered with;
* `SmsForwarder.stableEventId_deduplicates` — **a delivery without an identifier is a duplicate
  exactly if the device delivered an equal body before**, or gave the digest as an identifier itself.
-/

import SmsForwarder.IngestOutcomes
import SmsForwarder.JsonCanonical
import SmsForwarder.WebhookTokens

set_option relaxedAutoImplicit false
set_option autoImplicit false

namespace SmsForwarder

open Py Tables Runs Readings WebhookService

/-! ### The text that is digested -/

/-- `f"{device_id}|{event_type}|{source}"`. -/
def stableEventSource (env : Env) (deviceId : String) (eventType : Str) (payload : Json) : Str :=
  py deviceId ++ py "|" ++ eventType ++ py "|" ++ env.runtime.dumps payload

/-- The stored types have no bar. -/
theorem bar_notMem_of_valid {t : Str} (ht : t ∈ VALID_EVENT_TYPES) : ofChar '|' ∉ t := by
  have hall : VALID_EVENT_TYPES.all (fun t => t.all fun p => p ≠ ofChar '|') = true := by decide
  intro hbar
  have := List.all_eq_true.1 (List.all_eq_true.1 hall t ht) _ hbar
  simp at this

theorem bar_notMem_py {s : String} (hs : '|' ∉ s.toList) : ofChar '|' ∉ py s := by
  intro hbar
  obtain ⟨c, hc, heq⟩ := List.mem_map.1 hbar
  have hchar := congrArg toChar? heq
  rw [toChar?_ofChar, toChar?_ofChar, Option.some.injEq] at hchar
  exact hs (hchar ▸ hc)

/-- What comes before the first bar is told. -/
theorem append_inj_of_bar {s t r r' : Str} (hs : ofChar '|' ∉ s) (ht : ofChar '|' ∉ t)
    (h : s ++ ofChar '|' :: r = t ++ ofChar '|' :: r') : s = t ∧ r = r' := by
  obtain ⟨hst, hrest⟩ := append_inj_of_ends (p := fun p => p = ofChar '|')
    (fun p hp heq => hs (heq ▸ hp)) (fun p hp heq => ht (heq ▸ hp)) (ends_cons.2 rfl)
    (ends_cons.2 rfl) h
  exact ⟨hst, (List.cons.inj hrest).2⟩

/-- The text that is digested, up to the bars. -/
theorem stableEventSource_cons (env : Env) (d : String) (t : Str) (v : Json) :
    stableEventSource env d t v =
      py d ++ ofChar '|' :: (t ++ ofChar '|' :: env.runtime.dumps v) := by
  have hbar : py "|" = [ofChar '|'] := rfl
  unfold stableEventSource
  rw [hbar]
  simp

section

variable {env : Env} {d d' : String} {t t' : Str} {v v' : Json}

/-- For one device, the text that is digested tells the type and the body. -/
theorem stableEventSource_eq_iff_of_device (hfmt : FloatFormat env.runtime)
    (ht : t ∈ VALID_EVENT_TYPES) (ht' : t' ∈ VALID_EVENT_TYPES) (hv : v.Wellformed)
    (hv' : v'.Wellformed) :
    stableEventSource env d t v = stableEventSource env d t' v' ↔ t = t' ∧ v.Equiv v' := by
  rw [stableEventSource_cons, stableEventSource_cons, List.append_cancel_left_eq, List.cons.injEq,
    ← Runtime.dumps_eq_iff hfmt hv hv']
  constructor
  · rintro ⟨-, h⟩
    exact append_inj_of_bar (bar_notMem_of_valid ht) (bar_notMem_of_valid ht') h
  · rintro ⟨rfl, h⟩
    exact ⟨rfl, by rw [h]⟩

/-- The text that is digested tells the device, the type and the body. -/
theorem stableEventSource_eq_iff (hfmt : FloatFormat env.runtime) (hd : '|' ∉ d.toList)
    (hd' : '|' ∉ d'.toList) (ht : t ∈ VALID_EVENT_TYPES) (ht' : t' ∈ VALID_EVENT_TYPES)
    (hv : v.Wellformed) (hv' : v'.Wellformed) :
    stableEventSource env d t v = stableEventSource env d' t' v' ↔
      d = d' ∧ t = t' ∧ v.Equiv v' := by
  constructor
  · intro h
    have hdev : d = d' := by
      rw [stableEventSource_cons, stableEventSource_cons] at h
      exact py_inj.1 (append_inj_of_bar (bar_notMem_py hd) (bar_notMem_py hd') h).1
    subst hdev
    exact ⟨rfl, (stableEventSource_eq_iff_of_device hfmt ht ht' hv hv').1 h⟩
  · rintro ⟨rfl, h⟩
    exact (stableEventSource_eq_iff_of_device hfmt ht ht' hv hv').2 h

end

/-- The stored types are valid. -/
theorem storedType_valid (declared : Str) : storedType declared ∈ VALID_EVENT_TYPES := by
  have hdefault : py "notification" ∈ VALID_EVENT_TYPES := by decide
  unfold storedType
  split
  · assumption
  · exact hdefault

/-! ### The type of an equal body -/

/-- **What is assumed of the text of a container** that is not empty: in lower case it is none of the
valid types, since it starts with a bracket. -/
def ContainerFormat (rt : Runtime) : Prop := ∀ v, rt.lower (rt.containerStr v) ∉ VALID_EVENT_TYPES

section

variable {v v' w w' : Json} {kvs kvs' : List (Str × Json)}

/-- Equal trees have the same truth value. -/
theorem truthy_of_equiv (h : v.Equiv v') : v.truthy = v'.truthy := by
  cases v with
  | arr xs =>
      cases v' with
      | arr ys =>
          rw [Json.equiv_arr] at h
          cases h <;> rfl
      | _ => simp [Json.Equiv] at h
  | obj kvs =>
      cases v' with
      | obj kvs' =>
          have hlen := (Json.equiv_obj.1 h).1
          unfold Json.truthy
          cases kvs <;> cases kvs' <;> simp at hlen ⊢
      | _ => simp [Json.Equiv] at h
  | _ => cases v' <;> simp_all [Json.Equiv]

theorem orElse_of_equiv (h : v.Equiv v') (hw : w.Equiv w') :
    (v.orElse w).Equiv (v'.orElse w') := by
  unfold Json.orElse
  rw [truthy_of_equiv h]
  split
  · exact h
  · exact hw

/-- The values of a key of equal objects are equal. -/
theorem get_of_equiv (hkeys : (kvs.map Prod.fst).Nodup) (hkeys' : (kvs'.map Prod.fst).Nodup)
    (h : (Json.obj kvs).Equiv (.obj kvs')) (k : Str) :
    (Json.get kvs k).Equiv (Json.get kvs' k) := by
  obtain ⟨hlen, hsame⟩ := Json.equiv_obj.1 h
  have hsub : kvs.map Prod.fst ⊆ kvs'.map Prod.fst := by
    intro key hkey
    obtain ⟨kv, hkv, rfl⟩ := List.mem_map.1 hkey
    obtain ⟨kv', hkv', heq, -⟩ := hsame kv hkv
    exact List.mem_map.2 ⟨kv', hkv', heq⟩
  have hperm : (kvs.map Prod.fst).Perm (kvs'.map Prod.fst) := by
    refine (hkeys.subperm hsub).perm_of_length_le ?_
    rw [List.length_map, List.length_map, hlen]
  unfold Json.get
  cases hf : kvs.find? fun kv => kv.1 = k with
  | none =>
      have habsent : k ∉ kvs'.map Prod.fst := by
        rw [← hperm.mem_iff]
        intro hk
        obtain ⟨kv, hkv, heq⟩ := List.mem_map.1 hk
        exact absurd heq (by simpa using List.find?_eq_none.1 hf kv hkv)
      have hf' : kvs'.find? (fun kv => kv.1 = k) = none := by
        rw [List.find?_eq_none]
        intro kv hkv heq
        exact habsent (List.mem_map.2 ⟨kv, hkv, of_decide_eq_true heq⟩)
      rw [hf']
      trivial
  | some kv =>
      have hkv : kv ∈ kvs ∧ kv.1 = k :=
        ⟨List.mem_of_find?_eq_some hf, by simpa using List.find?_some hf⟩
      obtain ⟨kv', hkv', heq, hvalue⟩ := hsame kv hkv.1
      have hunique : UniqueKey Prod.fst kvs' := hkeys'
      have hf' : kvs'.find? (fun kv => kv.1 = k) = some kv' :=
        (lookup_eq_some_iff hunique).2 ⟨hkv', heq.trans hkv.2⟩
      rw [hf']
      exact hvalue

/-- Equal bodies agree on whether the client gave an identifier. -/
theorem truthy_clientId_of_equiv (hkvs : (Json.obj kvs).Wellformed)
    (hkvs' : (Json.obj kvs').Wellformed) (h : (Json.obj kvs).Equiv (.obj kvs')) :
    (clientId kvs).truthy = (clientId kvs').truthy := by
  have hget := get_of_equiv (Json.wellformed_obj.1 hkvs).1 (Json.wellformed_obj.1 hkvs').1 h
  exact truthy_of_equiv (orElse_of_equiv (hget _) (hget _))

/-- The type that is stored for the text of a value does not depend on the order of keys. -/
theorem storedType_str_of_equiv {rt : Runtime} (hcontainer : ContainerFormat rt)
    (h : v.Equiv v') : storedType (rt.lower (rt.str v)) = storedType (rt.lower (rt.str v')) := by
  have hother : ∀ v, storedType (rt.lower (rt.containerStr v)) = py "notification" :=
    fun v => if_neg (hcontainer v)
  cases v with
  | arr xs =>
      cases v' with
      | arr ys =>
          rw [Json.equiv_arr] at h
          cases h with
          | nil => rfl
          | cons _ _ => exact (hother _).trans (hother _).symm
      | _ => simp [Json.Equiv] at h
  | obj kvs =>
      cases v' with
      | obj kvs' =>
          have hlen := (Json.equiv_obj.1 h).1
          cases kvs with
          | nil =>
              rw [List.length_nil, eq_comm, List.length_eq_zero_iff] at hlen
              rw [hlen]
          | cons kv kvs =>
              cases kvs' with
              | nil => simp at hlen
              | cons kv' kvs' => exact (hother _).trans (hother _).symm
      | _ => simp [Json.Equiv] at h
  | _ => cases v' <;> simp_all [Json.Equiv]

/-- Equal bodies are stored with the same type. -/
theorem storedType_of_equiv {rt : Runtime} (hcontainer : ContainerFormat rt)
    (hkvs : (Json.obj kvs).Wellformed) (hkvs' : (Json.obj kvs').Wellformed)
    (h : (Json.obj kvs).Equiv (.obj kvs')) :
    storedType (declaredType rt kvs) = storedType (declaredType rt kvs') := by
  have hget := get_of_equiv (Json.wellformed_obj.1 hkvs).1 (Json.wellformed_obj.1 hkvs').1 h
  exact storedType_str_of_equiv hcontainer
    (orElse_of_equiv (hget _) (orElse_of_equiv (hget _) rfl))

end

/-! ### Deliveries -/

/-- What a posting that was answered delivered: for which device, the fields of the body, and the
answer. -/
structure Delivery where
  deviceId : String
  fields : List (Str × Json)
  result : IngestResult

/-- The delivery of an executed call. -/
def delivery (c : WebhookCall) : Option Delivery :=
  match c.op, answeredPosting c with
  | .ingest _ posting, some (w, r) =>
      match posting.payload with
      | .obj fields => some ⟨w.deviceId, fields, r⟩
      | _ => none
  | _, _ => none

/-- The body of a posting is a value that `json.loads` returns. -/
def WebhookOp.WellformedBody : WebhookOp → Prop
  | .ingest _ posting => posting.payload.Wellformed
  | _ => True

/-- The identifier that a delivery is stored under. -/
def deliveredId (env : Env) (deviceId : String) (fields : List (Str × Json)) :
    Except PyError Json :=
  if (clientId fields).truthy then .ok (clientId fields)
  else stableEventId env deviceId (storedType (declaredType env.runtime fields)) (.obj fields)

/-- **An earlier delivery has the name of a later one**: it is of the same device and either has an
identifier that is stored as the later one's, or has no identifier and an equal body. -/
def Resent (env : Env) (earlier later : Delivery) : Prop :=
  earlier.deviceId = later.deviceId ∧
    if (clientId earlier.fields).truthy = true then
      env.driver.bindText (clientId earlier.fields) = env.driver.bindText later.result.eventId
    else (Json.obj earlier.fields).Equiv (.obj later.fields)

section

variable {env : Env} {db : Store}

/-- All that is said of a delivery and done to the stored names. -/
structure Delivered (env : Env) (c : WebhookCall) (d : Delivery) : Prop where
  body : c.op.WellformedBody → (Json.obj d.fields).Wellformed
  named : deliveredId env d.deviceId d.fields = .ok d.result.eventId
  stored : ∃ text, env.driver.bindText d.result.eventId = some text ∧
    (d.result.duplicate = true ↔ Recorded c.before d.deviceId text) ∧
    ∀ deviceId text', Recorded c.after deviceId text' ↔
      Recorded c.before deviceId text' ∨ (deviceId = d.deviceId ∧ text' = text)

/-- The names that are stored with one event more. -/
theorem recorded_insertEvent {event : DeviceEvent} {deviceId text : String} :
    Recorded (db.insertEvent event) deviceId text ↔
      Recorded db deviceId text ∨ (deviceId = event.deviceId ∧ text = event.eventId) := by
  unfold Recorded Store.insertEvent
  constructor
  · rintro ⟨e, he, hdev, hid⟩
    rcases List.mem_append.1 he with he | he
    · exact Or.inl ⟨e, he, hdev, hid⟩
    · rw [List.mem_singleton] at he
      subst he
      exact Or.inr ⟨hdev.symm, hid.symm⟩
  · rintro (⟨e, he, hdev, hid⟩ | ⟨rfl, rfl⟩)
    · exact ⟨e, List.mem_append_left _ he, hdev, hid⟩
    · exact ⟨_, List.mem_append_right _ List.mem_cons_self, rfl, rfl⟩

/-- A posting that is answered delivers. -/
theorem delivered_of_ingest {webhookId : ℕ} {posting : IngestCall} {webhook : DeviceWebhook}
    {r : Store × IngestResult} (hadm : db.Admitted env.schema)
    (hload : loadWebhook db webhookId = .ok webhook)
    (hok : WebhookService.ingest env db webhook posting = .ok r) :
    ∃ d, delivery ⟨db, .ingest webhookId posting, .ok (.ingested r.2), r.1⟩ = some d ∧
      Delivered env ⟨db, .ingest webhookId posting, .ok (.ingested r.2), r.1⟩ d := by
  obtain ⟨hw, hid⟩ := (loadWebhook_eq_ok hadm.2.2.2.1.1).1 hload
  obtain ⟨fields, event, hpayload, hbind, -, hdup, device, -, -, hdb, -⟩ := ingest_eq_ok hadm hw hok
  obtain ⟨hdev, htext, -⟩ := bindEvent_eq_ok hbind
  have hlookup : Tables.lookup DeviceWebhook.id webhookId db.deviceWebhooks = some webhook :=
    (lookup_eq_some_iff hadm.2.2.2.1.1).2 ⟨hw, hid⟩
  have hdelivery : delivery ⟨db, .ingest webhookId posting, .ok (.ingested r.2), r.1⟩ =
      some ⟨webhook.deviceId, fields, r.2⟩ := by
    unfold delivery answeredPosting
    simp only [hlookup, Option.map_some, hpayload]
  refine ⟨_, hdelivery, ?_, ?_, event.eventId, htext, ?_, ?_⟩
  · intro hbody
    rw [← hpayload]
    exact hbody
  · exact eventIdOf_of_ingest hok hpayload
  · rw [hdup, hdev]
  · intro deviceId text'
    show Recorded r.1 deviceId text' ↔ Recorded db deviceId text' ∨ _
    have hafter : Recorded r.1 deviceId text' ↔
        Recorded (if r.2.duplicate then db else db.insertEvent event) deviceId text' := by
      rw [hdb]
      exact Iff.rfl
    rw [hafter]
    by_cases hd : r.2.duplicate = true
    · rw [if_pos hd]
      refine ⟨Or.inl, ?_⟩
      rintro (h | ⟨rfl, rfl⟩)
      · exact h
      · exact hdev ▸ hdup.1 hd
    · rw [if_neg hd, recorded_insertEvent, hdev]

/-- **What a call does to the stored names**: nothing, unless it is a posting that is answered. -/
theorem delivered_exec (op : WebhookOp) (hadm : db.Admitted env.schema) :
    let c := call (WebhookOp.exec env) db op
    (delivery c = none ∧ ∀ deviceId text,
        Recorded c.after deviceId text ↔ Recorded db deviceId text) ∨
      ∃ d, delivery c = some d ∧ Delivered env c d := by
  intro c
  rcases WebhookOp.call_cases env db op with ⟨db', answer, hr, hcall⟩ | ⟨e, hr, hcall⟩
  · have hc : c = ⟨db, op, .ok answer, db'⟩ := hcall
    rw [hc]
    cases op with
    | register uuid nonce payload =>
        obtain ⟨r, hok, hrd⟩ := map_eq_ok.1 hr
        cases hrd
        refine Or.inl ⟨rfl, fun deviceId text => ?_⟩
        rw [(DeviceService.create_eq_ok hok).1]
        exact Iff.rfl
    | create deviceId secret =>
        obtain ⟨r, hok, hrd⟩ := map_eq_ok.1 hr
        cases hrd
        refine Or.inl ⟨rfl, fun deviceId text => ?_⟩
        rw [(create_eq_ok hok).2.1]
        exact Iff.rfl
    | rotate deviceId secret =>
        obtain ⟨r, hok, hrd⟩ := map_eq_ok.1 hr
        cases hrd
        refine Or.inl ⟨rfl, fun deviceId text => ?_⟩
        rw [(rotate_eq_ok hadm.2.2.2.1.1 hok).2.1]
        exact Iff.rfl
    | ingest webhookId posting =>
        obtain ⟨webhook, hload, hr⟩ := bind_eq_ok.1 hr
        obtain ⟨r, hok, hr⟩ := bind_eq_ok.1 hr
        cases hr
        exact Or.inr (delivered_of_ingest hadm hload hok)
  · -- a failed call leaves the store alone
    have hc : c = ⟨db, op, .error e, db⟩ := hcall
    rw [hc]
    exact Or.inl ⟨by cases op <;> rfl, fun _ _ => Iff.rfl⟩

/-- The stored names are those that postings of the run were answered with. -/
theorem recorded_final (env : Env) (ops : List WebhookOp) :
    (final (WebhookOp.exec env) Store.empty ops).Admitted env.schema ∧
      (∀ c ∈ trace (WebhookOp.exec env) Store.empty ops, ∀ d, delivery c = some d →
        Delivered env c d) ∧
      ∀ deviceId text, Recorded (final (WebhookOp.exec env) Store.empty ops) deviceId text ↔
        ∃ c ∈ trace (WebhookOp.exec env) Store.empty ops, ∃ d, delivery c = some d ∧
          d.deviceId = deviceId ∧ env.driver.bindText d.result.eventId = some text := by
  refine run_induction (WebhookOp.exec env)
    (P := fun db tr => db.Admitted env.schema ∧
      (∀ c ∈ tr, ∀ d, delivery c = some d → Delivered env c d) ∧
      ∀ deviceId text, Recorded db deviceId text ↔ ∃ c ∈ tr, ∃ d, delivery c = some d ∧
        d.deviceId = deviceId ∧ env.driver.bindText d.result.eventId = some text)
    ⟨Store.admitted_empty env.schema, by simp, by simp [Recorded, Store.empty]⟩ ?_ ops
  intro db tr op hI
  obtain ⟨hadm, hdelivered, hnames⟩ := hI
  have hadm' := (credentials_exec op hadm).1
  simp only [List.mem_append, List.mem_singleton, or_imp, forall_and, forall_eq, or_and_right,
    exists_or, exists_eq_left]
  rcases delivered_exec op hadm with ⟨hnone, hkeep⟩ | ⟨d, hd, hdel⟩
  · refine ⟨hadm', ⟨hdelivered, by simp [hnone]⟩, fun deviceId text => ?_⟩
    rw [← hnames]
    refine (hkeep deviceId text).trans ?_
    simp [hnone]
  · refine ⟨hadm', ⟨hdelivered, by rw [hd]; rintro _ ⟨⟩; exact hdel⟩, fun deviceId text => ?_⟩
    obtain ⟨text', htext', -, hafter⟩ := hdel.stored
    rw [← hnames]
    refine (hafter deviceId text).trans (or_congr Iff.rfl ?_)
    simp only [hd, Option.some.injEq, exists_eq_left', htext']
    constructor
    · rintro ⟨rfl, rfl⟩
      exact ⟨rfl, rfl⟩
    · rintro ⟨rfl, rfl⟩
      exact ⟨rfl, rfl⟩

/-! ### Deliveries without an identifier -/

/-- The name of a delivery without an identifier. -/
theorem bindText_of_stable {deviceId : String} {fields : List (Str × Json)} {eventId : Json}
    (hclient : (clientId fields).truthy = false)
    (h : deliveredId env deviceId fields = .ok eventId) :
    ∃ source, stableEventSource env deviceId (storedType (declaredType env.runtime fields))
        (.obj fields) = py source ∧
      env.driver.bindText eventId = some (env.sha256Hex source) := by
  unfold deliveredId at h
  rw [hclient, if_neg (by decide)] at h
  unfold stableEventId at h
  split at h
  · rename_i source hsource
    rw [← Except.ok.inj h]
    exact ⟨source, encode_eq_some_iff.1 hsource, by rw [env.driver.bindText_str, encode_py]⟩
  · simp at h

/-- **Two deliveries of a device without an identifier** have the same name exactly if their bodies
are equal. -/
theorem bindText_eq_iff_equiv (hfmt : FloatFormat env.runtime)
    (hcontainer : ContainerFormat env.runtime) (hdigest : Function.Injective env.sha256Hex)
    {deviceId : String} {fields fields' : List (Str × Json)} {eventId eventId' : Json}
    (hv : (Json.obj fields).Wellformed) (hv' : (Json.obj fields').Wellformed)
    (hclient : (clientId fields).truthy = false) (hclient' : (clientId fields').truthy = false)
    (h : deliveredId env deviceId fields = .ok eventId)
    (h' : deliveredId env deviceId fields' = .ok eventId') :
    env.driver.bindText eventId = env.driver.bindText eventId' ↔
      (Json.obj fields).Equiv (.obj fields') := by
  obtain ⟨source, hsource, htext⟩ := bindText_of_stable hclient h
  obtain ⟨source', hsource', htext'⟩ := bindText_of_stable hclient' h'
  rw [htext, htext', Option.some.injEq, hdigest.eq_iff, ← py_inj, ← hsource, ← hsource',
    stableEventSource_eq_iff_of_device hfmt (storedType_valid _) (storedType_valid _) hv hv']
  exact ⟨And.right, fun heq => ⟨storedType_of_equiv hcontainer hv hv' heq, heq⟩⟩

/-- What was delivered in a run are values that `json.loads` returns, if the bodies are. -/
theorem wellformed_of_delivery {ops : List WebhookOp} (hbodies : ∀ op ∈ ops, op.WellformedBody)
    {c : WebhookCall} (hc : c ∈ trace (WebhookOp.exec env) Store.empty ops) {d : Delivery}
    (hd : delivery c = some d) : (Json.obj d.fields).Wellformed := by
  have hop : c.op ∈ ops := by
    rw [← map_op_trace (WebhookOp.exec env) Store.empty ops]
    exact List.mem_map_of_mem hc
  exact ((recorded_final env ops).2.1 c hc d hd).body (hbodies c.op hop)

/-- In every run, a delivery without an identifier is a duplicate exactly if an earlier delivery has
its name. -/
theorem duplicate_iff_resent (hfmt : FloatFormat env.runtime)
    (hcontainer : ContainerFormat env.runtime) (hdigest : Function.Injective env.sha256Hex)
    {ops : List WebhookOp} {op : WebhookOp} (hbodies : ∀ op' ∈ ops ++ [op], op'.WellformedBody)
    {d : Delivery}
    (hd : delivery (call (WebhookOp.exec env) (final (WebhookOp.exec env) Store.empty ops) op) =
      some d) (hclient : (clientId d.fields).truthy = false) :
    d.result.duplicate = true ↔ ∃ c ∈ trace (WebhookOp.exec env) Store.empty ops, ∃ d',
      delivery c = some d' ∧ Resent env d' d := by
  obtain ⟨hadm, hdelivered, hnames⟩ := recorded_final env ops
  rcases delivered_exec op hadm with ⟨hnone, -⟩ | ⟨d₂, hd₂, hdel⟩
  · rw [hd] at hnone
    simp at hnone
  obtain rfl : d = d₂ := by
    rw [hd] at hd₂
    exact Option.some.inj hd₂
  obtain ⟨text, htext, hdup, -⟩ := hdel.stored
  rw [hdup, call_before, hnames, ← htext]
  refine exists_congr fun c => and_congr_right fun hc => exists_congr fun d' =>
    and_congr_right fun hd' => and_congr_right fun hdev => ?_
  have hdel' := hdelivered c hc d' hd'
  by_cases hclient' : (clientId d'.fields).truthy = true
  · have hid : d'.result.eventId = clientId d'.fields := by
      have hnamed := hdel'.named
      unfold deliveredId at hnamed
      rw [if_pos hclient'] at hnamed
      exact (Except.ok.inj hnamed).symm
    rw [if_pos hclient', hid]
  · rw [if_neg hclient']
    rw [Bool.not_eq_true] at hclient'
    exact bindText_eq_iff_equiv hfmt hcontainer hdigest
      (wellformed_of_delivery (fun op' h => hbodies op' (List.mem_append_left _ h)) hc hd')
      (hdel.body (hbodies op (List.mem_append_right _ List.mem_cons_self))) hclient' hclient
      hdel'.named (hdev ▸ hdel.named)

end

/-- **Events without an identifier.**  The text that is digested tells the device, the type and the
body, up to the order of object keys.  In every run, a delivery without an identifier is a duplicate
exactly if the device delivered an equal body before, or gave the digest itself as the identifier of
an event; so without such an identifier, exactly if it delivered an equal body before. -/
theorem stableEventId_deduplicates (env : Env) (hfmt : FloatFormat env.runtime) :
    (∀ (d d' : String) (t t' : Str) (v v' : Json), '|' ∉ d.toList → '|' ∉ d'.toList →
      t ∈ VALID_EVENT_TYPES → t' ∈ VALID_EVENT_TYPES → v.Wellformed → v'.Wellformed →
      (stableEventSource env d t v = stableEventSource env d' t' v' ↔
        d = d' ∧ t = t' ∧ v.Equiv v')) ∧
    (ContainerFormat env.runtime → Function.Injective env.sha256Hex →
      ∀ ops op, (∀ op' ∈ ops ++ [op], op'.WellformedBody) → ∀ d,
        delivery (call (WebhookOp.exec env) (final (WebhookOp.exec env) Store.empty ops) op) =
          some d →
        (clientId d.fields).truthy = false →
        (d.result.duplicate = true ↔ ∃ c ∈ trace (WebhookOp.exec env) Store.empty ops, ∃ d',
          delivery c = some d' ∧ Resent env d' d) ∧
        ((∀ c ∈ trace (WebhookOp.exec env) Store.empty ops, ∀ d', delivery c = some d' →
            (clientId d'.fields).truthy = true →
            env.driver.bindText (clientId d'.fields) ≠ env.driver.bindText d.result.eventId) →
          (d.result.duplicate = true ↔ ∃ c ∈ trace (WebhookOp.exec env) Store.empty ops, ∃ d',
            delivery c = some d' ∧ d'.deviceId = d.deviceId ∧
              (Json.obj d'.fields).Equiv (.obj d.fields)))) := by
  refine ⟨fun d d' t t' v v' hd hd' ht ht' hv hv' =>
    stableEventSource_eq_iff hfmt hd hd' ht ht' hv hv', ?_⟩
  intro hcontainer hdigest ops op hbodies d hd hclient
  have hiff := duplicate_iff_resent hfmt hcontainer hdigest hbodies hd hclient
  refine ⟨hiff, fun hnames => hiff.trans ?_⟩
  have hv : (Json.obj d.fields).Wellformed := by
    have hlast : call (WebhookOp.exec env) (final (WebhookOp.exec env) Store.empty ops) op ∈
        trace (WebhookOp.exec env) Store.empty (ops ++ [op]) := by
      rw [trace_concat]
      exact List.mem_append_right _ List.mem_cons_self
    exact wellformed_of_delivery hbodies hlast hd
  refine exists_congr fun c => and_congr_right fun hc => exists_congr fun d' =>
    and_congr_right fun hd' => and_congr_right fun _ => ?_
  have hv' : (Json.obj d'.fields).Wellformed :=
    wellformed_of_delivery (fun op' h => hbodies op' (List.mem_append_left _ h)) hc hd'
  by_cases hclient' : (clientId d'.fields).truthy = true
  · rw [if_pos hclient']
    refine iff_of_false (hnames c hc d' hd' hclient') fun heq => ?_
    rw [truthy_clientId_of_equiv hv' hv heq, hclient] at hclient'
    simp at hclient'
  · rw [if_neg hclient']

/-! ### Deliveries at work -/

/-- A runtime that writes a float as its significand and its exponent. -/
def significandRuntime : Runtime :=
  { asciiRuntime with
    floatRepr := fun neg m e => intStr (if neg then -(m : ℤ) else m) ++ py "e" ++ intStr e }

theorem floatFormat_significandRuntime : FloatFormat significandRuntime := by
  have htext : ∀ neg m e, significandRuntime.floatRepr neg (m + 1) e =
      intStr (if neg then -((m + 1 : ℕ) : ℤ) else ((m + 1 : ℕ) : ℤ)) ++ ofChar 'e' :: intStr e := by
    intro neg m e
    show _ ++ py "e" ++ intStr e = _
    rw [List.append_assoc]
    rfl
  have hmark : ∀ neg m e, ofChar 'e' ∈ significandRuntime.floatRepr neg (m + 1) e := by
    intro neg m e
    rw [htext]
    exact List.mem_append_right _ List.mem_cons_self
  have hint : ∀ z, ofChar 'e' ∉ intStr z := by
    intro z h
    exact absurd ((intStr_chars z).2 _ h) (by decide)
  have hfloat : ∀ p, intChar p = true → floatChar p = true := by
    intro p hp
    unfold intChar at hp
    unfold floatChar
    rw [Bool.or_eq_true, decide_eq_true_eq] at hp ⊢
    refine hp.imp id fun heq => ?_
    rw [heq]
    exact List.mem_cons_of_mem _ List.mem_cons_self
  refine ⟨fun neg m e => ?_, fun neg m e p hp => ?_, fun neg m e => ⟨_, hmark neg m e, by decide⟩,
    fun neg m e => ⟨fun h => ?_, fun h => ?_⟩, fun neg neg' m m' e e' _ _ h => ?_⟩
  · obtain ⟨⟨p, s, hs⟩, hchars⟩ := intStr_chars (if neg then -((m + 1 : ℕ) : ℤ) else (m + 1 : ℕ))
    rw [htext, hs]
    exact ⟨p, _, rfl, hchars p (by rw [hs]; exact List.mem_cons_self)⟩
  · rw [htext] at hp
    rcases List.mem_append.1 hp with hp | hp
    · exact hfloat p ((intStr_chars _).2 p hp)
    · rcases List.mem_cons.1 hp with rfl | hp
      · decide
      · exact hfloat p ((intStr_chars _).2 p hp)
  · have := hmark neg m e
    rw [h] at this
    exact absurd this (by decide)
  · have := hmark neg m e
    rw [h] at this
    exact absurd this (by decide)
  · rw [htext, htext] at h
    obtain ⟨hz, he⟩ := append_inj_of_ends (p := fun p => p = ofChar 'e')
      (fun p hp heq => hint _ (heq ▸ hp)) (fun p hp heq => hint _ (heq ▸ hp)) (ends_cons.2 rfl)
      (ends_cons.2 rfl) h
    have hexp := intStr_injective (List.cons.inj he).2
    have hsig := intStr_injective hz
    cases neg with
    | true =>
        cases neg' with
        | true => exact ⟨rfl, by simp at hsig; omega, hexp⟩
        | false => exfalso; simp at hsig; omega
    | false =>
        cases neg' with
        | true => exfalso; simp at hsig; omega
        | false => exact ⟨rfl, by simp at hsig; omega, hexp⟩

/-- The digests of a token and of a delivered text; other digests do not matter. -/
def deliveryDigest (s : String) : String :=
  if s = "wh_first-one" then "414d0b6e8326eb2e6b1ca16546e75a5c60efc1afaa62992bc68845edaa07c8b2"
  else if s = "dev_000000000000000000000000|sms|\x7b\"text\": \"hi\", \"type\": \"sms\"\x7d" then
    "e0abb09fed848c684e8887c208505ca118e56b88a58f640f71c038ee0ea1d02d"
  else "#" ++ s

theorem deliveryDigest_injective : Function.Injective deliveryDigest := by
  intro s s' h
  have hhead : ∀ s, ("#" ++ s).toList.head? = some '#' := by
    intro s
    rw [String.toList_append]
    rfl
  have hother : ∀ s t : String, t.toList.head? ≠ some '#' → t ≠ "#" ++ s := by
    rintro s _ ht rfl
    exact ht (hhead s)
  unfold deliveryDigest at h
  split_ifs at h with h₁ h₂ h₃ h₄ h₅ h₆
  · rw [h₁, h₂]
  · exact absurd h (by decide)
  · exact absurd h (hother _ _ (by decide))
  · exact absurd h (by decide)
  · rw [h₄, h₆]
  · exact absurd h (hother _ _ (by decide))
  · exact absurd h.symm (hother _ _ (by decide))
  · exact absurd h.symm (hother _ _ (by decide))
  · exact (String.append_right_inj _).1 h

def deliveryEnv : Env :=
  { plainEnv ormSchema with runtime := significandRuntime, sha256Hex := deliveryDigest }

/-- A posting of a body with a type and a text. -/
def smsPosting (fields : List (Str × Json)) : WebhookOp :=
  .ingest 1 { payload := .obj fields, sourceIp := none, parsedAt := 0, now := 0 }

def typeFirst : List (Str × Json) := [(py "type", .str (py "sms")), (py "text", .str (py "hi"))]

def textFirst : List (Str × Json) := [(py "text", .str (py "hi")), (py "type", .str (py "sms"))]

/-- A device with a webhook that posted once. -/
def deliveryOps : List WebhookOp :=
  [.register Uuid.nil 0 {}, .create "dev_000000000000000000000000" "first-one",
    smsPosting typeFirst]

/-- The delivery of the same body with its fields in another order. -/
def secondDelivery : Delivery where
  deviceId := "dev_000000000000000000000000"
  fields := textFirst
  result :=
    { duplicate := true
      eventId := .str (py "e0abb09fed848c684e8887c208505ca118e56b88a58f640f71c038ee0ea1d02d")
      eventType := py "sms" }

/-- A body that is sent again, with its fields in another order. -/
theorem reordered_deduplicated :
    (stableEventSource deliveryEnv "a" (py "sms") (.obj typeFirst) =
        stableEventSource deliveryEnv "a" (py "sms") (.obj textFirst) ↔
      "a" = "a" ∧ py "sms" = py "sms" ∧ (Json.obj typeFirst).Equiv (.obj textFirst)) ∧
    (secondDelivery.result.duplicate = true ↔
      ∃ c ∈ trace (WebhookOp.exec deliveryEnv) Store.empty deliveryOps, ∃ d',
        delivery c = some d' ∧ Resent deliveryEnv d' secondDelivery) := by
  have htype : (Json.obj typeFirst).Wellformed :=
    Json.wellformed_obj.2 ⟨by decide, by simp [typeFirst, Json.Wellformed]⟩
  have htext : (Json.obj textFirst).Wellformed :=
    Json.wellformed_obj.2 ⟨by decide, by simp [textFirst, Json.Wellformed]⟩
  obtain ⟨hsource, hruns⟩ := stableEventId_deduplicates deliveryEnv floatFormat_significandRuntime
  refine ⟨hsource "a" "a" (py "sms") (py "sms") (.obj typeFirst) (.obj textFirst) (by decide)
    (by decide) (by decide) (by decide) htype htext, ?_⟩
  have hcontainer : (py "\x7b...\x7d").map asciiLower ∉ VALID_EVENT_TYPES := by decide
  refine (hruns (fun _ => hcontainer) deliveryDigest_injective deliveryOps (smsPosting textFirst) ?_
    secondDelivery (by rfl) (by rfl)).1
  intro op hop
  simp only [deliveryOps, List.cons_append, List.nil_append, List.mem_cons, List.not_mem_nil,
    or_false] at hop
  rcases hop with rfl | rfl | rfl | rfl
  · trivial
  · trivial
  · exact htype
  · exact htext

end SmsForwarder
