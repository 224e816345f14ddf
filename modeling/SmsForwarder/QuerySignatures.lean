/-
**The signatures of queries.**

The operator gives a device a secret when it is created or updated; the server keeps the secret
encrypted, and signs with it what it posts to the device.  This module follows the secret through
the runs of the API: whatever happens in between, a query is posted to the `base_url` that the API
shows, and signed with the secret that the operator gave last.  A secret that was given stays until
another one is: an update without one, or with an empty one, leaves it.

Main definitions:

* `SmsForwarder.givenSecret`, `SmsForwarder.operatorSecret` — the secret in a body, and the last one
  that a run has given a device;
* `SmsForwarder.SecretsKept` — what the tables hold of the secrets.

Main results:

* `SmsForwarder.secretsKept_effect` — each effect stores the secret that it was given;
* `SmsForwarder.queries_signed` — **a query is posted to the address that the API shows, and signed
  with the secret that the operator gave last.**
-/

import SmsForwarder.DeviceRecords
import SmsForwarder.Encodings

set_option relaxedAutoImplicit false
set_option autoImplicit false

namespace SmsForwarder

open Py Tables Runs Base64

/-! ### Secrets -/

/-- The secret in a body: an empty one is none. -/
def givenSecret (secret : Option (BoundedStr 512)) : Option String :=
  match secret with
  | some s => if s.val = "" then none else some s.val
  | none => none

theorem encryptSecret_eq (env : Env) (nonce : ℕ) (secret : Option (BoundedStr 512)) :
    DeviceService.encryptSecret env nonce secret =
      (givenSecret secret).map (env.cipher.encrypt nonce) := by
  unfold DeviceService.encryptSecret givenSecret
  cases secret with
  | none => rfl
  | some s =>
      simp only
      split <;> rfl

section

variable {iso : FrpsService.IsoFormat}

/-- The secret that an answered request gives a device. -/
def Route.givesSecret (deviceId : String) : Route → ApiData iso → Option String
  | .createDevice _ _ payload, .device device =>
      if device.deviceId = deviceId then givenSecret payload.signSecret else none
  | .updateDevice id _ payload, .device _ =>
      if id = deviceId then givenSecret (payload.signSecret.getD none) else none
  | _, _ => none

def givesSecret (deviceId : String) (c : Call ApiState SystemOp (SystemAnswer iso)) :
    Option String :=
  match c.op, c.answer with
  | .request req, .response response => req.route.givesSecret deviceId response.data
  | _, _ => none

/-- The secret that a run has given a device last. -/
def operatorSecret (tr : List (Call ApiState SystemOp (SystemAnswer iso))) (deviceId : String) :
    Option String :=
  last (givesSecret deviceId) tr

theorem givenSecret_ne_empty {given : Option (BoundedStr 512)} {secret : String}
    (h : givenSecret given = some secret) : secret ≠ "" := by
  unfold givenSecret at h
  split at h
  · split at h
    · simp at h
    · rename_i hne
      exact Option.some.inj h ▸ hne
  · simp at h

/-- No device is given an empty secret. -/
theorem operatorSecret_ne_empty {tr : List (Call ApiState SystemOp (SystemAnswer iso))}
    {deviceId secret : String} (h : operatorSecret tr deviceId = some secret) : secret ≠ "" := by
  obtain ⟨c, -, hc⟩ := List.exists_of_findSome?_eq_some h
  unfold givesSecret at hc
  split at hc
  · unfold Route.givesSecret at hc
    split at hc
    · exact givenSecret_ne_empty (Option.ite_none_right_eq_some.1 hc).2
    · exact givenSecret_ne_empty (Option.ite_none_right_eq_some.1 hc).2
    · simp at hc
  · simp at hc

end

/-! ### The tables -/

/-- The stored secrets decrypt to these. -/
structure SecretsKept (env : Env) (secrets : String → Option String) (db : Store) : Prop where
  stored : ∀ d ∈ db.devices, CommandService.signSecret env d = .ok (secrets d.deviceId)
  unknown : ∀ deviceId, (∀ d ∈ db.devices, d.deviceId ≠ deviceId) → secrets deviceId = none

def secretColumns (d : Device) : String × Option String := (d.deviceId, d.signSecretEncrypted)

section

variable {env : Env} {iso : FrpsService.IsoFormat} {db db' : Store} {user : Option User}
  {route : Route} {outcome : Except PyError (ApiData iso)} {secrets : String → Option String}

theorem signSecret_congr {d d' : Device} (h : d'.signSecretEncrypted = d.signSecretEncrypted) :
    CommandService.signSecret env d' = CommandService.signSecret env d := by
  unfold CommandService.signSecret
  rw [h]

/-- A secret that was encrypted is the one that is signed with. -/
theorem signSecret_of_encrypted (hcipher : ∀ nonce text, env.cipher.encrypt nonce text ≠ "")
    {d : Device} {nonce : ℕ} {secret : String}
    (h : d.signSecretEncrypted = some (env.cipher.encrypt nonce secret)) :
    CommandService.signSecret env d = .ok (some secret) := by
  unfold CommandService.signSecret
  rw [h]
  split
  · rename_i heq
    simp at heq
  · rename_i heq
    exact absurd (Option.some.inj heq) (hcipher nonce secret)
  · rename_i heq
    rw [← Option.some.inj heq]
    unfold decrypt
    rw [env.cipher.decrypt_encrypt]
    rfl

/-- Other columns of the devices may change. -/
theorem SecretsKept.congr (h : SecretsKept env secrets db)
    (hcolumns : db'.devices.map secretColumns = db.devices.map secretColumns) :
    SecretsKept env secrets db' := by
  refine ⟨fun d' hd' => ?_, fun deviceId hnone => h.unknown deviceId fun d hd heq => ?_⟩
  · have hcol := List.mem_map_of_mem (f := secretColumns) hd'
    rw [hcolumns] at hcol
    obtain ⟨d, hd, heq⟩ := List.mem_map.1 hcol
    obtain ⟨hid, hsecret⟩ := Prod.mk.inj heq
    rw [← hid, signSecret_congr hsecret.symm]
    exact h.stored d hd
  · have hcol := List.mem_map_of_mem (f := secretColumns) hd
    rw [← hcolumns] at hcol
    obtain ⟨d', hd', heq'⟩ := List.mem_map.1 hcol
    exact hnone d' hd' ((Prod.mk.inj heq').1.trans heq)

/-- A new device has the secret of the body. -/
theorem SecretsKept.insertDevice (hcipher : ∀ nonce text, env.cipher.encrypt nonce text ≠ "")
    (h : SecretsKept env secrets db) {uuid : Uuid} {nonce : ℕ} {payload : DeviceCreate}
    (hnew : ∀ d ∈ db.devices, d.deviceId ≠ generateDeviceId uuid) :
    SecretsKept env
      (fun deviceId => (if generateDeviceId uuid = deviceId then givenSecret payload.signSecret
        else none).or (secrets deviceId))
      (db.insertDevice (DeviceService.newDevice env uuid nonce payload)) := by
  refine ⟨fun d hd => ?_, fun deviceId hnone => ?_⟩
  · rcases List.mem_append.1 hd with hd | hd
    · rw [if_neg fun heq => hnew d hd heq.symm]
      exact h.stored d hd
    · obtain rfl := List.mem_singleton.1 hd
      have hsecret : secrets (generateDeviceId uuid) = none := h.unknown _ hnew
      show CommandService.signSecret env _ =
        .ok ((if generateDeviceId uuid = generateDeviceId uuid then _ else none).or
          (secrets (generateDeviceId uuid)))
      rw [if_pos rfl, hsecret, Option.or_none]
      cases hgiven : givenSecret payload.signSecret with
      | none =>
          unfold CommandService.signSecret
          simp [DeviceService.newDevice, encryptSecret_eq, hgiven]
      | some secret =>
          have hstored : (DeviceService.newDevice env uuid nonce payload).signSecretEncrypted =
              some (env.cipher.encrypt nonce secret) := by
            simp [DeviceService.newDevice, encryptSecret_eq, hgiven]
          exact signSecret_of_encrypted hcipher hstored
  · have hold : ∀ d ∈ db.devices, d.deviceId ≠ deviceId :=
      fun d hd => hnone d (List.mem_append_left _ hd)
    have hother : generateDeviceId uuid ≠ deviceId :=
      hnone _ (List.mem_append_right _ (List.mem_singleton_self _))
    rw [if_neg hother, h.unknown deviceId hold]
    rfl

/-- An updated device has the secret of the body, or the one it had. -/
theorem SecretsKept.updateDevice (hcipher : ∀ nonce text, env.cipher.encrypt nonce text ≠ "")
    (h : SecretsKept env secrets db) (hu : UniqueDevices db.devices) {deviceId : String}
    {nonce : ℕ} {payload : DeviceUpdate} {device new : Device} (hmem : device ∈ db.devices)
    (hid : device.deviceId = deviceId)
    (hassign : DeviceService.assign env nonce payload device = .ok new) :
    SecretsKept env
      (fun id => (if deviceId = id then givenSecret (payload.signSecret.getD none)
        else none).or (secrets id))
      (db.writeDevice device new) := by
  obtain ⟨hnewid, hnewdev, -⟩ := DeviceService.assign_eq_ok hassign
  have hcolumn : new.signSecretEncrypted =
      ((givenSecret (payload.signSecret.getD none)).map (env.cipher.encrypt nonce)).or
        device.signSecretEncrypted := by
    unfold DeviceService.assign at hassign
    split at hassign
    · simp at hassign
    · rw [← Except.ok.inj hassign, ← encryptSecret_eq]
      cases DeviceService.encryptSecret env nonce (payload.signSecret.getD none) <;> rfl
  refine ⟨fun d hd => ?_, fun id hnone => ?_⟩
  · rcases (Store.mem_writeDevice hu.1 hmem hnewid).1 hd with rfl | ⟨hd, hne⟩
    · rw [hnewdev, hid, if_pos rfl]
      cases hgiven : givenSecret (payload.signSecret.getD none) with
      | none =>
          rw [hgiven] at hcolumn
          rw [signSecret_congr hcolumn, h.stored device hmem, hid]
          rfl
      | some secret =>
          rw [hgiven] at hcolumn
          exact signSecret_of_encrypted hcipher hcolumn
    · have hother : deviceId ≠ d.deviceId :=
        fun heq => hne (hu.2.eq hd hmem (heq.symm.trans hid.symm))
      rw [if_neg hother]
      exact h.stored d hd
  · have hold : ∀ d ∈ db.devices, d.deviceId ≠ id := by
      intro d hd heq
      by_cases hdd : d = device
      · refine hnone new ((Store.mem_writeDevice hu.1 hmem hnewid).2 (Or.inl rfl)) ?_
        rw [hnewdev, ← hdd, heq]
      · exact hnone d ((Store.mem_writeDevice hu.1 hmem hnewid).2 (Or.inr ⟨hd, hdd⟩)) heq
    rw [if_neg fun heq => hold device hmem (hid.trans heq), h.unknown id hold]
    rfl

/-- **Each effect stores the secret that it was given**, and leaves the others. -/
theorem secretsKept_effect (hcipher : ∀ nonce text, env.cipher.encrypt nonce text ≠ "")
    (hadm : db.Admitted env.schema) (hadm' : db'.Admitted env.schema)
    (h : SecretsKept env secrets db) (requestId : String)
    (heffect : StoreEffect env iso db user route outcome db') :
    SecretsKept env
      (fun deviceId => (route.givesSecret deviceId (respond iso requestId outcome).data).or
        (secrets deviceId)) db' := by
  obtain ⟨-, hdu, -⟩ := id hadm
  cases heffect with
  | read _ outcome hreads =>
      have hnone : ∀ (deviceId : String) (data : ApiData iso),
          route.givesSecret deviceId data = none := by
        intro deviceId data
        cases route with
        | createDevice | updateDevice => simp [Route.reads] at hreads
        | _ => rfl
      simp only [hnone, Option.none_or]
      exact h
  | failed _ err =>
      have hnone : ∀ deviceId,
          route.givesSecret deviceId (respond iso requestId (.error err)).data =
          none := by
        intro deviceId
        cases err <;> cases route <;> rfl
      simp only [hnone, Option.none_or]
      exact h
  | createDevice uuid nonce payload =>
      exact h.insertDevice hcipher (uniqueKey_concat.1 hadm'.2.1.2).2
  | updateDevice deviceId nonce payload device new hmem hid hassign hguard =>
      exact h.updateDevice hcipher hdu hmem hid hassign
  | ingestWebhook req webhook device event result hmem hen hhash hdev hid hevent =>
      refine h.congr ?_
      rw [calledStore_devices]
      refine map_updateKey fun cur hcur hk => ?_
      obtain rfl := hdu.1.eq hcur hdev hk
      rw [Device.merge_self (by rfl)]
      rfl
  | enableTunnel deviceId nonce payload device tunnel port hmem hid ht _ hport =>
      have hcols : secretColumns (TunnelService.syncedDevice env payload port device) =
          secretColumns device := by
        unfold TunnelService.syncedDevice
        split <;> rfl
      have hwrite := column_writeDevice secretColumns hdu.1 hmem TunnelService.syncedDevice_keys.1
        hcols
      cases tunnel with
      | none => exact h.congr hwrite
      | some t => exact h.congr hwrite
  | disableTunnel deviceId device t hdev hid hmem htid =>
      have hwrite : (db.writeDevice device (TunnelService.restoredDevice device t)).devices.map
          secretColumns = db.devices.map secretColumns :=
        column_writeDevice secretColumns hdu.1 hdev rfl rfl
      exact h.congr hwrite
  | _ => exact h.congr rfl

end

/-! ### Runs -/

section

variable {e : AuthEnv} {iso : FrpsService.IsoFormat}

/-- After every run the tables hold the secrets that the operator gave. -/
theorem secretsKept_run (hcipher : ∀ nonce text, e.env.cipher.encrypt nonce text ≠ "")
    (ops : List SystemOp) :
    SecretsKept e.env (operatorSecret (trace (SystemOp.exec e iso) ApiState.empty ops))
      (final (SystemOp.exec e iso) ApiState.empty ops).server.db := by
  induction ops using List.reverseRecOn with
  | nil => exact ⟨by simp [ApiState.empty, Store.empty], fun _ _ => rfl⟩
  | append_singleton ops op ih =>
      have hadm := (recordsKept_run e iso ops).sound.admitted
      have hadm' : (op.exec e iso (final (SystemOp.exec e iso) ApiState.empty ops)).2.Admitted
          e.env.schema := admitted_system op hadm
      have hlast : ∀ c : Call ApiState SystemOp (SystemAnswer iso),
          operatorSecret (trace (SystemOp.exec e iso) ApiState.empty ops ++ [c]) = fun deviceId =>
            (givesSecret deviceId c).or
              (operatorSecret (trace (SystemOp.exec e iso) ApiState.empty ops) deviceId) :=
        fun c => funext fun deviceId => last_concat _ _ _
      rw [trace_concat, final_concat, hlast]
      rcases @effect_system e iso (final (SystemOp.exec e iso) ApiState.empty ops) op hadm.db with
        ⟨salt, username, password, rfl, hserver⟩ |
          ⟨req, user, outcome, db', rfl, hanswer, hdb, heffect⟩
      · rw [hserver]
        exact ih
      · have hgives : ∀ deviceId, givesSecret deviceId
            (call (SystemOp.exec e iso) (final (SystemOp.exec e iso) ApiState.empty ops)
              (.request req)) =
            req.route.givesSecret deviceId (respond iso req.requestId outcome).data := by
          intro deviceId
          show givesSecret deviceId ⟨_, .request req, (SystemOp.exec e iso _ (.request req)).1, _⟩ = _
          rw [hanswer]
          rfl
        simp only [hgives]
        rw [hdb]
        rw [← hdb] at heffect ⊢
        exact secretsKept_effect hcipher hadm.db hadm'.db ih req.requestId heffect

/-- What a dispatch posts goes to the device it is for, at its address. -/
theorem post_of_dispatch {env : Env} {d : DispatchCall} {db : Store} {deviceId commandType : String}
    {payload : List (Str × Json)} {userId : Option ℤ} {url : String} {body : Json}
    (h : Effect.post url body ∈
      (CommandService.tracedDispatch env d db deviceId commandType payload userId).2) :
    ∃ device baseUrl path secret data, requireDevice db deviceId = .ok device ∧
      device.baseUrl = some baseUrl ∧ CommandService.commandPath commandType = .ok path ∧
      CommandService.signSecret env device = .ok secret ∧
      url = SmsForwarderHttpAdapter.requestUrl baseUrl path ∧
      body = SmsForwarderHttpAdapter.requestBody d data secret := by
  unfold CommandService.tracedDispatch at h
  cases hdevice : requireDevice db deviceId with
  | error err => simp [hdevice] at h
  | ok device =>
      simp only [hdevice] at h
      cases hcreate : CommandService.createLog env d db device commandType payload userId with
      | error err => simp [hcreate] at h
      | ok stored =>
          simp only [hcreate] at h
          rcases @CommandService.tracedQuery_effects_cases env d stored.1 device deviceId commandType
            payload with hnone | ⟨baseUrl, path, secret, -, hurl, hpath, hsecret, heffects⟩
          · rw [hnone] at h
            simp at h
          · obtain ⟨-, hbase, hne⟩ := CommandService.reachableUrl_eq_ok hurl
            rw [heffects, SmsForwarderHttpAdapter.tracedRequest_effects, if_neg hne] at h
            simp only [List.mem_cons, reduceCtorEq, Effect.post.injEq, List.not_mem_nil, or_false,
              false_or] at h
            obtain ⟨rfl, rfl⟩ := h
            exact ⟨device, baseUrl, path, secret, _, rfl, hbase, hpath, hsecret, rfl, rfl⟩

end

/-- **The signatures of queries.**  After every run of the API, what a dispatch posts for a device
goes to the `base_url` that the API shows of the device, under the path of the command.  If the
operator has given the device a secret, the message is signed: a device accepts it exactly if its
own secret signs the time of the message with the same bytes as the secret that the operator gave
last.  If not, the message has no signature. -/
theorem queries_signed (e : AuthEnv) (iso : FrpsService.IsoFormat) (h : Hashes)
    (hcipher : ∀ nonce text, e.env.cipher.encrypt nonce text ≠ "") (ops : List SystemOp)
    (d : DispatchCall) (hhmac : d.hmac = h.hmacText) (deviceId commandType : String)
    (payload : List (Str × Json)) (userId : Option ℤ) (url : String) (body : Json)
    (hpost : Effect.post url body ∈ (CommandService.tracedDispatch e.env d
      (final (SystemOp.exec e iso) ApiState.empty ops).server.db deviceId commandType payload
        userId).2) :
    (∃ r baseUrl path,
        record e.env (trace (SystemOp.exec e iso) ApiState.empty ops) deviceId = some r ∧
        r.device.baseUrl = some baseUrl ∧ CommandService.commandPath commandType = .ok path ∧
        url = SmsForwarderHttpAdapter.requestUrl baseUrl path) ∧
      match operatorSecret (trace (SystemOp.exec e iso) ApiState.empty ops) deviceId with
      | none => unsigned body = true
      | some secret => ∀ own, deviceAccepts h own body = true ↔
          h.signature d.timestamp own = h.signature d.timestamp secret := by
  obtain ⟨device, baseUrl, path, secret, data, hdevice, hbase, hpath, hsecret, rfl, rfl⟩ :=
    post_of_dispatch hpost
  obtain ⟨hmem, rfl⟩ := requireDevice_eq_ok hdevice
  have hkept := recordsKept_run e iso ops
  have hsecrets := @secretsKept_run e iso hcipher ops
  have hrecord := shown_of_mem hkept.sound.admitted.db.2.1 hmem rfl
  rw [hkept.shown] at hrecord
  refine ⟨⟨_, baseUrl, path, hrecord, hbase, hpath, rfl⟩, ?_⟩
  rw [hsecrets.stored device hmem] at hsecret
  rw [← Except.ok.inj hsecret]
  cases hlast : operatorSecret (trace (SystemOp.exec e iso) ApiState.empty ops) device.deviceId with
  | none => exact unsigned_requestBody
  | some secret => exact deviceAccepts_requestBody hhmac (operatorSecret_ne_empty hlast)

/-! ### A query -/

/-- The first bytes, in place of a hash. -/
def leadingBytes (bytes : List Byte) : Digest :=
  ⟨(bytes ++ List.replicate 32 (byteOf8 0)).take 32, by simp⟩

def plainHashes : Hashes where
  sha256 := leadingBytes
  hmacSha256 key message := leadingBytes (key ++ message)

/-- A dispatch that signs with them. -/
def signedCall : DispatchCall := { CommandService.silentCall with hmac := plainHashes.hmacText }

def signedBody : Json :=
  SmsForwarderHttpAdapter.requestBody signedCall [] (some "secret")

/-- What a dispatch posts to the device that the administrator created. -/
theorem queries_signed_session :
    (∃ r baseUrl path,
        record (plainEnv ormSchema) (trace plainExec ApiState.empty createdStart)
          (generateDeviceId Uuid.nil) = some r ∧
        r.device.baseUrl = some baseUrl ∧ CommandService.commandPath "sms.query" = .ok path ∧
        "http://10.0.0.7:5000/sms/query" = SmsForwarderHttpAdapter.requestUrl baseUrl path) ∧
      match operatorSecret (trace plainExec ApiState.empty createdStart)
        (generateDeviceId Uuid.nil) with
      | none => unsigned signedBody = true
      | some secret => ∀ own, deviceAccepts plainHashes own signedBody = true ↔
          plainHashes.signature "0" own = plainHashes.signature "0" secret := by
  refine queries_signed (plainAuthEnv ormSchema) FrpsService.noIso plainHashes ?_ createdStart
    signedCall rfl (generateDeviceId Uuid.nil) "sms.query" [] none _ _ ?_
  · intro nonce text hempty
    have hchars := congrArg String.toList hempty
    simp [plainAuthEnv, plainEnv, plainCipher] at hchars
  · show _ ∈ (CommandService.tracedDispatch _ _
      (final plainExec ApiState.empty createdStart).server.db _ _ _ _).2
    rw [final_createdStart]
    exact List.mem_cons_of_mem _ List.mem_cons_self

end SmsForwarder
