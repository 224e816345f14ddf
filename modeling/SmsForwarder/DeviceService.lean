/-
**The device service.**

Creation and partial update of devices.  A call reads the committed store and either ends in an
exception, which leaves the store as it was, or in the store its single commit produced.

Main definitions:

* `SmsForwarder.requireDevice` — the lookup by `device_id` that all services share;
* `SmsForwarder.Uuid`, `SmsForwarder.generateDeviceId` — the identifiers of devices;
* `SmsForwarder.DeviceService.create`, `SmsForwarder.DeviceService.update` — the calls;
* `SmsForwarder.DeviceService.ensureUnmanaged`, `SmsForwarder.DeviceService.flushUpdate` — the
  guard of an update that carries a `base_url`, and its commit.

Main results:

* `SmsForwarder.requireDevice_eq_ok` — what the lookup finds;
* `SmsForwarder.DeviceService.create_eq_ok`, `SmsForwarder.DeviceService.update_eq_ok` — all that
  a successful call can do.
-/

import SmsForwarder.Schemas

set_option relaxedAutoImplicit false
set_option autoImplicit false

namespace SmsForwarder

open Tables

/-! ### Identifiers -/

def isLowerHex (c : Char) : Bool := c.isDigit || ('a' ≤ c && c ≤ 'f')

/-- The hexadecimal text of a random UUID. -/
structure Uuid where
  hex : List Char
  length_hex : hex.length = 32
  lowerHex : ∀ c ∈ hex, isLowerHex c = true

/-- The UUID whose digits are all zero. -/
def Uuid.nil : Uuid where
  hex := List.replicate 32 '0'
  length_hex := List.length_replicate
  lowerHex c hc := by
    rw [List.eq_of_mem_replicate hc]
    decide

/-- `generate_device_id`. -/
def generateDeviceId (uuid : Uuid) : String := "dev_" ++ String.ofList (uuid.hex.take 24)

/-! ### Lookups -/

/-- The device with this `device_id`, or the error the services raise. -/
def requireDevice (db : Store) (deviceId : String) : Except PyError Device :=
  match oneOrNone (fun d => d.deviceId = deviceId) db.devices with
  | none => .error .multipleResultsFound
  | some none => notFound "device not found"
  | some (some device) => .ok device

theorem requireDevice_eq_ok {db : Store} {deviceId : String} {device : Device}
    (h : requireDevice db deviceId = .ok device) :
    device ∈ db.devices ∧ device.deviceId = deviceId := by
  unfold requireDevice at h
  split at h
  · simp at h
  · simp at h
  · rename_i found hfound
    obtain rfl : found = device := by simpa using h
    simpa using mem_of_oneOrNone hfound

/-- With `device_id` unique, the lookup finds the device there is. -/
theorem requireDevice_of_mem {db : Store} {device : Device}
    (hu : UniqueKey Device.deviceId db.devices) (h : device ∈ db.devices) :
    requireDevice db device.deviceId = .ok device := by
  unfold requireDevice
  rw [oneOrNone_of_mem hu h]

/-- The row of a loaded device as the database has it after the commit. -/
def refreshDevice (db : Store) (device : Device) : Device :=
  (lookup Device.id device.id db.devices).getD device

namespace DeviceService

/-! ### `create` -/

/-- `DeviceService.get`. -/
def get (db : Store) (deviceId : String) : Except PyError Device := requireDevice db deviceId

/-- `encrypt(secret) if secret else None`. -/
def encryptSecret (env : Env) (nonce : ℕ) (secret : Option (BoundedStr 512)) : Option String :=
  match secret with
  | some s => if s.val = "" then none else some (env.cipher.encrypt nonce s.val)
  | none => none

/-- The row `create` adds to the session. -/
def newDevice (env : Env) (uuid : Uuid) (nonce : ℕ) (payload : DeviceCreate) : Device where
  id := 0
  deviceId := generateDeviceId uuid
  deviceName := payload.deviceName.map Subtype.val
  channelType := payload.channelType
  baseUrl := payload.baseUrl.map HttpUrl.str
  signSecretEncrypted := encryptSecret env nonce payload.signSecret
  status := "inactive"
  isActive := false
  lastSeenAt := none
  lastWebhookAt := none
  webhookCount := 0

/-- `DeviceService.create`. -/
def create (env : Env) (db : Store) (uuid : Uuid) (nonce : ℕ) (payload : DeviceCreate) :
    Except PyError (Store × Device) := do
  let device := newDevice env uuid nonce payload
  let db' ← commit env.schema (db.insertDevice device)
  pure (db', { device with id := nextKey Device.id db.devices })

theorem create_eq_ok {env : Env} {db : Store} {uuid : Uuid} {nonce : ℕ} {payload : DeviceCreate}
    {r : Store × Device} (h : create env db uuid nonce payload = .ok r) :
    r.1 = db.insertDevice (newDevice env uuid nonce payload) ∧ r.1.Admitted env.schema := by
  obtain ⟨db', hcommit, hr⟩ := bind_eq_ok.1 h
  obtain ⟨rfl, hadm⟩ := commit_eq_ok.1 hcommit
  cases hr
  exact ⟨rfl, hadm⟩

/-! ### `update` -/

/-- The guard of an update: `base_url` must not be set while a tunnel manages it. -/
def ensureUnmanaged (db : Store) (deviceId : String) (payload : DeviceUpdate) :
    Except PyError Unit :=
  match payload.baseUrl with
  | none => .ok ()
  | some _ =>
      match oneOrNone (fun t => t.deviceId = deviceId && t.enabled) db.deviceTunnels with
      | none => .error .multipleResultsFound
      | some (some _) => conflict "base_url is managed by tunnel"
      | some none => .ok ()

/-- The value of a nullable column after a partial update. -/
def patchNullable {α β : Type} (f : α → β) (patch : Patch α) (cur : Option β) : Option β :=
  match patch with
  | none => cur
  | some v => v.map f

/-- The loaded row after the assignments of `update`.  The flush refuses a null `channel_type`. -/
def assign (env : Env) (nonce : ℕ) (payload : DeviceUpdate) (device : Device) :
    Except PyError Device :=
  match patchNullable id payload.channelType (some device.channelType) with
  | none => .error .integrityError
  | some channelType => .ok
      { device with
        deviceName := patchNullable Subtype.val payload.deviceName device.deviceName
        channelType
        baseUrl := patchNullable HttpUrl.str payload.baseUrl device.baseUrl
        signSecretEncrypted :=
          match encryptSecret env nonce (payload.signSecret.getD none) with
          | some secret => some secret
          | none => device.signSecretEncrypted }

/-- The commit of `update` by a session that loaded the device row as `device`. -/
def flushUpdate (env : Env) (nonce : ℕ) (payload : DeviceUpdate) (device : Device) (db : Store) :
    Except PyError Store := do
  let new ← assign env nonce payload device
  commit env.schema (db.writeDevice device new)

/-- `DeviceService.update`. -/
def update (env : Env) (db : Store) (deviceId : String) (nonce : ℕ) (payload : DeviceUpdate) :
    Except PyError (Store × Device) := do
  let device ← get db deviceId
  ensureUnmanaged db deviceId payload
  let db' ← flushUpdate env nonce payload device db
  pure (db', refreshDevice db' device)

theorem ensureUnmanaged_eq_ok {db : Store} {deviceId : String} {payload : DeviceUpdate} {u : Unit}
    (h : ensureUnmanaged db deviceId payload = .ok u) (hb : payload.baseUrl.isSome = true) :
    ∀ t ∈ db.deviceTunnels, t.deviceId = deviceId → t.enabled = false := by
  unfold ensureUnmanaged at h
  split at h
  · rename_i hnone
    simp [hnone] at hb
  · split at h
    · simp at h
    · simp at h
    · rename_i hnone
      intro t ht hd
      have := oneOrNone_eq_none_row.1 hnone t ht
      simpa [hd] using this

/-- What the assignments of an update leave alone, and what they do to `base_url`. -/
theorem assign_eq_ok {env : Env} {nonce : ℕ} {payload : DeviceUpdate} {device new : Device}
    (h : assign env nonce payload device = .ok new) :
    new.id = device.id ∧ new.deviceId = device.deviceId ∧
      new.baseUrl = patchNullable HttpUrl.str payload.baseUrl device.baseUrl := by
  unfold assign at h
  split at h
  · simp at h
  · obtain rfl := Except.ok.inj h
    exact ⟨rfl, rfl, rfl⟩

/-- All that a successful update can do: replace the row of the device, with `base_url` changed
only if the body carries it and no enabled tunnel manages it. -/
theorem update_eq_ok {env : Env} {db : Store} {deviceId : String} {nonce : ℕ}
    {payload : DeviceUpdate} {r : Store × Device}
    (h : update env db deviceId nonce payload = .ok r) :
    ∃ device ∈ db.devices, ∃ new, device.deviceId = deviceId ∧
      assign env nonce payload device = .ok new ∧
      (payload.baseUrl.isSome = true →
        ∀ t ∈ db.deviceTunnels, t.deviceId = deviceId → t.enabled = false) ∧
      r.1 = db.writeDevice device new ∧ r.1.Admitted env.schema := by
  obtain ⟨device, hget, h⟩ := bind_eq_ok.1 h
  obtain ⟨u, hguard, h⟩ := bind_eq_ok.1 h
  obtain ⟨db', hflush, h⟩ := bind_eq_ok.1 h
  obtain ⟨new, hassign, hcommit⟩ := bind_eq_ok.1 hflush
  obtain ⟨rfl, hadm⟩ := commit_eq_ok.1 hcommit
  obtain ⟨hmem, hid⟩ := requireDevice_eq_ok hget
  cases h
  exact ⟨device, hmem, new, hid, hassign, ensureUnmanaged_eq_ok hguard, rfl, hadm⟩

end DeviceService

end SmsForwarder
