/-
**The tunnel service.**

Enabling, updating and disabling the frp tunnel of a device, token rotation, and the client
configuration.  While a tunnel is enabled with `sync_device_base_url` the device is queried through
it: `enable` saves the `base_url` of the device in `previous_base_url` and overwrites it, and
`disable` puts the saved value back.

Main definitions:

* `SmsForwarder.TunnelService.enable`, `SmsForwarder.TunnelService.update`,
  `SmsForwarder.TunnelService.disable`, `SmsForwarder.TunnelService.rotateToken`,
  `SmsForwarder.TunnelService.renderFrpcConfig` — the calls;
* `SmsForwarder.TunnelService.nextRemotePort`, `SmsForwarder.TunnelService.choosePort` — the
  allocation of ports;
* `SmsForwarder.TunnelService.flushEnable`, `SmsForwarder.TunnelService.flushDisable` — the commits
  of a session that loaded its rows earlier.

Main results:

* `SmsForwarder.TunnelService.choosePort_eq_ok` — a chosen port is in the configured range;
* `SmsForwarder.TunnelService.enable_eq_ok`, `SmsForwarder.TunnelService.update_eq_ok`,
  `SmsForwarder.TunnelService.disable_eq_ok`, `SmsForwarder.TunnelService.rotateToken_eq_ok`,
  `SmsForwarder.TunnelService.renderFrpcConfig_eq_ok` — all that a successful call can do.
-/

import SmsForwarder.DeviceService
import SmsForwarder.Masking

set_option relaxedAutoImplicit false
set_option autoImplicit false

namespace SmsForwarder

open Tables

namespace TunnelService

/-! ### Lookups -/

/-- `TunnelService._get_device`. -/
def getDevice (db : Store) (deviceId : String) : Except PyError Device := requireDevice db deviceId

/-- `TunnelService._get_tunnel`. -/
def getTunnel (db : Store) (deviceId : String) : Except PyError (Option DeviceTunnel) :=
  match oneOrNone (fun t => t.deviceId = deviceId) db.deviceTunnels with
  | none => .error .multipleResultsFound
  | some tunnel => .ok tunnel

/-- `TunnelService._require_tunnel`, past the lookup of the device. -/
def someTunnel (tunnel : Option DeviceTunnel) : Except PyError DeviceTunnel :=
  match tunnel with
  | none => notFound "device tunnel not found"
  | some t => .ok t

/-- `TunnelService._require_tunnel`. -/
def requireTunnel (db : Store) (deviceId : String) : Except PyError DeviceTunnel := do
  let _ ← getDevice db deviceId
  let tunnel ← getTunnel db deviceId
  someTunnel tunnel

theorem getTunnel_eq_ok {db : Store} {deviceId : String} {tunnel : Option DeviceTunnel} :
    getTunnel db deviceId = .ok tunnel ↔
      oneOrNone (fun t => t.deviceId = deviceId) db.deviceTunnels = some tunnel := by
  unfold getTunnel
  split
  · rename_i hmany
    simp [hmany]
  · rename_i found hfound
    simp [hfound]

theorem getTunnel_eq_some {db : Store} {deviceId : String} {t : DeviceTunnel}
    (h : getTunnel db deviceId = .ok (some t)) :
    t ∈ db.deviceTunnels ∧ t.deviceId = deviceId := by
  simpa using mem_of_oneOrNone (getTunnel_eq_ok.1 h)

theorem getTunnel_eq_none {db : Store} {deviceId : String}
    (h : getTunnel db deviceId = .ok none) : ∀ t ∈ db.deviceTunnels, t.deviceId ≠ deviceId := by
  intro t ht
  simpa using oneOrNone_eq_none_row.1 (getTunnel_eq_ok.1 h) t ht

/-- With `device_id` unique, the lookup is the first match. -/
theorem getTunnel_eq_lookup {db : Store} {deviceId : String}
    (hu : UniqueKey DeviceTunnel.deviceId db.deviceTunnels) :
    getTunnel db deviceId = .ok (lookup DeviceTunnel.deviceId deviceId db.deviceTunnels) := by
  unfold getTunnel
  rw [oneOrNone_eq_lookup hu]

theorem requireTunnel_eq_ok {db : Store} {deviceId : String} {t : DeviceTunnel}
    (h : requireTunnel db deviceId = .ok t) :
    (∃ device ∈ db.devices, device.deviceId = deviceId) ∧
      t ∈ db.deviceTunnels ∧ t.deviceId = deviceId := by
  obtain ⟨device, hdevice, h⟩ := bind_eq_ok.1 h
  obtain ⟨tunnel, htunnel, h⟩ := bind_eq_ok.1 h
  cases tunnel with
  | none => simp [someTunnel] at h
  | some t' =>
      obtain rfl : t' = t := by simpa [someTunnel] using h
      exact ⟨⟨device, requireDevice_eq_ok hdevice⟩, getTunnel_eq_some htunnel⟩

/-- With unique keys, the lookups find the rows of a device with a tunnel. -/
theorem requireTunnel_of_mem {db : Store} {device : Device} {t : DeviceTunnel}
    (hd : UniqueKey Device.deviceId db.devices)
    (ht : UniqueKey DeviceTunnel.deviceId db.deviceTunnels) (hdm : device ∈ db.devices)
    (htm : t ∈ db.deviceTunnels) (hid : device.deviceId = t.deviceId) :
    getDevice db t.deviceId = .ok device ∧ requireTunnel db t.deviceId = .ok t := by
  have hdev : getDevice db t.deviceId = .ok device := by
    rw [← hid]
    exact requireDevice_of_mem hd hdm
  refine ⟨hdev, ?_⟩
  unfold requireTunnel
  rw [hdev, getTunnel_eq_lookup ht, (lookup_eq_some_iff ht).2 ⟨htm, rfl⟩]
  rfl

/-! ### Ports and addresses -/

/-- `range(lo, hi)`. -/
def pyRange (lo hi : ℤ) : List ℤ := (List.range (hi - lo).toNat).map fun i => lo + (i : ℕ)

theorem mem_pyRange {lo hi x : ℤ} : x ∈ pyRange lo hi ↔ lo ≤ x ∧ x < hi := by
  unfold pyRange
  rw [List.mem_map]
  constructor
  · intro h
    obtain ⟨i, hi', rfl⟩ := h
    have := List.mem_range.1 hi'
    omega
  · intro h
    exact ⟨(x - lo).toNat, by rw [List.mem_range]; omega, by omega⟩

/-- `TunnelService._next_remote_port`, from the ports of all rows. -/
def nextRemotePort (s : Settings) (ports : List ℤ) : Except PyError ℤ :=
  let used := ports.filter fun p => s.frpsAllowPortMin ≤ p ∧ p ≤ s.frpsAllowPortMax
  match (pyRange s.frpsAllowPortMin (s.frpsAllowPortMax + 1)).find? fun p => p ∉ used with
  | some port => .ok port
  | none => conflict "no frps remote ports available"

/-- `TunnelService._ensure_remote_port_allowed`. -/
def ensureRemotePortAllowed (s : Settings) (port : ℤ) : Except PyError Unit :=
  if port < s.frpsAllowPortMin ∨ s.frpsAllowPortMax < port then
    conflict "remote port is outside frps allow range"
  else .ok ()

/-- `payload.remote_port or self._next_remote_port()`. -/
def requestedPort (s : Settings) (requested : Option Port) (ports : List ℤ) : Except PyError ℤ :=
  match requested with
  | some p => .ok p.val
  | none => nextRemotePort s ports

/-- The port an `enable` settles on, if it is allowed. -/
def choosePort (s : Settings) (requested : Option Port) (ports : List ℤ) : Except PyError ℤ := do
  let port ← requestedPort s requested ports
  ensureRemotePortAllowed s port
  pure port

theorem ensureRemotePortAllowed_eq_ok {s : Settings} {port : ℤ} {u : Unit} :
    ensureRemotePortAllowed s port = .ok u ↔
      s.frpsAllowPortMin ≤ port ∧ port ≤ s.frpsAllowPortMax := by
  unfold ensureRemotePortAllowed
  split
  · simp only [conflict_ne_ok, false_iff]
    omega
  · simp only [true_iff]
    omega

/-- A chosen port is in the configured range. -/
theorem choosePort_eq_ok {s : Settings} {requested : Option Port} {ports : List ℤ} {port : ℤ}
    (h : choosePort s requested ports = .ok port) :
    s.frpsAllowPortMin ≤ port ∧ port ≤ s.frpsAllowPortMax := by
  obtain ⟨p, hp, h⟩ := bind_eq_ok.1 h
  obtain ⟨u, hallowed, h⟩ := bind_eq_ok.1 h
  obtain rfl : p = port := by simpa [pure, Except.pure] using h
  exact ensureRemotePortAllowed_eq_ok.1 hallowed

/-- The choice of a port depends on which ports are taken, not on their order. -/
theorem choosePort_congr {s : Settings} {requested : Option Port} {ports ports' : List ℤ}
    (h : ∀ port, port ∈ ports ↔ port ∈ ports') :
    choosePort s requested ports = choosePort s requested ports' := by
  have hnext : nextRemotePort s ports = nextRemotePort s ports' := by
    unfold nextRemotePort
    simp only [List.mem_filter, h]
  unfold choosePort requestedPort
  rw [hnext]

/-- A port is refused with a `ConflictError`. -/
theorem choosePort_eq_error {s : Settings} {requested : Option Port} {ports : List ℤ}
    {e : PyError} (h : choosePort s requested ports = .error e) :
    ∃ message, e = .app (ConflictError message) := by
  unfold choosePort at h
  cases hp : requestedPort s requested ports with
  | error e' =>
      obtain rfl : e' = e := by simpa [hp, bind, Except.bind] using h
      cases requested with
      | some p => simp [requestedPort] at hp
      | none =>
          unfold requestedPort nextRemotePort at hp
          simp only at hp
          split at hp
          · simp at hp
          · exact ⟨_, (Except.error.inj hp).symm⟩
  | ok port =>
      cases ha : ensureRemotePortAllowed s port with
      | ok u => simp [hp, ha, bind, Except.bind, pure, Except.pure] at h
      | error e' =>
          obtain rfl : e' = e := by simpa [hp, ha, bind, Except.bind] using h
          unfold ensureRemotePortAllowed at ha
          split at ha
          · exact ⟨_, (Except.error.inj ha).symm⟩
          · simp at ha

/-- `TunnelService._internal_base_url`. -/
def internalBaseUrl (s : Settings) (port : ℤ) : String :=
  "http://" ++ s.frpsInternalHost ++ ":" ++ toString port

/-- `TunnelService._public_base_url`. -/
def publicBaseUrl (s : Settings) (port : ℤ) : String :=
  "tcp://" ++ s.frpsPublicHost ++ ":" ++ toString port

/-- `TunnelService._proxy_name`. -/
def proxyName (deviceId : String) : String :=
  String.ofList (("smsf-" ++ deviceId).toList.take 128)

/-! ### `enable` -/

variable (env : Env)

/-- The row of a device without a tunnel, with the column defaults. -/
def newTunnel (deviceId : String) (nonce : ℕ) (payload : TunnelEnableIn) (port : ℤ) :
    DeviceTunnel where
  id := 0
  deviceId := deviceId
  enabled := false
  proxyType := "tcp"
  proxyName := proxyName deviceId
  localIp := "127.0.0.1"
  localPort := payload.localPort.val
  remotePort := port
  authTokenEncrypted := env.cipher.encrypt nonce env.settings.frpsAuthToken
  internalBaseUrl := internalBaseUrl env.settings port
  publicBaseUrl := none
  previousBaseUrl := none
  useEncryption := true
  useCompression := true
  status := "pending"
  lastConfigGeneratedAt := none

/-- The loaded row of a disabled tunnel, moved to a port. -/
def moveTunnel (nonce : ℕ) (port : ℤ) (t : DeviceTunnel) : DeviceTunnel :=
  { t with
    remotePort := port
    authTokenEncrypted := env.cipher.encrypt nonce env.settings.frpsAuthToken
    internalBaseUrl := internalBaseUrl env.settings port }

/-- The assignments of `enable` that both cases share. -/
def activate (payload : TunnelEnableIn) (port : ℤ) (device : Device) (t : DeviceTunnel) :
    DeviceTunnel :=
  { t with
    enabled := true
    proxyType := "tcp"
    localIp := payload.localIp.text
    localPort := payload.localPort.val
    publicBaseUrl := some (publicBaseUrl env.settings port)
    previousBaseUrl := device.baseUrl
    useEncryption := payload.useEncryption
    useCompression := payload.useCompression
    status := "active" }

/-- The tunnel row as `enable` leaves it. -/
def enabledTunnel (deviceId : String) (nonce : ℕ) (payload : TunnelEnableIn) (port : ℤ)
    (device : Device) (tunnel : Option DeviceTunnel) : DeviceTunnel :=
  activate env payload port device
    (match tunnel with
    | none => newTunnel env deviceId nonce payload port
    | some t => moveTunnel env nonce port t)

/-- The device row as `enable` leaves it. -/
def syncedDevice (payload : TunnelEnableIn) (port : ℤ) (device : Device) : Device :=
  if payload.syncDeviceBaseUrl then
    { device with baseUrl := some (internalBaseUrl env.settings port) }
  else device

/-- The store after the flush of `enable` by a session that loaded its rows as `device` and
`tunnel`. -/
def writeEnable (deviceId : String) (nonce : ℕ) (payload : TunnelEnableIn) (port : ℤ)
    (device : Device) (tunnel : Option DeviceTunnel) (db : Store) : Store :=
  let new := enabledTunnel env deviceId nonce payload port device tunnel
  let db' := db.writeDevice device (syncedDevice env payload port device)
  match tunnel with
  | none => db'.insertTunnel new
  | some t => db'.writeTunnel t new

/-- The commit of `enable`: a violated constraint is reported as a taken port. -/
def flushEnable (deviceId : String) (nonce : ℕ) (payload : TunnelEnableIn) (port : ℤ)
    (device : Device) (tunnel : Option DeviceTunnel) (db : Store) : Except PyError Store :=
  match commit env.schema (writeEnable env deviceId nonce payload port device tunnel db) with
  | .error .integrityError => conflict "remote port already allocated"
  | r => r

/-- The check `tunnel and tunnel.enabled`. -/
def ensureNotEnabled (tunnel : Option DeviceTunnel) : Except PyError Unit :=
  if tunnel.any DeviceTunnel.enabled then conflict "device tunnel already enabled" else .ok ()

/-- `db.refresh(tunnel)`: the row of a loaded tunnel as the database has it after the commit. -/
def refreshTunnel (db : Store) (t : DeviceTunnel) : DeviceTunnel :=
  (lookup DeviceTunnel.id t.id db.deviceTunnels).getD t

/-- The row of `enable` after its flush, which assigns a new row its primary key. -/
def flushedTunnel (tunnel : Option DeviceTunnel) (new : DeviceTunnel) (db : Store) :
    DeviceTunnel :=
  match tunnel with
  | none => { new with id := nextKey DeviceTunnel.id db.deviceTunnels }
  | some _ => new

/-- `TunnelService.enable`. -/
def enable (db : Store) (deviceId : String) (nonce : ℕ) (payload : TunnelEnableIn) :
    Except PyError (Store × DeviceTunnel) := do
  let device ← getDevice db deviceId
  let tunnel ← getTunnel db deviceId
  ensureNotEnabled tunnel
  let port ← choosePort env.settings payload.remotePort
    (db.deviceTunnels.map DeviceTunnel.remotePort)
  let db' ← flushEnable env deviceId nonce payload port device tunnel db
  let new := enabledTunnel env deviceId nonce payload port device tunnel
  pure (db', refreshTunnel db' (flushedTunnel tunnel new db))

/-! ### The other calls -/

/-- The value of a column after `if value is not None: setattr(...)`. -/
def patchColumn {α : Type} (patch : Patch α) (cur : α) : α :=
  match patch with
  | some (some v) => v
  | _ => cur

/-- The loaded row after the assignments of `update`. -/
def updatedTunnel (payload : TunnelUpdateIn) (t : DeviceTunnel) : DeviceTunnel :=
  { t with
    localIp := patchColumn (payload.localIp.map (Option.map LocalIp.text)) t.localIp
    localPort := patchColumn (payload.localPort.map (Option.map Subtype.val)) t.localPort
    useEncryption := patchColumn payload.useEncryption t.useEncryption
    useCompression := patchColumn payload.useCompression t.useCompression }

/-- `TunnelService.update`. -/
def update (db : Store) (deviceId : String) (payload : TunnelUpdateIn) :
    Except PyError (Store × DeviceTunnel) := do
  let tunnel ← requireTunnel db deviceId
  let db' ← commit env.schema (db.writeTunnel tunnel (updatedTunnel payload tunnel))
  pure (db', refreshTunnel db' tunnel)

/-- The tunnel row as `disable` leaves it. -/
def disabledTunnel (t : DeviceTunnel) : DeviceTunnel :=
  { t with enabled := false, status := "disabled" }

/-- The device row as `disable` leaves it. -/
def restoredDevice (device : Device) (t : DeviceTunnel) : Device :=
  { device with baseUrl := t.previousBaseUrl }

/-- The commit of `disable` by a session that loaded its rows as `device` and `t`. -/
def flushDisable (device : Device) (t : DeviceTunnel) (db : Store) : Except PyError Store :=
  commit env.schema
    ((db.writeDevice device (restoredDevice device t)).writeTunnel t (disabledTunnel t))

/-- `TunnelService.disable`. -/
def disable (db : Store) (deviceId : String) : Except PyError (Store × DeviceTunnel) := do
  let device ← getDevice db deviceId
  let tunnel ← requireTunnel db deviceId
  let db' ← flushDisable env device tunnel db
  pure (db', refreshTunnel db' tunnel)

/-- `TunnelService.rotate_token`: the store and the token handed out. -/
def rotateToken (db : Store) (deviceId : String) (nonce : ℕ) :
    Except PyError (Store × String) := do
  let tunnel ← requireTunnel db deviceId
  let token := env.settings.frpsAuthToken
  let db' ← commit env.schema
    (db.writeTunnel tunnel
      { tunnel with authTokenEncrypted := env.cipher.encrypt nonce token })
  pure (db', token)

/-- `str(flag).lower()`. -/
def pyBool (b : Bool) : String := if b then "true" else "false"

/-- `TunnelService._frpc_toml`. -/
def frpcToml (tunnel : DeviceTunnel) (token : String) : String :=
  "\n".intercalate
    ["serverAddr = \"" ++ env.settings.frpsPublicHost ++ "\"",
      "serverPort = " ++ toString FRPS_BIND_PORT,
      "",
      "auth.method = \"token\"",
      "auth.token = \"" ++ token ++ "\"",
      "",
      "[[proxies]]",
      "name = \"" ++ tunnel.proxyName ++ "\"",
      "type = \"tcp\"",
      "localIP = \"" ++ tunnel.localIp ++ "\"",
      "localPort = " ++ toString tunnel.localPort,
      "remotePort = " ++ toString tunnel.remotePort,
      "transport.useEncryption = " ++ pyBool tunnel.useEncryption,
      "transport.useCompression = " ++ pyBool tunnel.useCompression,
      ""]

/-- The audit row of a rendered configuration. -/
def configAudit (tunnel : DeviceTunnel) (userId : Option ℤ) (deviceId : String) : AuditLog :=
  AuditService.record env.runtime "tunnel.frpc_config.read" "success"
    (.obj [(Py.py "proxy_name", .str (Py.py tunnel.proxyName)),
      (Py.py "remote_port", .num (.int tunnel.remotePort))])
    userId (some deviceId)

/-- `TunnelService.render_frpc_config`: the store, and the name and text of the file. -/
def renderFrpcConfig (db : Store) (deviceId : String) (userId : Option ℤ) (now : Timestamp) :
    Except PyError (Store × String × String) := do
  let tunnel ← requireTunnel db deviceId
  let token ← decrypt env tunnel.authTokenEncrypted
  let db' ← commit env.schema
    ((db.writeTunnel tunnel { tunnel with lastConfigGeneratedAt := some now }).insertAuditLog
      (configAudit env tunnel userId deviceId))
  pure (db', tunnel.proxyName ++ "-frpc.toml", frpcToml env tunnel token)

/-! ### What the calls can do -/

section

variable {env} {db : Store} {deviceId : String}

/-- A write of a loaded row of a table with unique keys, as the database has it afterwards. -/
theorem refreshTunnel_writeTunnel {t new : DeviceTunnel}
    (hu : UniqueKey DeviceTunnel.id db.deviceTunnels) (ht : t ∈ db.deviceTunnels)
    (hid : new.id = t.id) : refreshTunnel (db.writeTunnel t new) new = new := by
  unfold refreshTunnel Store.writeTunnel
  have hmerge : (t.merge new t).id = t.id := rfl
  rw [lookup_updateKey hu hu ht hmerge, if_pos hid.symm, DeviceTunnel.merge_self hid]
  rfl

/-- An inserted row, as the database has it afterwards. -/
theorem refreshTunnel_insertTunnel {new : DeviceTunnel}
    (hu : UniqueKey DeviceTunnel.id (db.insertTunnel new).deviceTunnels) :
    refreshTunnel (db.insertTunnel new)
        { new with id := nextKey DeviceTunnel.id db.deviceTunnels } =
      { new with id := nextKey DeviceTunnel.id db.deviceTunnels } := by
  unfold refreshTunnel Store.insertTunnel
  rw [lookup_concat hu, if_pos rfl]
  rfl

theorem commit_flushEnable {nonce : ℕ} {payload : TunnelEnableIn} {port : ℤ} {device : Device}
    {tunnel : Option DeviceTunnel} {db' : Store}
    (h : flushEnable env deviceId nonce payload port device tunnel db = .ok db') :
    db' = writeEnable env deviceId nonce payload port device tunnel db ∧
      db'.Admitted env.schema := by
  unfold flushEnable at h
  split at h
  · simp at h
  · obtain ⟨rfl, hadm⟩ := commit_eq_ok.1 h
    exact ⟨rfl, hadm⟩

theorem ensureNotEnabled_eq_ok {tunnel : Option DeviceTunnel} {u : Unit}
    (h : ensureNotEnabled tunnel = .ok u) : ∀ t, tunnel = some t → t.enabled = false := by
  intro t ht
  subst ht
  unfold ensureNotEnabled at h
  by_cases he : t.enabled = true
  · simp [he] at h
  · simpa using he

/-- All that a successful `enable` can do: move the device to the port it chose, in a new row or in
its disabled one. -/
theorem enable_eq_ok {nonce : ℕ} {payload : TunnelEnableIn} {r : Store × DeviceTunnel}
    (h : enable env db deviceId nonce payload = .ok r) :
    ∃ device ∈ db.devices, ∃ tunnel port, device.deviceId = deviceId ∧
      getTunnel db deviceId = .ok tunnel ∧ (∀ t, tunnel = some t → t.enabled = false) ∧
      choosePort env.settings payload.remotePort
        (db.deviceTunnels.map DeviceTunnel.remotePort) = .ok port ∧
      r.1 = writeEnable env deviceId nonce payload port device tunnel db ∧
      r.1.Admitted env.schema ∧
      r.2 = refreshTunnel r.1 (flushedTunnel tunnel
        (enabledTunnel env deviceId nonce payload port device tunnel) db) := by
  obtain ⟨device, hdevice, h⟩ := bind_eq_ok.1 h
  obtain ⟨tunnel, htunnel, h⟩ := bind_eq_ok.1 h
  obtain ⟨u, hguard, h⟩ := bind_eq_ok.1 h
  obtain ⟨port, hport, h⟩ := bind_eq_ok.1 h
  obtain ⟨db', hflush, h⟩ := bind_eq_ok.1 h
  obtain ⟨hmem, hid⟩ := requireDevice_eq_ok hdevice
  obtain ⟨rfl, hadm⟩ := commit_flushEnable hflush
  cases h
  exact ⟨device, hmem, tunnel, port, hid, htunnel, ensureNotEnabled_eq_ok hguard, hport, rfl, hadm,
    rfl⟩

/-- The row that `enable` returns is the one it has flushed. -/
theorem refreshTunnel_writeEnable {nonce : ℕ} {payload : TunnelEnableIn} {port : ℤ}
    {device : Device} {tunnel : Option DeviceTunnel}
    (hadm : (writeEnable env deviceId nonce payload port device tunnel db).Admitted env.schema)
    (ht : getTunnel db deviceId = .ok tunnel) :
    refreshTunnel (writeEnable env deviceId nonce payload port device tunnel db)
        (flushedTunnel tunnel (enabledTunnel env deviceId nonce payload port device tunnel) db) =
      flushedTunnel tunnel (enabledTunnel env deviceId nonce payload port device tunnel) db := by
  obtain ⟨-, -, ⟨hi, -⟩, -⟩ := hadm
  cases tunnel with
  | none => exact refreshTunnel_insertTunnel hi
  | some t =>
      obtain ⟨hmem, -⟩ := getTunnel_eq_some ht
      have hi' : UniqueKey DeviceTunnel.id db.deviceTunnels :=
        (uniqueKey_updateKey (by exact fun _ _ _ => rfl)).1 hi
      exact refreshTunnel_writeTunnel hi' hmem rfl

/-- The tunnel rows after an `enable`. -/
theorem mem_writeEnable {nonce : ℕ} {payload : TunnelEnableIn} {port : ℤ} {device : Device}
    {tunnel : Option DeviceTunnel} {t : DeviceTunnel}
    (hi : UniqueKey DeviceTunnel.id db.deviceTunnels) (ht : getTunnel db deviceId = .ok tunnel) :
    t ∈ (writeEnable env deviceId nonce payload port device tunnel db).deviceTunnels ↔
      t = flushedTunnel tunnel (enabledTunnel env deviceId nonce payload port device tunnel) db ∨
        t ∈ db.deviceTunnels ∧ t.deviceId ≠ deviceId := by
  have hlookup := getTunnel_eq_ok.1 ht
  cases tunnel with
  | none =>
      have hnone := getTunnel_eq_none ht
      show t ∈ db.deviceTunnels ++ [_] ↔ _
      rw [List.mem_append, List.mem_singleton, or_comm]
      exact or_congr_right ⟨fun hmem => ⟨hmem, hnone t hmem⟩, And.left⟩
  | some read =>
      obtain ⟨hmem, hid⟩ := getTunnel_eq_some ht
      have hrows := filter_of_oneOrNone hlookup
      have hread : ∀ t ∈ db.deviceTunnels, t ≠ read ↔ t.deviceId ≠ deviceId := by
        intro t ht'
        have hone : t ∈ db.deviceTunnels.filter (fun t => decide (t.deviceId = deviceId)) ↔
            t = read := by
          rw [hrows, List.mem_singleton]
        rw [List.mem_filter, decide_eq_true_eq] at hone
        rw [Ne, ← hone, not_and]
        exact ⟨fun h => h ht', fun h _ => h⟩
      have hwrite : t ∈ (writeEnable env deviceId nonce payload port device (some read)
          db).deviceTunnels ↔ _ :=
        @Store.mem_writeTunnel (db.writeDevice device (syncedDevice env payload port device)) _
          (enabledTunnel env deviceId nonce payload port device (some read)) _ hi hmem rfl
      rw [hwrite]
      exact or_congr_right ⟨fun h => ⟨h.1, (hread t h.1).1 h.2⟩, fun h => ⟨h.1, (hread t h.1).2 h.2⟩⟩

/-- The row that `enable` returns is in the table, belongs to the device and is on the port. -/
theorem row_of_enable {nonce : ℕ} {payload : TunnelEnableIn} {r : Store × DeviceTunnel}
    (hi : UniqueKey DeviceTunnel.id db.deviceTunnels)
    (h : enable env db deviceId nonce payload = .ok r) :
    r.2.deviceId = deviceId ∧ choosePort env.settings payload.remotePort
        (db.deviceTunnels.map DeviceTunnel.remotePort) = .ok r.2.remotePort ∧
      ∀ t, t ∈ r.1.deviceTunnels ↔ t = r.2 ∨ t ∈ db.deviceTunnels ∧ t.deviceId ≠ deviceId := by
  obtain ⟨device, -, tunnel, port, -, ht, -, hport, hdb, hadm, hrow⟩ := enable_eq_ok h
  rw [hdb] at hadm hrow
  rw [refreshTunnel_writeEnable hadm ht] at hrow
  have hflushed : (flushedTunnel tunnel (enabledTunnel env deviceId nonce payload port device tunnel)
      db).deviceId = deviceId ∧ (flushedTunnel tunnel
        (enabledTunnel env deviceId nonce payload port device tunnel) db).remotePort = port := by
    cases tunnel with
    | none => exact ⟨rfl, rfl⟩
    | some t => exact ⟨(getTunnel_eq_some ht).2, rfl⟩
  rw [hrow, hdb]
  refine ⟨hflushed.1, ?_, fun t => mem_writeEnable hi ht⟩
  rw [hflushed.2]
  exact hport

/-- The row that `enable` leaves fits its columns. -/
theorem fits_enabledTunnel {nonce : ℕ} {payload : TunnelEnableIn} {port : ℤ} {device : Device}
    {tunnel : Option DeviceTunnel} (hid : tunnel = none → fitsColumn 128 deviceId = true)
    (ht : ∀ t, tunnel = some t → t.fits = true) :
    (enabledTunnel env deviceId nonce payload port device tunnel).fits = true := by
  have hip : fitsColumn 64 payload.localIp.text = true := by
    unfold fitsColumn
    simpa using payload.localIp.length_le
  have htcp : fitsColumn 16 "tcp" = true := by decide
  have hactive : fitsColumn 32 "active" = true := by decide
  cases tunnel with
  | none =>
      have hname : fitsColumn 128 (proxyName deviceId) = true := by
        unfold fitsColumn proxyName
        rw [String.length_ofList, decide_eq_true_eq]
        exact List.length_take_le _ _
      rw [DeviceTunnel.fits_iff]
      exact ⟨hid rfl, htcp, hname, hip, hactive⟩
  | some t =>
      have hfits := DeviceTunnel.fits_iff.1 (ht t rfl)
      rw [DeviceTunnel.fits_iff]
      exact ⟨hfits.deviceId, htcp, hfits.proxyName, hip, hactive⟩

/-- An `enable` keeps the keys of the device row. -/
theorem syncedDevice_keys {payload : TunnelEnableIn} {port : ℤ} {device : Device} :
    (syncedDevice env payload port device).id = device.id ∧
      (syncedDevice env payload port device).deviceId = device.deviceId := by
  unfold syncedDevice
  split <;> exact ⟨rfl, rfl⟩

/-- The write of `base_url` by an `enable`, whatever row its session had read. -/
theorem admitted_syncedDevice {payload : TunnelEnableIn} {port : ℤ} {device : Device}
    (hadm : db.Admitted env.schema) :
    (db.writeDevice device (syncedDevice env payload port device)).Admitted env.schema := by
  unfold syncedDevice
  split
  · exact hadm.writeBaseUrl device _
  · exact hadm.writeBaseUrl device device.baseUrl

/-- On a port that no other row has, the commit of `enable` succeeds. -/
theorem admitted_writeEnable {nonce : ℕ} {payload : TunnelEnableIn} {port : ℤ} {device : Device}
    {tunnel : Option DeviceTunnel} (hadm : db.Admitted env.schema) (hd : device ∈ db.devices)
    (hid : device.deviceId = deviceId) (ht : getTunnel db deviceId = .ok tunnel)
    (hfree : ∀ t ∈ db.deviceTunnels, t.deviceId ≠ deviceId → t.remotePort ≠ port) :
    (writeEnable env deviceId nonce payload port device tunnel db).Admitted env.schema := by
  have hdb : (db.writeDevice device (syncedDevice env payload port device)).Admitted env.schema :=
    admitted_syncedDevice hadm
  cases tunnel with
  | none =>
      have hnone := getTunnel_eq_none ht
      refine hdb.insertTunnel (fun he => fits_enabledTunnel (fun _ => ?_) (by simp))
        (fun t htm => hfree t htm (hnone t htm)) fun _ => hnone
      rw [← hid]
      exact (hadm.columnsFit he hd).deviceId
  | some t =>
      obtain ⟨htm, htid⟩ := getTunnel_eq_some ht
      refine hdb.moveTunnel htm rfl rfl (fun t' htm' hne => hfree t' htm' fun hsame => ?_)
        fun hfits => fits_enabledTunnel (by simp) fun t' ht' => Option.some.inj ht' ▸ hfits
      -- the lookup found one row of the device
      have hone := filter_of_oneOrNone (getTunnel_eq_ok.1 ht)
      have hmem : t' ∈ db.deviceTunnels.filter (fun t => decide (t.deviceId = deviceId)) :=
        List.mem_filter.2 ⟨htm', by simpa using hsame⟩
      rw [hone, List.mem_singleton] at hmem
      exact hne (congrArg DeviceTunnel.id hmem)

/-- **An `enable` that finds a port succeeds**, if no other device has the port. -/
theorem enable_of_port {nonce : ℕ} {payload : TunnelEnableIn} {port : ℤ} {device : Device}
    {tunnel : Option DeviceTunnel} (hadm : db.Admitted env.schema) (hd : device ∈ db.devices)
    (ht : getTunnel db device.deviceId = .ok tunnel)
    (hoff : ∀ t, tunnel = some t → t.enabled = false)
    (hport : choosePort env.settings payload.remotePort
      (db.deviceTunnels.map DeviceTunnel.remotePort) = .ok port)
    (hfree : ∀ t ∈ db.deviceTunnels, t.deviceId ≠ device.deviceId → t.remotePort ≠ port) :
    ∃ r, enable env db device.deviceId nonce payload = .ok r := by
  have hdevice : getDevice db device.deviceId = .ok device :=
    requireDevice_of_mem hadm.2.1.2 hd
  have hguard : ensureNotEnabled tunnel = .ok () := by
    unfold ensureNotEnabled
    cases tunnel with
    | none => rfl
    | some t => simp [hoff t rfl]
  have hadm' : (writeEnable env device.deviceId nonce payload port device tunnel db).Admitted
      env.schema := admitted_writeEnable hadm hd rfl ht hfree
  have hflush : flushEnable env device.deviceId nonce payload port device tunnel db =
      .ok (writeEnable env device.deviceId nonce payload port device tunnel db) := by
    unfold flushEnable
    rw [commit_eq_ok.2 ⟨rfl, hadm'⟩]
  unfold enable
  rw [hdevice]
  exact ⟨_, bind_eq_ok.2 ⟨_, rfl, bind_eq_ok.2 ⟨_, ht, bind_eq_ok.2 ⟨_, hguard,
    bind_eq_ok.2 ⟨_, hport, bind_eq_ok.2 ⟨_, hflush, rfl⟩⟩⟩⟩⟩⟩

/-- All that a successful `update` can do: change the local side of the tunnel. -/
theorem update_eq_ok {payload : TunnelUpdateIn} {r : Store × DeviceTunnel}
    (h : update env db deviceId payload = .ok r) :
    ∃ t ∈ db.deviceTunnels, t.deviceId = deviceId ∧
      r.1 = db.writeTunnel t (updatedTunnel payload t) ∧ r.1.Admitted env.schema := by
  obtain ⟨t, ht, h⟩ := bind_eq_ok.1 h
  obtain ⟨db', hcommit, h⟩ := bind_eq_ok.1 h
  obtain ⟨-, hmem, hid⟩ := requireTunnel_eq_ok ht
  obtain ⟨rfl, hadm⟩ := commit_eq_ok.1 hcommit
  cases h
  exact ⟨t, hmem, hid, rfl, hadm⟩

/-- All that a successful `disable` can do: switch the tunnel off and put `previous_base_url`
back. -/
theorem disable_eq_ok {r : Store × DeviceTunnel} (h : disable env db deviceId = .ok r) :
    ∃ device ∈ db.devices, ∃ t ∈ db.deviceTunnels, device.deviceId = deviceId ∧
      t.deviceId = deviceId ∧
      r.1 = (db.writeDevice device (restoredDevice device t)).writeTunnel t (disabledTunnel t) ∧
      r.1.Admitted env.schema := by
  obtain ⟨device, hdevice, h⟩ := bind_eq_ok.1 h
  obtain ⟨t, ht, h⟩ := bind_eq_ok.1 h
  obtain ⟨db', hcommit, h⟩ := bind_eq_ok.1 h
  obtain ⟨hmem, hid⟩ := requireDevice_eq_ok hdevice
  obtain ⟨-, htmem, htid⟩ := requireTunnel_eq_ok ht
  obtain ⟨rfl, hadm⟩ := commit_eq_ok.1 hcommit
  cases h
  exact ⟨device, hmem, t, htmem, hid, htid, rfl, hadm⟩

/-- The row that `disable` leaves fits its columns, as the old one does. -/
theorem fits_disabledTunnel {t : DeviceTunnel} (h : t.fits = true) :
    (disabledTunnel t).fits = true := by
  have hstatus : fitsColumn 32 "disabled" = true := by decide
  rw [DeviceTunnel.fits_iff] at h ⊢
  exact { h with status := hstatus }

/-- A device with a tunnel row can always be disabled. -/
theorem disable_of_mem {device : Device} {t : DeviceTunnel} (hadm : db.Admitted env.schema)
    (hone : UniqueKey DeviceTunnel.deviceId db.deviceTunnels) (hd : device ∈ db.devices)
    (ht : t ∈ db.deviceTunnels) (hid : device.deviceId = t.deviceId) :
    ∃ t', disable env db t.deviceId =
      .ok ((db.writeDevice device (restoredDevice device t)).writeTunnel t (disabledTunnel t),
        t') := by
  obtain ⟨hdev, hreq⟩ := requireTunnel_of_mem hadm.2.1.2 hone hd ht hid
  have hwrite : ((db.writeDevice device (restoredDevice device t)).writeTunnel t
      (disabledTunnel t)).Admitted env.schema := by
    have hdb : (db.writeDevice device (restoredDevice device t)).Admitted env.schema :=
      hadm.writeDevice hd rfl rfl fun h => h
    exact hdb.writeTunnel ht (by rfl) (by rfl) (by rfl) fits_disabledTunnel
  have hcommit : flushDisable env device t db =
      .ok ((db.writeDevice device (restoredDevice device t)).writeTunnel t (disabledTunnel t)) :=
    commit_eq_ok.2 ⟨rfl, hwrite⟩
  unfold disable
  rw [hdev, hreq]
  exact ⟨_, bind_eq_ok.2 ⟨_, rfl, bind_eq_ok.2 ⟨_, rfl, bind_eq_ok.2 ⟨_, hcommit, rfl⟩⟩⟩⟩

/-- All that a successful `rotate_token` can do: encrypt the configured token anew. -/
theorem rotateToken_eq_ok {nonce : ℕ} {r : Store × String}
    (h : rotateToken env db deviceId nonce = .ok r) :
    ∃ t ∈ db.deviceTunnels, t.deviceId = deviceId ∧
      r.1 = db.writeTunnel t
        { t with authTokenEncrypted := env.cipher.encrypt nonce env.settings.frpsAuthToken } ∧
      r.1.Admitted env.schema := by
  obtain ⟨t, ht, h⟩ := bind_eq_ok.1 h
  obtain ⟨db', hcommit, h⟩ := bind_eq_ok.1 h
  obtain ⟨-, hmem, hid⟩ := requireTunnel_eq_ok ht
  obtain ⟨rfl, hadm⟩ := commit_eq_ok.1 hcommit
  cases h
  exact ⟨t, hmem, hid, rfl, hadm⟩

/-- All that a successful `render_frpc_config` can do: note the time and write an audit row. -/
theorem renderFrpcConfig_eq_ok {userId : Option ℤ} {now : Timestamp}
    {r : Store × String × String} (h : renderFrpcConfig env db deviceId userId now = .ok r) :
    ∃ t ∈ db.deviceTunnels, t.deviceId = deviceId ∧
      r.1 = (db.writeTunnel t { t with lastConfigGeneratedAt := some now }).insertAuditLog
        (configAudit env t userId deviceId) ∧
      r.1.Admitted env.schema ∧
      ∃ token, env.cipher.decrypt t.authTokenEncrypted = some token ∧
        r.2 = (t.proxyName ++ "-frpc.toml", frpcToml env t token) := by
  obtain ⟨t, ht, h⟩ := bind_eq_ok.1 h
  obtain ⟨token, htoken, h⟩ := bind_eq_ok.1 h
  obtain ⟨db', hcommit, h⟩ := bind_eq_ok.1 h
  obtain ⟨-, hmem, hid⟩ := requireTunnel_eq_ok ht
  obtain ⟨rfl, hadm⟩ := commit_eq_ok.1 hcommit
  have hdec : env.cipher.decrypt t.authTokenEncrypted = some token := by
    unfold decrypt at htoken
    split at htoken
    · rename_i plaintext hplain
      rw [hplain, Except.ok.inj htoken]
    · simp at htoken
  cases h
  exact ⟨t, hmem, hid, rfl, hadm, token, hdec, rfl⟩

/-- The configuration of a tunnel row whose token decrypts can always be rendered. -/
theorem renderFrpcConfig_of_mem {device : Device} {t : DeviceTunnel} {token : String}
    (hadm : db.Admitted env.schema) (hone : UniqueKey DeviceTunnel.deviceId db.deviceTunnels)
    (hd : device ∈ db.devices) (ht : t ∈ db.deviceTunnels) (hid : device.deviceId = t.deviceId)
    (htoken : env.cipher.decrypt t.authTokenEncrypted = some token) (userId : Option ℤ)
    (now : Timestamp) :
    ∃ db', renderFrpcConfig env db t.deviceId userId now =
      .ok (db', t.proxyName ++ "-frpc.toml", frpcToml env t token) := by
  obtain ⟨hdev, hreq⟩ := requireTunnel_of_mem hadm.2.1.2 hone hd ht hid
  have hdec : decrypt env t.authTokenEncrypted = .ok token := by
    unfold decrypt
    rw [htoken]
  have hwrite : (db.writeTunnel t { t with lastConfigGeneratedAt := some now }).Admitted
      env.schema := hadm.writeTunnel ht rfl rfl rfl id
  have haudit : env.schema.enforceLengths = true →
      (configAudit env t userId t.deviceId).fits = true := by
    intro he
    have hfits := hadm.tunnelColumnsFit he ht
    simp only [AuditLog.fits, configAudit, AuditService.record, Option.all_some, hfits.deviceId,
      Bool.and_true]
    decide
  have hcommit := commit_eq_ok.2 ⟨rfl, hwrite.insertAuditLog haudit⟩
  unfold renderFrpcConfig
  rw [hreq]
  exact ⟨_, bind_eq_ok.2 ⟨_, rfl, bind_eq_ok.2 ⟨_, hdec, bind_eq_ok.2 ⟨_, hcommit, rfl⟩⟩⟩⟩

end

end TunnelService

end SmsForwarder
