/-
**Sequential runs of the device and tunnel services.**

The calls of both services as operations on the store, what holds of the tables in every store a
run reaches, and the view of a store as a system of leases: the setting of a device is its
`base_url`, the lease on it is its tunnel, and `previous_base_url` is the value kept aside.

Main definitions:

* `SmsForwarder.TunnelOp`, `SmsForwarder.TunnelOp.exec` — the calls, failing ones included;
* `SmsForwarder.RowSound`, `SmsForwarder.TunnelsSound` — what holds of tunnel rows and tables;
* `SmsForwarder.view`, `SmsForwarder.move` — a store as a state of leases, a call as a move.

Main results:

* `SmsForwarder.tunnelsSound_exec`, `SmsForwarder.tunnelsSound_final` — every call keeps the tables
  sound, so they are sound after every run;
* `SmsForwarder.exec_view` — **a call moves the view by a legal move.**
-/

import SmsForwarder.Leases
import SmsForwarder.Runs
import SmsForwarder.TunnelService

set_option relaxedAutoImplicit false
set_option autoImplicit false

namespace SmsForwarder

open Tables Runs TunnelService

/-! ### Calls -/

/-- A call of the device service or the tunnel service that writes.  The identifiers, nonces and
times the code draws are arguments. -/
inductive TunnelOp
  | create (uuid : Uuid) (nonce : ℕ) (payload : DeviceCreate)
  | updateDevice (deviceId : String) (nonce : ℕ) (payload : DeviceUpdate)
  | enable (deviceId : String) (nonce : ℕ) (payload : TunnelEnableIn)
  | update (deviceId : String) (payload : TunnelUpdateIn)
  | disable (deviceId : String)
  | rotateToken (deviceId : String) (nonce : ℕ)
  | renderFrpcConfig (deviceId : String) (userId : Option ℤ) (now : Timestamp)

/-- What a call returns. -/
inductive TunnelAnswer
  | device (d : Device)
  | tunnel (t : DeviceTunnel)
  | token (token : String)
  | config (filename content : String)

namespace TunnelOp

variable (env : Env)

/-- The call on a committed store. -/
def run (db : Store) : TunnelOp → Except PyError (Store × TunnelAnswer)
  | create uuid nonce payload =>
      (DeviceService.create env db uuid nonce payload).map fun r => (r.1, .device r.2)
  | updateDevice deviceId nonce payload =>
      (DeviceService.update env db deviceId nonce payload).map fun r => (r.1, .device r.2)
  | enable deviceId nonce payload =>
      (TunnelService.enable env db deviceId nonce payload).map fun r => (r.1, .tunnel r.2)
  | update deviceId payload =>
      (TunnelService.update env db deviceId payload).map fun r => (r.1, .tunnel r.2)
  | disable deviceId => (TunnelService.disable env db deviceId).map fun r => (r.1, .tunnel r.2)
  | rotateToken deviceId nonce =>
      (TunnelService.rotateToken env db deviceId nonce).map fun r => (r.1, .token r.2)
  | renderFrpcConfig deviceId userId now =>
      (TunnelService.renderFrpcConfig env db deviceId userId now).map fun r =>
        (r.1, .config r.2.1 r.2.2)

/-- The call with its answer and the store it leaves. -/
def exec (db : Store) (op : TunnelOp) : Except PyError TunnelAnswer × Store :=
  attempt (run env db op) db

end TunnelOp

/-- An executed call of a run. -/
abbrev TunnelCall := Call Store TunnelOp (Except PyError TunnelAnswer)

/-! ### Sound tables -/

variable (env : Env)

/-- What holds of every tunnel row: the port is allowed, the addresses and the name are those
computed for the row, the status follows `enabled`, `local_ip` passed its validator, and the stored
token is the configured one. -/
structure RowSound (t : DeviceTunnel) : Prop where
  minPort : env.settings.frpsAllowPortMin ≤ t.remotePort
  maxPort : t.remotePort ≤ env.settings.frpsAllowPortMax
  internalBaseUrl : t.internalBaseUrl = internalBaseUrl env.settings t.remotePort
  publicBaseUrl : t.publicBaseUrl = some (publicBaseUrl env.settings t.remotePort)
  status : t.status = if t.enabled then "active" else "disabled"
  proxyType : t.proxyType = "tcp"
  proxyName : t.proxyName = proxyName t.deviceId
  localIp : ∃ ip : LocalIp, t.localIp = ip.text
  token : env.cipher.decrypt t.authTokenEncrypted = some env.settings.frpsAuthToken

/-- What holds of the device and tunnel tables besides the constraints of the schema. -/
structure TunnelsSound (db : Store) : Prop where
  oneRow : UniqueKey DeviceTunnel.deviceId db.deviceTunnels
  owned : ∀ t ∈ db.deviceTunnels, ∃ d ∈ db.devices, d.deviceId = t.deviceId
  named : ∀ d ∈ db.devices, ∃ uuid, d.deviceId = generateDeviceId uuid
  rows : ∀ t ∈ db.deviceTunnels, RowSound env t

theorem tunnelsSound_empty : TunnelsSound env Store.empty :=
  ⟨uniqueKey_nil _, by simp [Store.empty], by simp [Store.empty], by simp [Store.empty]⟩

section

variable {env} {db : Store}

theorem TunnelsSound.insertDevice {uuid : Uuid} {new : Device} (h : TunnelsSound env db)
    (hid : new.deviceId = generateDeviceId uuid) : TunnelsSound env (db.insertDevice new) := by
  refine ⟨h.oneRow, fun t ht => ?_, fun d hd => ?_, h.rows⟩
  · obtain ⟨d, hd, hdt⟩ := h.owned t ht
    exact ⟨d, List.mem_append_left _ hd, hdt⟩
  · rcases List.mem_append.1 hd with hd | hd
    · exact h.named d hd
    · rw [List.mem_singleton] at hd
      exact ⟨uuid, by rw [hd, hid]⟩

theorem TunnelsSound.writeDevice {device new : Device} (h : TunnelsSound env db)
    (hu : UniqueKey Device.id db.devices) (hd : device ∈ db.devices) (hid : new.id = device.id)
    (hdev : new.deviceId = device.deviceId) : TunnelsSound env (db.writeDevice device new) := by
  have hmem : ∀ d, d ∈ (db.writeDevice device new).devices ↔
      d = new ∨ (d ∈ db.devices ∧ d ≠ device) := fun _ => Store.mem_writeDevice hu hd hid
  refine ⟨h.oneRow, fun t ht => ?_, fun d hd' => ?_, h.rows⟩
  · obtain ⟨d, hd', hdt⟩ := h.owned t ht
    by_cases hdd : d = device
    · exact ⟨new, (hmem new).2 (Or.inl rfl), by rw [hdev, ← hdd, hdt]⟩
    · exact ⟨d, (hmem d).2 (Or.inr ⟨hd', hdd⟩), hdt⟩
  · rcases (hmem d).1 hd' with rfl | ⟨hd', -⟩
    · rw [hdev]
      exact h.named device hd
    · exact h.named d hd'

theorem TunnelsSound.writeTunnel {t new : DeviceTunnel} (h : TunnelsSound env db)
    (hu : UniqueKey DeviceTunnel.id db.deviceTunnels) (ht : t ∈ db.deviceTunnels)
    (hid : new.id = t.id) (hdev : new.deviceId = t.deviceId) (hrow : RowSound env new) :
    TunnelsSound env (db.writeTunnel t new) := by
  have hmem : ∀ t', t' ∈ (db.writeTunnel t new).deviceTunnels ↔
      t' = new ∨ (t' ∈ db.deviceTunnels ∧ t' ≠ t) := fun _ => Store.mem_writeTunnel hu ht hid
  refine ⟨?_, fun t' ht' => ?_, h.named, fun t' ht' => ?_⟩
  · refine (uniqueKey_updateKey fun t' ht' hk => ?_).2 h.oneRow
    rw [hu.eq ht' ht hk, DeviceTunnel.merge_self hid, hdev]
  · rcases (hmem t').1 ht' with rfl | ⟨ht', -⟩
    · rw [hdev]
      exact h.owned t ht
    · exact h.owned t' ht'
  · rcases (hmem t').1 ht' with rfl | ⟨ht', -⟩
    · exact hrow
    · exact h.rows t' ht'

theorem TunnelsSound.insertTunnel {device : Device} {new : DeviceTunnel}
    (h : TunnelsSound env db) (hd : device ∈ db.devices) (hdev : new.deviceId = device.deviceId)
    (hfree : ∀ t ∈ db.deviceTunnels, t.deviceId ≠ new.deviceId)
    (hrow : ∀ id, RowSound env { new with id }) : TunnelsSound env (db.insertTunnel new) := by
  refine ⟨uniqueKey_concat.2 ⟨h.oneRow, hfree⟩, fun t ht => ?_, h.named, fun t ht => ?_⟩
  · rcases List.mem_append.1 ht with ht | ht
    · exact h.owned t ht
    · rw [List.mem_singleton] at ht
      exact ⟨device, hd, by rw [ht, hdev]⟩
  · rcases List.mem_append.1 ht with ht | ht
    · exact h.rows t ht
    · rw [List.mem_singleton] at ht
      rw [ht]
      exact hrow _

end

/-! ### Rows -/

section

variable {env} {t : DeviceTunnel}

theorem rowSound_enabled {deviceId : String} {nonce : ℕ} {payload : TunnelEnableIn} {port : ℤ}
    {device : Device} {tunnel : Option DeviceTunnel}
    (hport : env.settings.frpsAllowPortMin ≤ port ∧ port ≤ env.settings.frpsAllowPortMax)
    (hrow : ∀ t, tunnel = some t → RowSound env t) :
    RowSound env (enabledTunnel env deviceId nonce payload port device tunnel) := by
  cases tunnel with
  | none =>
      exact ⟨hport.1, hport.2, rfl, rfl, rfl, rfl, rfl, ⟨payload.localIp, rfl⟩,
        env.cipher.decrypt_encrypt _ _⟩
  | some t =>
      exact ⟨hport.1, hport.2, rfl, rfl, rfl, rfl, (hrow t rfl).proxyName,
        ⟨payload.localIp, rfl⟩, env.cipher.decrypt_encrypt _ _⟩

theorem rowSound_updated {payload : TunnelUpdateIn} (h : RowSound env t) :
    RowSound env (updatedTunnel payload t) := by
  refine { h with localIp := ?_ }
  unfold updatedTunnel
  -- only a non-null `local_ip` replaces the one of the row
  cases hp : payload.localIp with
  | none => exact h.localIp
  | some ip =>
      cases ip with
      | none => exact h.localIp
      | some ip => exact ⟨ip, rfl⟩

theorem rowSound_disabled (h : RowSound env t) : RowSound env (disabledTunnel t) :=
  { h with status := rfl }

end

/-! ### Every call keeps the tables sound -/

section

variable {env} {db : Store}

theorem tunnelsSound_writeEnable {deviceId : String} {nonce : ℕ} {payload : TunnelEnableIn}
    {port : ℤ} {device : Device} {tunnel : Option DeviceTunnel} (hadm : db.Admitted env.schema)
    (h : TunnelsSound env db) (hd : device ∈ db.devices) (hid : device.deviceId = deviceId)
    (ht : getTunnel db deviceId = .ok tunnel)
    (hport : env.settings.frpsAllowPortMin ≤ port ∧ port ≤ env.settings.frpsAllowPortMax) :
    TunnelsSound env (writeEnable env deviceId nonce payload port device tunnel db) := by
  have hsynced : (syncedDevice env payload port device).id = device.id ∧
      (syncedDevice env payload port device).deviceId = device.deviceId := syncedDevice_keys
  obtain ⟨-, ⟨hdu, -⟩, ⟨htu, -⟩, -⟩ := hadm
  have hdb := h.writeDevice hdu hd hsynced.1 hsynced.2
  have hdev : syncedDevice env payload port device ∈
      (db.writeDevice device (syncedDevice env payload port device)).devices :=
    (Store.mem_writeDevice hdu hd hsynced.1).2 (Or.inl rfl)
  cases tunnel with
  | none =>
      have hrow : RowSound env (enabledTunnel env deviceId nonce payload port device none) :=
        rowSound_enabled hport (by simp)
      exact hdb.insertTunnel hdev (by rw [hsynced.2, hid]; rfl) (getTunnel_eq_none ht)
        fun id => { hrow with }
  | some t =>
      obtain ⟨hmem, htid⟩ := getTunnel_eq_some ht
      have hrow : RowSound env (enabledTunnel env deviceId nonce payload port device (some t)) := by
        refine rowSound_enabled hport fun t' ht' => ?_
        obtain rfl := Option.some.inj ht'
        exact h.rows t hmem
      exact hdb.writeTunnel htu hmem rfl rfl hrow

/-- What a successful call of the device or the tunnel service leaves was committed. -/
theorem admitted_tunnelOp {op : TunnelOp} {r : Store × TunnelAnswer}
    (hr : op.run env db = .ok r) : r.1.Admitted env.schema := by
  cases op with
  | create uuid nonce payload =>
      obtain ⟨r, hcall, rfl⟩ := map_eq_ok.1 hr
      exact (DeviceService.create_eq_ok hcall).2
  | updateDevice deviceId nonce payload =>
      obtain ⟨r, hcall, rfl⟩ := map_eq_ok.1 hr
      obtain ⟨device, -, new, -, -, -, -, hadm'⟩ := DeviceService.update_eq_ok hcall
      exact hadm'
  | enable deviceId nonce payload =>
      obtain ⟨r, hcall, rfl⟩ := map_eq_ok.1 hr
      obtain ⟨device, -, tunnel, port, -, -, -, -, -, hadm', -⟩ := enable_eq_ok hcall
      exact hadm'
  | update deviceId payload =>
      obtain ⟨r, hcall, rfl⟩ := map_eq_ok.1 hr
      obtain ⟨t, -, -, -, hadm'⟩ := TunnelService.update_eq_ok hcall
      exact hadm'
  | disable deviceId =>
      obtain ⟨r, hcall, rfl⟩ := map_eq_ok.1 hr
      obtain ⟨device, -, t, -, -, -, -, hadm'⟩ := disable_eq_ok hcall
      exact hadm'
  | rotateToken deviceId nonce =>
      obtain ⟨r, hcall, rfl⟩ := map_eq_ok.1 hr
      obtain ⟨t, -, -, -, hadm'⟩ := rotateToken_eq_ok hcall
      exact hadm'
  | renderFrpcConfig deviceId userId now =>
      obtain ⟨r, hcall, rfl⟩ := map_eq_ok.1 hr
      obtain ⟨t, -, -, -, hadm', -⟩ := renderFrpcConfig_eq_ok hcall
      exact hadm'

/-- **Soundness is kept**: a successful call turns sound tables into sound tables that meet the
constraints. -/
theorem tunnelsSound_run {op : TunnelOp} {r : Store × TunnelAnswer}
    (hadm : db.Admitted env.schema) (h : TunnelsSound env db) (hr : op.run env db = .ok r) :
    r.1.Admitted env.schema ∧ TunnelsSound env r.1 := by
  obtain ⟨hdu, -⟩ := hadm.2.1
  obtain ⟨htu, -⟩ := hadm.2.2.1
  refine ⟨admitted_tunnelOp hr, ?_⟩
  cases op with
  | create uuid nonce payload =>
      obtain ⟨r, hcall, rfl⟩ := map_eq_ok.1 hr
      obtain ⟨hdb, -⟩ := DeviceService.create_eq_ok hcall
      rw [hdb]
      exact h.insertDevice rfl
  | updateDevice deviceId nonce payload =>
      obtain ⟨r, hcall, rfl⟩ := map_eq_ok.1 hr
      obtain ⟨device, hd, new, hid, hassign, -, hdb, -⟩ := DeviceService.update_eq_ok hcall
      obtain ⟨hnew, hdev, -⟩ := DeviceService.assign_eq_ok hassign
      rw [hdb]
      exact h.writeDevice hdu hd hnew hdev
  | enable deviceId nonce payload =>
      obtain ⟨r, hcall, rfl⟩ := map_eq_ok.1 hr
      obtain ⟨device, hd, tunnel, port, hid, ht, -, hport, hdb, -⟩ := enable_eq_ok hcall
      rw [hdb]
      exact tunnelsSound_writeEnable hadm h hd hid ht (choosePort_eq_ok hport)
  | update deviceId payload =>
      obtain ⟨r, hcall, rfl⟩ := map_eq_ok.1 hr
      obtain ⟨t, ht, hid, hdb, -⟩ := TunnelService.update_eq_ok hcall
      rw [hdb]
      exact h.writeTunnel htu ht rfl rfl (rowSound_updated (h.rows t ht))
  | disable deviceId =>
      obtain ⟨r, hcall, rfl⟩ := map_eq_ok.1 hr
      obtain ⟨device, hd, t, ht, hid, htid, hdb, -⟩ := disable_eq_ok hcall
      rw [hdb]
      have hdev : TunnelsSound env (db.writeDevice device (restoredDevice device t)) :=
        h.writeDevice hdu hd rfl rfl
      exact hdev.writeTunnel htu ht rfl rfl (rowSound_disabled (h.rows t ht))
  | rotateToken deviceId nonce =>
      obtain ⟨r, hcall, rfl⟩ := map_eq_ok.1 hr
      obtain ⟨t, ht, hid, hdb, -⟩ := rotateToken_eq_ok hcall
      rw [hdb]
      exact h.writeTunnel htu ht rfl rfl
        { h.rows t ht with token := env.cipher.decrypt_encrypt _ _ }
  | renderFrpcConfig deviceId userId now =>
      obtain ⟨r, hcall, rfl⟩ := map_eq_ok.1 hr
      obtain ⟨t, ht, hid, hdb, -⟩ := renderFrpcConfig_eq_ok hcall
      rw [hdb]
      have hrow : RowSound env { t with lastConfigGeneratedAt := some now } :=
        { h.rows t ht with }
      have hsound : TunnelsSound env
          (db.writeTunnel t { t with lastConfigGeneratedAt := some now }) :=
        h.writeTunnel htu ht rfl rfl hrow
      exact { hsound with }

end

/-- Every call keeps the constraints and the soundness of the tables. -/
theorem tunnelsSound_exec {db : Store} {op : TunnelOp}
    (h : db.Admitted env.schema ∧ TunnelsSound env db) :
    (op.exec env db).2.Admitted env.schema ∧ TunnelsSound env (op.exec env db).2 :=
  attempt_keeps (P := fun db => db.Admitted env.schema ∧ TunnelsSound env db) h
    fun _ _ hr => tunnelsSound_run h.1 h.2 hr

/-- The tables are sound after every run from the empty database. -/
theorem tunnelsSound_final (ops : List TunnelOp) :
    (final (TunnelOp.exec env) Store.empty ops).Admitted env.schema ∧
      TunnelsSound env (final (TunnelOp.exec env) Store.empty ops) :=
  run_induction (TunnelOp.exec env)
    (P := fun db _ => db.Admitted env.schema ∧ TunnelsSound env db)
    ⟨Store.admitted_empty env.schema, tunnelsSound_empty env⟩
    (fun _ _ _ h => tunnelsSound_exec env h) ops

/-! ### The store as leases -/

def holdOf (t : DeviceTunnel) : Leases.Hold (Option String) ℤ :=
  ⟨t.remotePort, t.enabled, t.previousBaseUrl⟩

/-- The `base_url` of every device, and the tunnel on it. -/
def view (db : Store) : Leases.State String (Option String) ℤ := fun deviceId =>
  (lookup Device.deviceId deviceId db.devices).map fun d =>
    ⟨d.baseUrl, (lookup DeviceTunnel.deviceId deviceId db.deviceTunnels).map holdOf⟩

/-- The value a lease shows: the address of the tunnel. -/
def render (s : Settings) (port : ℤ) : Option String := some (internalBaseUrl s port)

/-- The move a call amounts to. -/
def move (c : TunnelCall) : Leases.Move String (Option String) ℤ :=
  match c.op, c.answer with
  | .create uuid _ payload, .ok _ =>
      .create (generateDeviceId uuid) (payload.baseUrl.map HttpUrl.str)
  | .updateDevice deviceId _ payload, .ok _ =>
      match payload.baseUrl with
      | some url => .set deviceId (url.map HttpUrl.str)
      | none => .skip
  | .enable deviceId _ payload, .ok (.tunnel t) =>
      .acquire deviceId t.remotePort payload.syncDeviceBaseUrl
  | .disable deviceId, .ok _ => .release deviceId
  | _, _ => .skip

section

variable {env} {db : Store}

theorem view_of_mem {d : Device} (hu : UniqueKey Device.deviceId db.devices)
    (hd : d ∈ db.devices) : view db d.deviceId =
      some ⟨d.baseUrl, (lookup DeviceTunnel.deviceId d.deviceId db.deviceTunnels).map holdOf⟩ := by
  unfold view
  rw [(lookup_eq_some_iff hu).2 ⟨hd, rfl⟩]
  rfl

theorem hold_of_mem {t : DeviceTunnel} (hu : UniqueKey DeviceTunnel.deviceId db.deviceTunnels)
    (ht : t ∈ db.deviceTunnels) :
    (lookup DeviceTunnel.deviceId t.deviceId db.deviceTunnels).map holdOf = some (holdOf t) := by
  rw [(lookup_eq_some_iff hu).2 ⟨ht, rfl⟩]
  rfl

/-- A device is taken over exactly when it has an enabled tunnel. -/
theorem not_held_iff {deviceId : String} {c : Leases.Cell (Option String) ℤ}
    (h : TunnelsSound env db)
    (hc : c.hold = (lookup DeviceTunnel.deviceId deviceId db.deviceTunnels).map holdOf) :
    ¬ c.Held ↔ ∀ t ∈ db.deviceTunnels, t.deviceId = deviceId → t.enabled = false := by
  constructor
  · intro hfree t ht hid
    subst hid
    rw [hold_of_mem h.oneRow ht] at hc
    by_contra hon
    have hon : t.enabled = true := by simpa using hon
    exact hfree ⟨holdOf t, hc, hon⟩
  · intro hoff hheld
    obtain ⟨hold, hhold, hactive⟩ := hheld
    obtain ⟨t, ht, rfl⟩ := Option.map_eq_some_iff.1 (hc.symm.trans hhold)
    obtain ⟨hmem, hid⟩ := (lookup_eq_some_iff h.oneRow).1 ht
    have hon : t.enabled = true := hactive
    simp [hoff t hmem hid] at hon

theorem view_insertDevice {new : Device}
    (hu : UniqueKey Device.deviceId (db.insertDevice new).devices)
    (hfree : ∀ t ∈ db.deviceTunnels, t.deviceId ≠ new.deviceId) :
    view (db.insertDevice new) =
      Function.update (view db) new.deviceId (some ⟨new.baseUrl, none⟩) := by
  funext k
  unfold view Store.insertDevice
  rw [lookup_concat hu]
  by_cases hk : new.deviceId = k
  · subst hk
    rw [lookup_eq_none_iff.2 hfree]
    simp
  · rw [if_neg hk, Function.update_of_ne (Ne.symm hk)]

theorem view_writeDevice {d new : Device} (hi : UniqueKey Device.id db.devices)
    (hu : UniqueKey Device.deviceId db.devices) (hd : d ∈ db.devices) (hid : new.id = d.id)
    (hdev : new.deviceId = d.deviceId) :
    view (db.writeDevice d new) = Function.update (view db) d.deviceId
      (some ⟨new.baseUrl,
        (lookup DeviceTunnel.deviceId d.deviceId db.deviceTunnels).map holdOf⟩) := by
  funext k
  unfold view Store.writeDevice
  rw [lookup_updateKey hi hu hd (by rw [Device.merge_self hid, hdev]), Device.merge_self hid]
  by_cases hk : d.deviceId = k
  · subst hk
    simp
  · rw [if_neg hk, Function.update_of_ne (Ne.symm hk)]

theorem view_insertTunnel {new : DeviceTunnel}
    (hu : UniqueKey DeviceTunnel.deviceId (db.insertTunnel new).deviceTunnels) :
    view (db.insertTunnel new) = Function.update (view db) new.deviceId
      ((view db new.deviceId).map fun c => { c with hold := some (holdOf new) }) := by
  funext k
  unfold view Store.insertTunnel
  rw [lookup_concat hu]
  by_cases hk : new.deviceId = k
  · subst hk
    simp [Option.map_map, Function.comp_def, holdOf]
  · rw [if_neg hk, Function.update_of_ne (Ne.symm hk)]

theorem view_writeTunnel {t new : DeviceTunnel} (hi : UniqueKey DeviceTunnel.id db.deviceTunnels)
    (hu : UniqueKey DeviceTunnel.deviceId db.deviceTunnels) (ht : t ∈ db.deviceTunnels)
    (hid : new.id = t.id) (hdev : new.deviceId = t.deviceId) :
    view (db.writeTunnel t new) = Function.update (view db) t.deviceId
      ((view db t.deviceId).map fun c => { c with hold := some (holdOf new) }) := by
  funext k
  unfold view Store.writeTunnel
  rw [lookup_updateKey hi hu ht (by rw [DeviceTunnel.merge_self hid, hdev]),
    DeviceTunnel.merge_self hid]
  by_cases hk : t.deviceId = k
  · subst hk
    simp [Option.map_map, Function.comp_def]
  · rw [if_neg hk, Function.update_of_ne (Ne.symm hk)]

/-- A write that keeps what the view shows of the row. -/
theorem view_writeTunnel_same {t new : DeviceTunnel}
    (hi : UniqueKey DeviceTunnel.id db.deviceTunnels)
    (hu : UniqueKey DeviceTunnel.deviceId db.deviceTunnels) (ht : t ∈ db.deviceTunnels)
    (hid : new.id = t.id) (hdev : new.deviceId = t.deviceId) (hhold : holdOf new = holdOf t) :
    view (db.writeTunnel t new) = view db := by
  rw [view_writeTunnel hi hu ht hid hdev, hhold, Function.update_eq_self_iff]
  unfold view
  rw [hold_of_mem hu ht, Option.map_map]
  rfl

/-- An `enable` is an acquisition of the lease on the device. -/
theorem view_writeEnable {nonce : ℕ} {payload : TunnelEnableIn} {port : ℤ} {device : Device}
    {tunnel : Option DeviceTunnel} (hadm : db.Admitted env.schema) (h : TunnelsSound env db)
    (hd : device ∈ db.devices) (ht : getTunnel db device.deviceId = .ok tunnel)
    (h' : TunnelsSound env (writeEnable env device.deviceId nonce payload port device tunnel db)) :
    view (writeEnable env device.deviceId nonce payload port device tunnel db) =
      Leases.apply (render env.settings) (view db)
        (.acquire device.deviceId port payload.syncDeviceBaseUrl) := by
  obtain ⟨-, ⟨hdi, hdu⟩, ⟨hti, -⟩, -⟩ := hadm
  have hkeep : (syncedDevice env payload port device).id = device.id ∧
      (syncedDevice env payload port device).deviceId = device.deviceId := syncedDevice_keys
  have hbase : (syncedDevice env payload port device).baseUrl =
      if payload.syncDeviceBaseUrl = true then render env.settings port else device.baseUrl := by
    unfold syncedDevice
    split <;> rfl
  have hdev := view_writeDevice hdi hdu hd hkeep.1 hkeep.2
  rw [Leases.apply, view_of_mem hdu hd, Option.map_some, Leases.Cell.acquire, ← hbase]
  cases tunnel with
  | none =>
      have hnew : (enabledTunnel env device.deviceId nonce payload port device none).deviceId =
          device.deviceId := rfl
      have hins := view_insertTunnel h'.oneRow
      rw [hnew, hdev, Function.update_self, Function.update_idem] at hins
      exact hins
  | some t =>
      obtain ⟨hmem, htid⟩ := getTunnel_eq_some ht
      have hwrite : view (writeEnable env device.deviceId nonce payload port device (some t) db) =
          Function.update (view (db.writeDevice device (syncedDevice env payload port device)))
            t.deviceId _ :=
        view_writeTunnel hti h.oneRow hmem rfl rfl
      rw [htid, hdev, Function.update_self, Function.update_idem] at hwrite
      exact hwrite

/-- A `disable` is a release of the lease on the device. -/
theorem view_writeDisable {device : Device} {t : DeviceTunnel} (hadm : db.Admitted env.schema)
    (h : TunnelsSound env db) (hd : device ∈ db.devices) (ht : t ∈ db.deviceTunnels)
    (hid : device.deviceId = t.deviceId) :
    view ((db.writeDevice device (restoredDevice device t)).writeTunnel t (disabledTunnel t)) =
      Leases.apply (render env.settings) (view db) (.release t.deviceId) := by
  obtain ⟨-, ⟨hdi, hdu⟩, ⟨hti, -⟩, -⟩ := hadm
  have hcell := view_of_mem hdu hd
  rw [hid, hold_of_mem h.oneRow ht] at hcell
  have hwrite : view ((db.writeDevice device (restoredDevice device t)).writeTunnel t
      (disabledTunnel t)) =
      Function.update (view (db.writeDevice device (restoredDevice device t))) t.deviceId _ :=
    view_writeTunnel hti h.oneRow ht rfl rfl
  have hdev : view (db.writeDevice device (restoredDevice device t)) =
      Function.update (view db) device.deviceId _ := view_writeDevice hdi hdu hd rfl rfl
  rw [Leases.apply, hwrite, hdev, hid, hold_of_mem h.oneRow ht, Function.update_self,
    Function.update_idem, hcell]
  rfl

/-! ### Calls as moves -/

/-- Creating a device creates its setting. -/
theorem view_create {uuid : Uuid} {nonce : ℕ} {payload : DeviceCreate} {r : Store × Device}
    (h : TunnelsSound env db) (hcall : DeviceService.create env db uuid nonce payload = .ok r) :
    Leases.Legal (view db)
        (.create (generateDeviceId uuid) (payload.baseUrl.map HttpUrl.str)) ∧
      view r.1 = Leases.apply (render env.settings) (view db)
        (.create (generateDeviceId uuid) (payload.baseUrl.map HttpUrl.str)) := by
  obtain ⟨hdb, hadm'⟩ := DeviceService.create_eq_ok hcall
  obtain ⟨-, hu⟩ := hadm'.2.1
  rw [hdb] at hu
  have hnew : ∀ d ∈ db.devices, d.deviceId ≠ generateDeviceId uuid := (uniqueKey_concat.1 hu).2
  constructor
  · change view db (generateDeviceId uuid) = none
    unfold view
    rw [lookup_eq_none_iff.2 hnew]
    rfl
  · rw [hdb]
    refine view_insertDevice hu fun t ht => ?_
    obtain ⟨d, hd, hdt⟩ := h.owned t ht
    rw [← hdt]
    exact hnew d hd

/-- An update of a device sets its setting, if it carries a `base_url`. -/
theorem view_updateDevice {deviceId : String} {nonce : ℕ} {payload : DeviceUpdate}
    {r : Store × Device} (answer : TunnelAnswer) (hadm : db.Admitted env.schema)
    (h : TunnelsSound env db) (hcall : DeviceService.update env db deviceId nonce payload = .ok r) :
    Leases.Legal (view db) (move ⟨db, .updateDevice deviceId nonce payload, .ok answer, r.1⟩) ∧
      view r.1 = Leases.apply (render env.settings) (view db)
        (move ⟨db, .updateDevice deviceId nonce payload, .ok answer, r.1⟩) := by
  obtain ⟨hdi, hdu⟩ := hadm.2.1
  obtain ⟨device, hd, new, rfl, hassign, hguard, hdb, -⟩ := DeviceService.update_eq_ok hcall
  obtain ⟨hid, hdev, hbase⟩ := DeviceService.assign_eq_ok hassign
  rw [hdb, view_writeDevice hdi hdu hd hid hdev, hbase]
  cases hp : payload.baseUrl with
  | none =>
      refine ⟨by simp [move, hp, Leases.Legal], ?_⟩
      simp only [move, hp, Leases.apply, DeviceService.patchNullable, ← view_of_mem hdu hd,
        Function.update_eq_self]
  | some url =>
      constructor
      · simp only [move, hp, Leases.Legal]
        exact ⟨_, view_of_mem hdu hd, (not_held_iff h rfl).2 (hguard (by simp [hp]))⟩
      · simp only [move, hp, Leases.apply, DeviceService.patchNullable, view_of_mem hdu hd,
          Option.map_some]

/-- An `enable` leases the setting of the device. -/
theorem view_enable {deviceId : String} {nonce : ℕ} {payload : TunnelEnableIn}
    {r : Store × DeviceTunnel} (hadm : db.Admitted env.schema) (h : TunnelsSound env db)
    (hcall : enable env db deviceId nonce payload = .ok r) :
    Leases.Legal (view db) (.acquire deviceId r.2.remotePort payload.syncDeviceBaseUrl) ∧
      view r.1 = Leases.apply (render env.settings) (view db)
        (.acquire deviceId r.2.remotePort payload.syncDeviceBaseUrl) := by
  obtain ⟨-, hdu⟩ := hadm.2.1
  obtain ⟨device, hd, tunnel, port, rfl, ht, hoff, hport, hdb, -⟩ := enable_eq_ok hcall
  obtain rfl : port = r.2.remotePort := by
    obtain ⟨-, hport', -⟩ := row_of_enable hadm.2.2.1.1 hcall
    exact Except.ok.inj (hport.symm.trans hport')
  constructor
  · refine ⟨_, view_of_mem hdu hd, (not_held_iff h rfl).2 fun t htmem htid => ?_⟩
    rw [getTunnel_eq_lookup h.oneRow, Except.ok.injEq] at ht
    exact hoff t (ht.symm.trans ((lookup_eq_some_iff h.oneRow).2 ⟨htmem, htid⟩))
  · rw [hdb]
    exact view_writeEnable hadm h hd ht
      (tunnelsSound_writeEnable hadm h hd rfl ht (choosePort_eq_ok hport))

/-- A `disable` releases it. -/
theorem view_disable {deviceId : String} {r : Store × DeviceTunnel}
    (hadm : db.Admitted env.schema) (h : TunnelsSound env db)
    (hcall : disable env db deviceId = .ok r) :
    Leases.Legal (view db) (.release deviceId) ∧
      view r.1 = Leases.apply (render env.settings) (view db) (.release deviceId) := by
  obtain ⟨-, hdu⟩ := hadm.2.1
  obtain ⟨device, hd, t, ht, hid, rfl, hdb, -⟩ := disable_eq_ok hcall
  have hcell := view_of_mem hdu hd
  rw [hid, hold_of_mem h.oneRow ht] at hcell
  refine ⟨⟨_, _, hcell, rfl⟩, ?_⟩
  rw [hdb]
  exact view_writeDisable hadm h hd ht hid

/-- **A successful call moves the view by a legal move.** -/
theorem view_run {op : TunnelOp} {r : Store × TunnelAnswer} (hadm : db.Admitted env.schema)
    (h : TunnelsSound env db) (hr : op.run env db = .ok r) :
    Leases.Legal (view db) (move ⟨db, op, .ok r.2, r.1⟩) ∧
      view r.1 =
        Leases.apply (render env.settings) (view db) (move ⟨db, op, .ok r.2, r.1⟩) := by
  obtain ⟨hti, -⟩ := hadm.2.2.1
  cases op with
  | create uuid nonce payload =>
      obtain ⟨r, hcall, rfl⟩ := map_eq_ok.1 hr
      exact view_create h hcall
  | updateDevice deviceId nonce payload =>
      obtain ⟨r, hcall, rfl⟩ := map_eq_ok.1 hr
      exact view_updateDevice _ hadm h hcall
  | enable deviceId nonce payload =>
      obtain ⟨r, hcall, rfl⟩ := map_eq_ok.1 hr
      exact view_enable hadm h hcall
  | update deviceId payload =>
      obtain ⟨r, hcall, rfl⟩ := map_eq_ok.1 hr
      obtain ⟨t, ht, rfl, hdb, -⟩ := TunnelService.update_eq_ok hcall
      refine ⟨trivial, ?_⟩
      change view r.1 = view db
      rw [hdb]
      exact view_writeTunnel_same hti h.oneRow ht rfl rfl rfl
  | disable deviceId =>
      obtain ⟨r, hcall, rfl⟩ := map_eq_ok.1 hr
      exact view_disable hadm h hcall
  | rotateToken deviceId nonce =>
      obtain ⟨r, hcall, rfl⟩ := map_eq_ok.1 hr
      obtain ⟨t, ht, rfl, hdb, -⟩ := rotateToken_eq_ok hcall
      refine ⟨trivial, ?_⟩
      change view r.1 = view db
      rw [hdb]
      exact view_writeTunnel_same hti h.oneRow ht rfl rfl rfl
  | renderFrpcConfig deviceId userId now =>
      obtain ⟨r, hcall, rfl⟩ := map_eq_ok.1 hr
      obtain ⟨t, ht, rfl, hdb, -⟩ := renderFrpcConfig_eq_ok hcall
      refine ⟨trivial, ?_⟩
      change view r.1 = view db
      rw [hdb]
      exact view_writeTunnel_same hti h.oneRow ht rfl rfl rfl

/-- **Simulation**: every call moves the view by a legal move, a refused one by `skip`. -/
theorem exec_view {op : TunnelOp} (hadm : db.Admitted env.schema) (h : TunnelsSound env db) :
    Leases.Legal (view db) (move (call (TunnelOp.exec env) db op)) ∧
      view (op.exec env db).2 = Leases.apply (render env.settings) (view db)
        (move (call (TunnelOp.exec env) db op)) := by
  rcases attempt_cases (op.run env db) db with ⟨db', answer, hr, hcall⟩ | ⟨e, -, hcall⟩
  · simp only [call, TunnelOp.exec, hcall]
    exact view_run hadm h hr
  · have hskip : move ⟨db, op, .error e, db⟩ = .skip := by
      unfold move
      cases op <;> rfl
    simp only [call, TunnelOp.exec, hcall, hskip]
    exact ⟨trivial, rfl⟩

end

end SmsForwarder
