/-
**Queries through a tunnel.**

The port of a tunnel is chosen when it is enabled, its address is written into the tunnel row and
copied to the device, later calls keep the copy as it is, and a query joins it with the path of the
command.  This module follows the port through all of these: a query for a device is posted to the
port of its own tunnel, and never to that of another device.

Main definitions:

* `SmsForwarder.tunnelUrl` — the address of a command behind a port;
* `SmsForwarder.Tunneled` — a device that is reached through its tunnel;
* `SmsForwarder.QueriesOwnTunnel` — what its queries do.

Main results:

* `SmsForwarder.requestUrl_internalBaseUrl`, `SmsForwarder.port_of_tunnelUrl` — the adapter joins the
  address and the path as they are, and the port can be read off;
* `SmsForwarder.queriesOwnTunnel` — **after every run, queries for a device are posted to its own
  tunnel.**
-/

import SmsForwarder.DispatchEffects
import SmsForwarder.TomlText
import SmsForwarder.TunnelHistory

set_option relaxedAutoImplicit false
set_option autoImplicit false

namespace SmsForwarder

open Py Tables Runs TunnelService CommandService SmsForwarderHttpAdapter

/-! ### Addresses -/

/-- The address of a path behind a port of the frps host. -/
def tunnelUrl (s : Settings) (port : ℤ) (path : String) : String :=
  "http://" ++ s.frpsInternalHost ++ ":" ++ toString port ++ path

theorem slash_notMem_toString (z : ℤ) : '/' ∉ (toString z).toList := by
  have hdigits : ∀ n : ℕ, '/' ∉ Nat.toDigits 10 n := by
    intro n hmem
    have hdigit : '/'.isDigit = true := Nat.isDigit_of_mem_toDigits (by decide) (by decide) hmem
    revert hdigit
    decide
  rw [Int.toString_eq_repr, Int.repr_eq_if]
  split_ifs with hz
  · rw [Nat.toList_repr]
    exact hdigits _
  · rw [String.toList_append, Nat.toList_repr, List.mem_append]
    rintro (hmem | hmem)
    · revert hmem
      decide
    · exact hdigits _ hmem

theorem toString_ne_nil (z : ℤ) : (toString z).toList ≠ [] := by
  rw [Int.toString_eq_repr, Int.repr_eq_if]
  split_ifs with hz
  · rw [Nat.toList_repr]
    exact Nat.toDigits_ne_nil
  · rw [String.toList_append, Nat.toList_repr]
    exact fun h => Nat.toDigits_ne_nil (List.append_eq_nil_iff.1 h).2

/-- The paths of the commands start with one slash. -/
theorem path_of_command {commandType path : String}
    (h : ofCommand COMMAND_PATHS commandType = some path) :
    path.toList = '/' :: path.toList.dropWhile (· = '/') := by
  have hall : ∀ p ∈ COMMAND_PATHS, p.2.toList = '/' :: p.2.toList.dropWhile (· = '/') := by decide
  exact hall _ (mem_of_ofCommand h)

/-- The address of a tunnel has no slash at its end. -/
theorem rdropWhile_internalBaseUrl (s : Settings) (port : ℤ) :
    (internalBaseUrl s port).toList.rdropWhile (· = '/') = (internalBaseUrl s port).toList := by
  rw [List.rdropWhile_eq_self_iff]
  intro hne
  have hlist : (internalBaseUrl s port).toList =
      ("http://" ++ s.frpsInternalHost ++ ":").toList ++ (toString port).toList := by
    unfold internalBaseUrl
    rw [String.toList_append]
  simp only [hlist, List.getLast_append_of_ne_nil _ (toString_ne_nil port), decide_eq_true_eq]
  intro hslash
  exact slash_notMem_toString port (hslash ▸ List.getLast_mem _)

/-- The adapter joins the address of a tunnel and the path of a command as they are. -/
theorem requestUrl_internalBaseUrl (s : Settings) (port : ℤ) {commandType path : String}
    (h : ofCommand COMMAND_PATHS commandType = some path) :
    requestUrl (internalBaseUrl s port) path = tunnelUrl s port path := by
  have hpath : "/" ++ String.ofList (path.toList.dropWhile (· = '/')) = path := by
    rw [← String.toList_inj, String.toList_append]
    exact (congrArg ('/' :: ·) String.toList_ofList).trans (path_of_command h).symm
  unfold requestUrl
  rw [rdropWhile_internalBaseUrl, String.ofList_toList, String.append_assoc, hpath]
  rfl

/-- Behind different ports of the same host, every two paths have different addresses. -/
theorem port_of_tunnelUrl {s : Settings} {port port' : ℤ}
    {commandType path commandType' path' : String}
    (hpath : ofCommand COMMAND_PATHS commandType = some path)
    (hpath' : ofCommand COMMAND_PATHS commandType' = some path')
    (h : tunnelUrl s port path = tunnelUrl s port' path') : port = port' := by
  -- the port is what comes before the slash of the path
  have hport : ∀ z p command, ofCommand COMMAND_PATHS command = some p →
      (toString z ++ p).toList.takeWhile (· ≠ '/') = (toString (z : ℤ)).toList := by
    intro z p command hcommand
    rw [String.toList_append, List.takeWhile_append_of_pos, path_of_command hcommand]
    · simp
    · intro c hc
      have hne : c ≠ '/' := fun heq => slash_notMem_toString z (heq ▸ hc)
      simpa using hne
  have hjoin : ∀ z p, tunnelUrl s z p =
      "http://" ++ s.frpsInternalHost ++ ":" ++ (toString z ++ p) :=
    fun z p => String.append_assoc
  rw [hjoin, hjoin, String.append_right_inj] at h
  have htext := congrArg (fun text => text.toList.takeWhile (· ≠ '/')) h
  rw [hport port path commandType hpath, hport port' path' commandType' hpath',
    ← List.append_nil (toString port).toList, ← List.append_nil (toString port').toList] at htext
  have hread := congrArg Toml.decimal htext
  rw [Toml.decimal_toString _ rfl, Toml.decimal_toString _ rfl] at hread
  exact congrArg Prod.fst (Option.some.inj hread)

/-! ### Devices behind a tunnel -/

/-- The tunnel of the device is enabled, the last `enable` was to sync its address, and the device can
be asked: by its channel, and with a secret that decrypts, if it has one. -/
structure Tunneled (env : Env) (db : Store) (tr : List TunnelCall) (device : Device)
    (tunnel : DeviceTunnel) : Prop where
  known : device ∈ db.devices
  row : tunnel ∈ db.deviceTunnels
  owner : tunnel.deviceId = device.deviceId
  enabled : tunnel.enabled = true
  synced : ∃ before payload, lastEnable device.deviceId tr = some (before, payload) ∧
    payload.syncDeviceBaseUrl = true
  channel : device.channelType ≠ "webhook_only"
  secret : ∃ secret, signSecret env device = .ok secret

/-- The queries for a device are posted to the port of its tunnel, which is that of no other
device. -/
structure QueriesOwnTunnel (env : Env) (db : Store) (tr : List TunnelCall) (device : Device)
    (tunnel : DeviceTunnel) : Prop where
  /-- A realtime query whose log the JSON column takes calls the adapter once, which posts the
  payload without its mode to the address of the tunnel. -/
  posted : ∀ commandType path, ofCommand COMMAND_PATHS commandType = some path →
    ∀ d payload userId, modeOf env payload = py "realtime" →
      env.driver.acceptsJson (scrub env.runtime (.obj payload)) = true →
      ∃ call body, (tracedDispatch env d db device.deviceId commandType payload userId).2 =
          [.adapter call, .post (tunnelUrl env.settings tunnel.remotePort path) (.obj body)] ∧
        call.path = path ∧ call.payload = (payload.filter fun kv => kv.1 ≠ py "mode") ∧
        Json.get body (py "data") = .obj (payload.filter fun kv => kv.1 ≠ py "mode")
  /-- The addresses of another device are different, whatever is asked. -/
  isolated : ∀ other otherTunnel, Tunneled env db tr other otherTunnel →
    other.deviceId ≠ device.deviceId → ∀ commandType path commandType' path',
      ofCommand COMMAND_PATHS commandType = some path →
      ofCommand COMMAND_PATHS commandType' = some path' →
      tunnelUrl env.settings tunnel.remotePort path ≠
        tunnelUrl env.settings otherTunnel.remotePort path'

/-! ### The log table -/

section

variable {env : Env} {db : Store}

/-- The calls of the device service and the tunnel service write no command log. -/
theorem deviceCommandLogs_run {op : TunnelOp} {r : Store × TunnelAnswer}
    (hr : op.run env db = .ok r) : r.1.deviceCommandLogs = db.deviceCommandLogs := by
  cases op with
  | create uuid nonce payload =>
      obtain ⟨r, hcall, rfl⟩ := map_eq_ok.1 hr
      obtain ⟨hdb, -⟩ := DeviceService.create_eq_ok hcall
      rw [hdb]
      rfl
  | updateDevice deviceId nonce payload =>
      obtain ⟨r, hcall, rfl⟩ := map_eq_ok.1 hr
      obtain ⟨device, -, new, -, -, -, hdb, -⟩ := DeviceService.update_eq_ok hcall
      rw [hdb]
      rfl
  | enable deviceId nonce payload =>
      obtain ⟨r, hcall, rfl⟩ := map_eq_ok.1 hr
      obtain ⟨device, -, tunnel, port, -, -, -, -, hdb, -⟩ := enable_eq_ok hcall
      rw [hdb]
      cases tunnel <;> rfl
  | update deviceId payload =>
      obtain ⟨r, hcall, rfl⟩ := map_eq_ok.1 hr
      obtain ⟨t, -, -, hdb, -⟩ := TunnelService.update_eq_ok hcall
      rw [hdb]
      rfl
  | disable deviceId =>
      obtain ⟨r, hcall, rfl⟩ := map_eq_ok.1 hr
      obtain ⟨device, -, t, -, -, -, hdb, -⟩ := disable_eq_ok hcall
      rw [hdb]
      rfl
  | rotateToken deviceId nonce =>
      obtain ⟨r, hcall, rfl⟩ := map_eq_ok.1 hr
      obtain ⟨t, -, -, hdb, -⟩ := rotateToken_eq_ok hcall
      rw [hdb]
      rfl
  | renderFrpcConfig deviceId userId now =>
      obtain ⟨r, hcall, rfl⟩ := map_eq_ok.1 hr
      obtain ⟨t, -, -, hdb, -⟩ := renderFrpcConfig_eq_ok hcall
      rw [hdb]
      rfl

theorem deviceCommandLogs_final (ops : List TunnelOp) :
    (final (TunnelOp.exec env) Store.empty ops).deviceCommandLogs = [] := by
  refine run_induction (TunnelOp.exec env) (P := fun db _ => db.deviceCommandLogs = []) rfl
    (fun db _ op h => ?_) ops
  exact attempt_keeps (P := fun db => db.deviceCommandLogs = []) h
    fun _ _ hr => (deviceCommandLogs_run hr).trans h

/-! ### Queries -/

/-- A realtime query for a device that can be asked calls the adapter once. -/
theorem tracedQuery_effects_of_reachable {d : DispatchCall} {device : Device}
    {deviceId commandType baseUrl path : String} {payload : List (Str × Json)}
    {secret : Option String} (hmode : modeOf env payload = py "realtime")
    (hurl : reachableUrl device = .ok baseUrl) (hpath : commandPath commandType = .ok path)
    (hsecret : signSecret env device = .ok secret) :
    (tracedQuery env d db device deviceId commandType payload).effects =
      (tracedRequest d
        { baseUrl, path, payload := payload.filter fun kv => kv.1 ≠ py "mode",
          secret }).effects := by
  have hnotCache : py "realtime" ≠ py "cache" := by decide
  unfold tracedQuery
  rw [hmode, if_neg hnotCache, if_pos rfl]
  unfold tracedRealtime
  rw [Effects.effects_lift_bind_of_ok hurl, Effects.effects_lift_bind_of_ok hpath,
    Effects.effects_lift_bind_of_ok hsecret]

/-- The address of a device behind a tunnel is that of the tunnel. -/
theorem reachableUrl_of_tunneled {tr : List TunnelCall} {device : Device} {tunnel : DeviceTunnel}
    (hadm : db.Admitted env.schema) (hinv : TunnelInvariant env db tr)
    (h : Tunneled env db tr device tunnel) :
    reachableUrl device = .ok (internalBaseUrl env.settings tunnel.remotePort) := by
  obtain ⟨device', before, payload, -, hdevice', hlast, -, hurl, -⟩ :=
    hinv.managed tunnel h.row h.enabled
  obtain ⟨before', payload', hlast', hsync⟩ := h.synced
  rw [h.owner] at hdevice' hlast
  obtain rfl : device = device' := by
    rw [requireDevice_of_mem hadm.2.1.2 h.known] at hdevice'
    exact Except.ok.inj hdevice'
  have hpayload : payload = payload' := by
    rw [hlast] at hlast'
    exact congrArg Prod.snd (Option.some.inj hlast')
  rw [hpayload, hsync, if_pos rfl, (hinv.addresses tunnel h.row).1] at hurl
  have hne : internalBaseUrl env.settings tunnel.remotePort ≠ "" := by
    intro hempty
    have hlist := congrArg String.toList hempty
    simp [internalBaseUrl] at hlist
  unfold reachableUrl
  rw [if_neg h.channel, hurl]
  split
  · rename_i heq
    simp at heq
  · rename_i heq
    exact absurd (Option.some.inj heq) hne
  · rename_i heq
    rw [Option.some.inj heq]

/-- The body of a request carries the payload as its data. -/
theorem requestBody_data (d : DispatchCall) (payload : List (Str × Json))
    (secret : Option String) :
    ∃ body, requestBody d payload secret = .obj body ∧
      Json.get body (py "data") = .obj payload := by
  unfold requestBody
  split <;> exact ⟨_, rfl, by simp [Json.get]⟩

theorem fits_of_ofCommand {commandType path : String}
    (h : ofCommand COMMAND_PATHS commandType = some path) : fitsColumn 128 commandType = true := by
  have hall : ∀ p ∈ COMMAND_PATHS, fitsColumn 128 p.1 = true := by decide
  exact hall _ (mem_of_ofCommand h)

end

/-- **Queries through a tunnel.**  After every run from the empty database, the realtime queries for
a device behind an enabled, synced tunnel are posted to the port of this tunnel, each once, and to no
address of another device. -/
theorem queriesOwnTunnel (env : Env) (ops : List TunnelOp) (device : Device) (tunnel : DeviceTunnel)
    (h : Tunneled env (final (TunnelOp.exec env) Store.empty ops)
      (trace (TunnelOp.exec env) Store.empty ops) device tunnel) :
    QueriesOwnTunnel env (final (TunnelOp.exec env) Store.empty ops)
      (trace (TunnelOp.exec env) Store.empty ops) device tunnel := by
  have hinv := tunnelInvariant_final env ops
  have hadm := (tunnelsSound_final env ops).1
  refine ⟨fun commandType path hpath d payload userId hmode haccepts => ?_,
    fun other otherTunnel hother hne commandType path commandType' path' hpath hpath' heq => ?_⟩
  · obtain ⟨secret, hsecret⟩ := h.secret
    have hdevice := requireDevice_of_mem hadm.2.1.2 h.known
    obtain ⟨-, hcreate⟩ := createLog_of_fresh (d := d) hadm hdevice (fits_of_ofCommand hpath)
      (by rw [deviceCommandLogs_final]; simp) haccepts userId
    have hcommand : commandPath commandType = .ok path := by
      unfold commandPath
      rw [hpath]
    have hurl := reachableUrl_of_tunneled hadm hinv h
    obtain ⟨body, hbody, hdata⟩ :=
      requestBody_data d (payload.filter fun kv => kv.1 ≠ py "mode") secret
    refine ⟨⟨internalBaseUrl env.settings tunnel.remotePort, path,
      payload.filter fun kv => kv.1 ≠ py "mode", secret⟩, body, ?_, rfl, rfl, hdata⟩
    rw [tracedDispatch_effects hdevice hcreate,
      tracedQuery_effects_of_reachable hmode hurl hcommand hsecret, tracedRequest_effects,
      if_neg (reachableUrl_eq_ok hurl).2.2, requestUrl_internalBaseUrl _ _ hpath, hbody]
  · have hport := port_of_tunnelUrl hpath hpath' heq
    have hsame := hinv.onePort.eq h.row hother.row hport
    rw [← h.owner, hsame, hother.owner] at hne
    exact hne rfl

/-- A device is created, and its tunnel is enabled. -/
def tunneledRun : List TunnelOp :=
  [.create Uuid.nil 0 {},
    .enable (generateDeviceId Uuid.nil) 0
      { localIp := .default, localPort := .app, remotePort := some .first }]

/-- After this run the device is queried through its tunnel. -/
theorem tunneledRun_queriesOwnTunnel :
    ∃ device tunnel,
      QueriesOwnTunnel (plainEnv ormSchema)
        (final (TunnelOp.exec (plainEnv ormSchema)) Store.empty tunneledRun)
        (trace (TunnelOp.exec (plainEnv ormSchema)) Store.empty tunneledRun) device tunnel ∧
      tunnelUrl (plainEnv ormSchema).settings tunnel.remotePort "/sms/query" =
        "http://127.0.0.1:17000/sms/query" :=
  ⟨_, _, queriesOwnTunnel (plainEnv ormSchema) tunneledRun _ _
    { known := List.mem_cons_self
      row := List.mem_cons_self
      owner := rfl
      enabled := rfl
      synced := ⟨_, _, rfl, rfl⟩
      channel := by decide
      secret := ⟨_, rfl⟩ }, by decide⟩

end SmsForwarder
