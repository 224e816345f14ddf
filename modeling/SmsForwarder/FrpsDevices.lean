/-
**The list of connected devices.**

`list_devices` joins the devices with their tunnels, in the order of the remote ports, and looks up
the proxy of each tunnel by its name.  The proxies come from outside: names can repeat, and the
index keeps the last proxy of a name.  The names of the tunnels are the service's own, one for each
device, so no proxy is shown for two devices.

Main definitions:

* `SmsForwarder.FrpsService.proxyIndex` — the dictionary of the proxies by name;
* `SmsForwarder.FrpsService.buildItem`, `SmsForwarder.FrpsService.deviceList`,
  `SmsForwarder.FrpsService.listDevices` — an item, the list, and the call;
* `SmsForwarder.FrpsService.DevicesListed` — what the list says about tunnels and proxies.

Main results:

* `SmsForwarder.FrpsService.proxyIndex_eq` — the last proxy of a name wins;
* `SmsForwarder.FrpsService.proxyName_injective` — tunnel names are not cut off, so they differ;
* `SmsForwarder.FrpsService.devicesListed_final` — **the list is right after every run**, whatever
  the dashboard reports.
-/

import SmsForwarder.FrpsService
import SmsForwarder.TunnelRuns

set_option relaxedAutoImplicit false
set_option autoImplicit false

namespace SmsForwarder

open Py Tables Runs

namespace FrpsService

/-! ### The list -/

section

variable {iso : IsoFormat}

/-- `{proxy.name: proxy for proxy in proxies}`. -/
def proxyIndex (proxies : List (FrpsProxy iso)) : Str → Option (FrpsProxy iso) :=
  proxies.foldl (fun index proxy => Function.update index proxy.name (some proxy)) fun _ => none

/-- `FrpsDeviceOut`. -/
structure FrpsDeviceOut (iso : IsoFormat) where
  deviceId : String
  deviceName : Option String
  channelType : String
  baseUrl : Option String
  tunnelEnabled : Bool
  proxyName : String
  remotePort : ℤ
  localIp : String
  localPort : ℤ
  connected : Bool
  frpsStatus : Str
  clientVersion : Option Str
  todayTrafficIn : Option Str
  todayTrafficOut : Option Str
  lastStartTime : Option iso.Datetime

/-- `FrpsDeviceListOut`. -/
structure FrpsDeviceListOut (iso : IsoFormat) where
  items : List (FrpsDeviceOut iso)
  total : ℕ
  connected : ℕ

/-- The rows of the join in the order of the database, which is free to order rows with equal
ports. -/
structure PortOrder where
  sort : List (Device × DeviceTunnel) → List (Device × DeviceTunnel)
  perm : ∀ rows, (sort rows).Perm rows
  ascending : ∀ rows, (sort rows).Pairwise fun a b => a.2.remotePort ≤ b.2.remotePort

variable (env : Env) (order : PortOrder)

/-- `proxy.status.lower() == "online"`. -/
def isOnline (proxy : FrpsProxy iso) : Bool := env.runtime.lower proxy.status = py "online"

/-- `FrpsService._build_item`. -/
def buildItem (device : Device) (tunnel : DeviceTunnel) (proxy : Option (FrpsProxy iso)) :
    FrpsDeviceOut iso where
  deviceId := device.deviceId
  deviceName := device.deviceName
  channelType := device.channelType
  baseUrl := device.baseUrl
  tunnelEnabled := tunnel.enabled
  proxyName := tunnel.proxyName
  remotePort := tunnel.remotePort
  localIp := tunnel.localIp
  localPort := tunnel.localPort
  connected := proxy.any (isOnline env)
  frpsStatus := (proxy.map FrpsProxy.status).getD (py "missing")
  clientVersion := proxy.bind FrpsProxy.clientVersion
  todayTrafficIn := proxy.bind FrpsProxy.todayTrafficIn
  todayTrafficOut := proxy.bind FrpsProxy.todayTrafficOut
  lastStartTime := proxy.bind FrpsProxy.lastStartTime

/-- The joined rows that `list_devices` goes through. -/
def joinedRows (db : Store) : List (Device × DeviceTunnel) :=
  order.sort (join Device.deviceId DeviceTunnel.deviceId db.devices db.deviceTunnels)

/-- The item of a joined row. -/
def itemOf (proxies : List (FrpsProxy iso)) (row : Device × DeviceTunnel) : FrpsDeviceOut iso :=
  buildItem env row.1 row.2 (proxyIndex proxies (py row.2.proxyName))

/-- `FrpsService.list_devices`, from the proxies of the dashboard. -/
def deviceList (db : Store) (proxies : List (FrpsProxy iso)) (connectedOnly : Bool) :
    FrpsDeviceListOut iso :=
  let items := (joinedRows order db).map (itemOf env proxies)
  let items := if connectedOnly then items.filter FrpsDeviceOut.connected else items
  { items, total := items.length, connected := (items.filter FrpsDeviceOut.connected).length }

variable (iso) in
/-- `FrpsService.list_devices`. -/
def listDevices (db : Store) (answer : DashboardAnswer) (connectedOnly : Bool) :
    Except PyError (FrpsDeviceListOut iso) := do
  let proxies ← fetchTcpProxies env iso answer
  pure (deviceList env order db proxies connectedOnly)

end

/-! ### The index -/

section

variable {iso : IsoFormat} {proxies : List (FrpsProxy iso)}

/-- **The last proxy of a name wins.** -/
theorem proxyIndex_eq (proxies : List (FrpsProxy iso)) (name : Str) :
    proxyIndex proxies name = (proxies.filter fun proxy => proxy.name = name).getLast? := by
  unfold proxyIndex
  -- from the end of the list: a later proxy overwrites the entry of its name
  induction proxies using List.reverseRecOn with
  | nil => rfl
  | append_singleton proxies proxy ih =>
      rw [List.foldl_append, List.filter_append, List.foldl_cons, List.foldl_nil]
      by_cases hname : proxy.name = name
      · subst hname
        simp [Function.update_self]
      · simp only [Function.update_of_ne (Ne.symm hname), ih, List.filter_cons, List.filter_nil,
          decide_eq_false hname, Bool.false_eq_true, if_false, List.append_nil]

/-- A proxy is shown for the tunnel of its name only. -/
theorem name_of_proxyIndex {name : Str} {proxy : FrpsProxy iso}
    (h : proxyIndex proxies name = some proxy) : proxy.name = name := by
  rw [proxyIndex_eq] at h
  simpa using (List.mem_filter.1 (List.mem_of_getLast? h)).2

end

/-! ### The names of the tunnels -/

/-- The name of a generated device is short enough to be kept as a whole. -/
theorem toList_proxyName (uuid : Uuid) :
    (TunnelService.proxyName (generateDeviceId uuid)).toList =
      "smsf-".toList ++ (generateDeviceId uuid).toList := by
  have hlen : (generateDeviceId uuid).toList.length = 28 := by
    unfold generateDeviceId
    simp only [String.toList_append, List.length_append, String.toList_ofList, List.length_take,
      uuid.length_hex]
    rfl
  unfold TunnelService.proxyName
  rw [String.toList_ofList, String.toList_append, List.take_of_length_le]
  rw [List.length_append, hlen]
  decide

/-- **The tunnels of different devices have different names.** -/
theorem proxyName_injective {uuid uuid' : Uuid}
    (h : TunnelService.proxyName (generateDeviceId uuid) =
      TunnelService.proxyName (generateDeviceId uuid')) :
    generateDeviceId uuid = generateDeviceId uuid' := by
  have hlist := congrArg String.toList h
  rw [toList_proxyName, toList_proxyName] at hlist
  exact String.ext (List.append_cancel_left hlist)

/-! ### What the list says -/

/-- **What the list says about tunnels and proxies**: it has one item for each tunnel row, built
from the row, its device and the last proxy of its name, in strictly increasing order of the ports;
an item is connected if that proxy is online; no proxy is shown for two tunnels; the filtered list
keeps the connected items in their order, and the numbers are those of the items returned. -/
structure DevicesListed (env : Env) (iso : IsoFormat) (order : PortOrder) (db : Store)
    (proxies : List (FrpsProxy iso)) : Prop where
  rows : ∃ rows : List (Device × DeviceTunnel), (rows.map Prod.snd).Perm db.deviceTunnels ∧
    (∀ row ∈ rows, row.1 ∈ db.devices ∧ row.1.deviceId = row.2.deviceId) ∧
    (deviceList env order db proxies false).items = rows.map (itemOf env proxies)
  increasing : ((deviceList env order db proxies false).items.map FrpsDeviceOut.remotePort).Pairwise
    (· < ·)
  connected : ∀ item ∈ (deviceList env order db proxies false).items, item.connected = true ↔
    ∃ proxy, (proxies.filter fun proxy => proxy.name = py item.proxyName).getLast? = some proxy ∧
      env.runtime.lower proxy.status = py "online"
  attributed : ∀ t ∈ db.deviceTunnels, ∀ t' ∈ db.deviceTunnels, ∀ proxy,
    proxyIndex proxies (py t.proxyName) = some proxy →
      proxyIndex proxies (py t'.proxyName) = some proxy → t = t'
  connectedOnly : (deviceList env order db proxies true).items =
    (deviceList env order db proxies false).items.filter FrpsDeviceOut.connected
  totals : ∀ connectedOnly,
    (deviceList env order db proxies connectedOnly).total =
        (deviceList env order db proxies connectedOnly).items.length ∧
      (deviceList env order db proxies connectedOnly).connected =
        ((deviceList env order db proxies connectedOnly).items.filter
          FrpsDeviceOut.connected).length

section

variable {env : Env} {iso : IsoFormat} {order : PortOrder} {db : Store}

/-- The joined rows are the tunnel rows, each with its device. -/
theorem joinedRows_perm (hadm : db.Admitted env.schema) (h : TunnelsSound env db) :
    ((joinedRows order db).map Prod.snd).Perm db.deviceTunnels :=
  ((order.perm _).map Prod.snd).trans
    (join_perm hadm.2.1.2 (List.Nodup.of_map _ hadm.2.2.1.1) h.owned)

theorem mem_joinedRows {row : Device × DeviceTunnel} (hrow : row ∈ joinedRows order db) :
    row.1 ∈ db.devices ∧ row.1.deviceId = row.2.deviceId := by
  obtain ⟨hdevice, -, hid⟩ := mem_join.1 ((order.perm _).mem_iff.1 hrow)
  exact ⟨hdevice, hid.symm⟩

/-- The ports of the joined rows increase strictly, since no port is used twice. -/
theorem joinedRows_increasing (hadm : db.Admitted env.schema) (h : TunnelsSound env db) :
    (joinedRows order db).Pairwise fun a b => a.2.remotePort < b.2.remotePort := by
  have hnodup : ((joinedRows order db).map fun row => row.2.remotePort).Nodup := by
    have hperm : ((joinedRows order db).map Prod.snd).Perm db.deviceTunnels :=
      joinedRows_perm hadm h
    have hports := (hperm.map DeviceTunnel.remotePort).nodup_iff
    rw [List.map_map] at hports
    exact hports.2 hadm.2.2.1.2.1
  have hne := List.pairwise_map.1 hnodup
  exact (order.ascending _).imp₂ (fun _ _ hle hne => lt_of_le_of_ne hle hne) hne

/-- No proxy is shown for two tunnels. -/
theorem eq_of_proxyIndex {proxies : List (FrpsProxy iso)} {t t' : DeviceTunnel}
    {proxy : FrpsProxy iso} (h : TunnelsSound env db) (ht : t ∈ db.deviceTunnels)
    (ht' : t' ∈ db.deviceTunnels) (hp : proxyIndex proxies (py t.proxyName) = some proxy)
    (hp' : proxyIndex proxies (py t'.proxyName) = some proxy) : t = t' := by
  have hname : t.proxyName = t'.proxyName :=
    py_injective ((name_of_proxyIndex hp).symm.trans (name_of_proxyIndex hp'))
  have hid : ∀ t ∈ db.deviceTunnels, ∃ uuid, t.deviceId = generateDeviceId uuid := by
    intro t ht
    obtain ⟨device, hdevice, hdt⟩ := h.owned t ht
    obtain ⟨uuid, huuid⟩ := h.named device hdevice
    exact ⟨uuid, hdt.symm.trans huuid⟩
  -- a name is cut off at the length of its column, so it determines generated identifiers only
  obtain ⟨uuid, huuid⟩ := hid t ht
  obtain ⟨uuid', huuid'⟩ := hid t' ht'
  rw [(h.rows t ht).proxyName, (h.rows t' ht').proxyName, huuid, huuid'] at hname
  refine h.oneRow.eq ht ht' ?_
  rw [huuid, huuid', proxyName_injective hname]

theorem devicesListed (hadm : db.Admitted env.schema) (h : TunnelsSound env db)
    (proxies : List (FrpsProxy iso)) : DevicesListed env iso order db proxies := by
  refine ⟨⟨joinedRows order db, joinedRows_perm hadm h, fun _ => mem_joinedRows, rfl⟩, ?_, ?_,
    fun t ht t' ht' proxy hp hp' => eq_of_proxyIndex h ht ht' hp hp', rfl, fun _ => ⟨rfl, rfl⟩⟩
  · change (((joinedRows order db).map (itemOf env proxies)).map _).Pairwise _
    rw [List.map_map, List.pairwise_map]
    exact joinedRows_increasing hadm h
  · intro item hitem
    obtain ⟨row, -, rfl⟩ := List.mem_map.1 hitem
    change (proxyIndex proxies (py row.2.proxyName)).any (isOnline env) = true ↔ ∃ proxy,
      (proxies.filter fun proxy => proxy.name = py row.2.proxyName).getLast? = some proxy ∧ _
    rw [← proxyIndex_eq, Option.any_eq_true]
    simp [isOnline]

end

/-- **The list is right after every run** of device and tunnel calls, whatever the dashboard
reports. -/
theorem devicesListed_final (env : Env) (iso : IsoFormat) (order : PortOrder)
    (ops : List TunnelOp) (proxies : List (FrpsProxy iso)) :
    DevicesListed env iso order (final (TunnelOp.exec env) Store.empty ops) proxies := by
  obtain ⟨hadm, h⟩ := tunnelsSound_final env ops
  exact devicesListed hadm h proxies

end FrpsService

end SmsForwarder
