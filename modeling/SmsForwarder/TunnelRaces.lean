/-
**Two concurrent requests on one device.**

Requests to enable or disable the tunnel of a device, and updates of its `base_url`, run in threads
of their own.  Only five columns of the two rows matter for what they do to each other, and on
these columns a request is the request of `ColumnRaces`: the steps on the store simulate the steps
on the columns.  So the schedules that are not serializable are the anomalous ones.

Main definitions:

* `SmsForwarder.columnsOf`, `SmsForwarder.Request.onColumns` — rows and requests, seen as columns;
* `SmsForwarder.Surroundings`, `SmsForwarder.Shows` — a store that shows the columns in the rows of
  one device, and the rows around them;
* `SmsForwarder.Serializable` — two requests left and answered what they leave and answer the one
  after the other.

Main results:

* `SmsForwarder.simulates_step` — the steps on the store simulate those on the columns;
* `SmsForwarder.serializable_iff` — **two requests are serializable exactly on the schedules
  without an anomaly**;
* `SmsForwarder.two_enables_succeed` — a schedule with one.
-/

import SmsForwarder.ColumnRaces
import SmsForwarder.RequestSteps
import SmsForwarder.TunnelRuns

set_option relaxedAutoImplicit false
set_option autoImplicit false

namespace SmsForwarder

open Tables Runs TunnelService

/-! ### Columns of a store -/

/-- The columns in the rows of a device. -/
def columnsOf (d : Device) (t : DeviceTunnel) : Columns :=
  ⟨d.baseUrl, t.enabled, t.remotePort, t.internalBaseUrl, t.previousBaseUrl⟩

/-- The columns in the rows of the device `deviceId`, if it has a tunnel row. -/
def observed (db : Store) (deviceId : String) : Option Columns :=
  (lookup Device.deviceId deviceId db.devices).bind fun d =>
    (lookup DeviceTunnel.deviceId deviceId db.deviceTunnels).map (columnsOf d)

/-- How the API tells the outcome of a call. -/
def answerOf : Except PyError Unit → Answer
  | .ok () => .success
  | .error (.app e) => if e.code = .conflict then .conflict else .failed
  | .error _ => .failed

/-- The answer of a request, once there is one. -/
def Stage.answer : Stage → Option Answer
  | .done outcome => some (answerOf outcome)
  | _ => none

variable (env : Env)

/-- Whether the database accepts the columns of an update other than `base_url`: the request body
bounds all of them but `channel_type`. -/
def DeviceUpdate.storable (payload : DeviceUpdate) : Bool :=
  match payload.channelType with
  | none => true
  | some none => false
  | some (some channelType) => !env.schema.enforceLengths || fitsColumn 64 channelType

/-- A request, as far as the columns are concerned. -/
def Request.onColumns (r : Request) : ColumnRequest :=
  match r.kind with
  | .enable _ payload => .enable payload.remotePort payload.syncDeviceBaseUrl
  | .disable => .disable
  | .update _ payload =>
      .update ((payload.baseUrl.getD none).map HttpUrl.str) (payload.storable env)

/-- A request to enable or disable the tunnel, or an update that carries a `base_url`. -/
def Request.TouchesBaseUrl (r : Request) : Prop :=
  match r.kind with
  | .update _ payload => payload.baseUrl.isSome = true
  | _ => True

/-! ### The rows of one device and the rows around them -/

/-- The rows of the other devices, and the keys of the rows of the device. -/
structure Surroundings where
  deviceId : String
  deviceKey : ℕ
  tunnelKey : ℕ
  devicesBefore : List Device
  devicesAfter : List Device
  tunnelsBefore : List DeviceTunnel
  tunnelsAfter : List DeviceTunnel

/-- The ports of the other rows. -/
def Surroundings.ports (w : Surroundings) : List ℤ :=
  (w.tunnelsBefore ++ w.tunnelsAfter).map DeviceTunnel.remotePort

/-- A device row with the keys of the device. -/
structure Surroundings.OwnsDevice (w : Surroundings) (d : Device) : Prop where
  id : d.id = w.deviceKey
  deviceId : d.deviceId = w.deviceId
  fits : env.schema.enforceLengths = true → d.fits = true

/-- A tunnel row with the keys of the tunnel of the device. -/
structure Surroundings.OwnsTunnel (w : Surroundings) (t : DeviceTunnel) : Prop where
  id : t.id = w.tunnelKey
  deviceId : t.deviceId = w.deviceId
  fits : env.schema.enforceLengths = true → t.fits = true

/-- The store `db` with other rows of the device. -/
def Surroundings.store (w : Surroundings) (db : Store) (d : Device) (t : DeviceTunnel) : Store :=
  { db with
    devices := w.devicesBefore ++ d :: w.devicesAfter
    deviceTunnels := w.tunnelsBefore ++ t :: w.tunnelsAfter }

/-- The store shows the columns `c` in the rows of the device. -/
structure Shows (w : Surroundings) (db : Store) (c : Columns) : Prop where
  admitted : db.Admitted env.schema
  oneRow : UniqueKey DeviceTunnel.deviceId db.deviceTunnels
  rows : ∃ d t, w.OwnsDevice env d ∧ w.OwnsTunnel env t ∧ db = w.store db d t ∧ columnsOf d t = c

section

variable {env} {w : Surroundings} {db : Store} {c : Columns}

/-- With other rows of the device, the strings still fit their columns. -/
theorem fits_store {d₀ d : Device} {t₀ t : DeviceTunnel} (h : (w.store db d₀ t₀).Fits)
    (hd : d.fits = true) (ht : t.fits = true) : (w.store db d t).Fits := by
  obtain ⟨hfd, hft, hothers⟩ := h
  refine ⟨fun d' hd' => ?_, fun t' ht' => ?_, hothers⟩
  · rcases mem_middle.1 hd' with rfl | hd'
    · exact hd
    · exact hfd d' (mem_middle.2 (Or.inr hd'))
  · rcases mem_middle.1 ht' with rfl | ht'
    · exact ht
    · exact hft t' (mem_middle.2 (Or.inr ht'))

/-- With other rows of the device, the keys are unique exactly if no other row holds its port. -/
theorem unique_store {d₀ d : Device} {t₀ t : DeviceTunnel}
    (h : (w.store db d₀ t₀).Unique env.schema) (hd₀ : w.OwnsDevice env d₀)
    (ht₀ : w.OwnsTunnel env t₀) (hd : w.OwnsDevice env d) (ht : w.OwnsTunnel env t) :
    (w.store db d t).Unique env.schema ↔ t.remotePort ∉ w.ports := by
  obtain ⟨⟨hi, hid⟩, ⟨hti, htp, htd⟩, hrest⟩ := h
  have hports : UniqueKey DeviceTunnel.remotePort (w.store db d t).deviceTunnels ↔
      t.remotePort ∉ w.ports := by
    unfold Surroundings.store Surroundings.ports
    rw [uniqueKey_middle, List.mem_map]
    have hothers := (uniqueKey_middle.1 htp).1
    exact ⟨fun h hmem => hmem.elim fun t' ht' => h.2 t' ht'.1 ht'.2,
      fun h => ⟨hothers, fun t' ht' heq => h ⟨t', ht', heq⟩⟩⟩
  constructor
  · intro h
    exact hports.1 h.2.1.2.1
  · intro hfree
    refine ⟨⟨?_, ?_⟩, ⟨?_, hports.2 hfree, fun hs => ?_⟩, hrest⟩
    · exact (uniqueKey_middle_congr (hd.id.trans hd₀.id.symm)).2 hi
    · exact (uniqueKey_middle_congr (hd.deviceId.trans hd₀.deviceId.symm)).2 hid
    · exact (uniqueKey_middle_congr (ht.id.trans ht₀.id.symm)).2 hti
    · exact (uniqueKey_middle_congr (ht.deviceId.trans ht₀.deviceId.symm)).2 (htd hs)

/-- Other rows of the device are accepted exactly if no other row holds the port. -/
theorem commit_store {d : Device} {t : DeviceTunnel} (h : Shows env w db c)
    (hd : w.OwnsDevice env d) (ht : w.OwnsTunnel env t) :
    (t.remotePort ∈ w.ports → commit env.schema (w.store db d t) = .error .integrityError) ∧
      (t.remotePort ∉ w.ports → commit env.schema (w.store db d t) = .ok (w.store db d t) ∧
        Shows env w (w.store db d t) (columnsOf d t)) := by
  obtain ⟨⟨hfit, hunique⟩, hone, d₀, t₀, hd₀, ht₀, hdb, rfl⟩ := h
  rw [hdb] at hfit hunique hone
  have hfit' : env.schema.enforceLengths = true → (w.store db d t).Fits := fun he =>
    fits_store (hfit he) (hd.fits he) (ht.fits he)
  have hunique' := unique_store hunique hd₀ ht₀ hd ht
  constructor
  · intro htaken
    unfold commit
    rw [if_neg fun hn => hn.2 (hfit' hn.1), if_neg fun hu => hunique'.1 hu htaken]
  · intro hfree
    have hadm : (w.store db d t).Admitted env.schema := ⟨hfit', hunique'.2 hfree⟩
    refine ⟨commit_eq_ok.2 ⟨rfl, hadm⟩, hadm, ?_, d, t, hd, ht, rfl, rfl⟩
    exact (uniqueKey_middle_congr (ht.deviceId.trans ht₀.deviceId.symm)).2 hone

/-! ### What the queries find -/

theorem Shows.devices (h : Shows env w db c) :
    UniqueKey Device.id db.devices ∧ UniqueKey Device.deviceId db.devices :=
  h.admitted.2.1

theorem Shows.tunnelKeys (h : Shows env w db c) : UniqueKey DeviceTunnel.id db.deviceTunnels :=
  h.admitted.2.2.1.1

/-- The query for the device row. -/
theorem Shows.getDevice (h : Shows env w db c) :
    ∃ d, getDevice db w.deviceId = .ok d ∧ w.OwnsDevice env d ∧ d.baseUrl = c.baseUrl := by
  obtain ⟨d, t, hd, ht, hdb, rfl⟩ := h.rows
  refine ⟨d, ?_, hd, rfl⟩
  have hmem : d ∈ db.devices := by
    rw [hdb]
    exact mem_middle.2 (Or.inl rfl)
  rw [← hd.deviceId]
  exact requireDevice_of_mem h.devices.2 hmem

/-- The tunnel row, with the columns it shows. -/
theorem Shows.tunnel (h : Shows env w db c) :
    ∃ t ∈ db.deviceTunnels, w.OwnsTunnel env t ∧ ∀ d : Device,
      columnsOf d t = { c with baseUrl := d.baseUrl } := by
  obtain ⟨d, t, hd, ht, hdb, rfl⟩ := h.rows
  refine ⟨t, ?_, ht, fun _ => rfl⟩
  rw [hdb]
  exact mem_middle.2 (Or.inl rfl)

/-- The ports of all rows are those of the other rows and the one of the device. -/
theorem Shows.mem_ports (h : Shows env w db c) (port : ℤ) :
    port ∈ db.deviceTunnels.map DeviceTunnel.remotePort ↔ port ∈ c.remotePort :: w.ports := by
  obtain ⟨d, t, hd, ht, hdb, rfl⟩ := h.rows
  rw [hdb]
  unfold Surroundings.store Surroundings.ports columnsOf
  simp only [List.map_append, List.map_cons, List.mem_append, List.mem_cons]
  tauto

/-- No other row holds the port of the device. -/
theorem Shows.port_not_mem (h : Shows env w db c) : c.remotePort ∉ w.ports := by
  obtain ⟨d, t, hd, ht, hdb, rfl⟩ := h.rows
  have hunique := h.admitted.2
  rw [hdb] at hunique
  exact (unique_store hunique hd ht hd ht).1 hunique

/-- The columns of the device, read from the store. -/
theorem Shows.observed (h : Shows env w db c) : observed db w.deviceId = some c := by
  obtain ⟨d, t, hd, ht, hdb, hc⟩ := h.rows
  have hdm : lookup Device.deviceId w.deviceId db.devices = some d := by
    rw [lookup_eq_some_iff h.devices.2, hdb]
    exact ⟨mem_middle.2 (Or.inl rfl), hd.deviceId⟩
  have htm : lookup DeviceTunnel.deviceId w.deviceId db.deviceTunnels = some t := by
    rw [lookup_eq_some_iff h.oneRow, hdb]
    exact ⟨mem_middle.2 (Or.inl rfl), ht.deviceId⟩
  unfold SmsForwarder.observed
  rw [hdm, htm, ← hc]
  rfl

/-! ### What the commits write -/

/-- A merged row has the keys of the device. -/
theorem Surroundings.OwnsDevice.merge {read new cur : Device} (hread : w.OwnsDevice env read)
    (hnew : w.OwnsDevice env new) (hcur : w.OwnsDevice env cur) :
    w.OwnsDevice env (read.merge new cur) where
  id := hcur.id
  deviceId := by
    simp only [Device.merge, hread.deviceId, hnew.deviceId, hcur.deviceId, mergeColumn_self]
  fits he := Device.fits_merge (hnew.fits he) (hcur.fits he)

/-- A merged row has the keys of the tunnel. -/
theorem Surroundings.OwnsTunnel.merge {read new cur : DeviceTunnel} (hread : w.OwnsTunnel env read)
    (hnew : w.OwnsTunnel env new) (hcur : w.OwnsTunnel env cur) :
    w.OwnsTunnel env (read.merge new cur) where
  id := hcur.id
  deviceId := by
    simp only [DeviceTunnel.merge, hread.deviceId, hnew.deviceId, hcur.deviceId, mergeColumn_self]
  fits he := DeviceTunnel.fits_merge (hnew.fits he) (hcur.fits he)

/-- A write of the device row merges it, and leaves the rows around it alone. -/
theorem writeDevice_store {d₀ read new : Device} {t₀ : DeviceTunnel}
    (hi : UniqueKey Device.id (w.store db d₀ t₀).devices) (hread : w.OwnsDevice env read)
    (hd₀ : w.OwnsDevice env d₀) :
    (w.store db d₀ t₀).writeDevice read new = w.store db (read.merge new d₀) t₀ := by
  unfold Store.writeDevice
  rw [hread.id, ← hd₀.id]
  unfold Surroundings.store at hi ⊢
  rw [updateKey_middle hi]

/-- A write of the tunnel row merges it, and leaves the rows around it alone. -/
theorem writeTunnel_store {d₀ : Device} {t₀ read new : DeviceTunnel}
    (hi : UniqueKey DeviceTunnel.id (w.store db d₀ t₀).deviceTunnels)
    (hread : w.OwnsTunnel env read) (ht₀ : w.OwnsTunnel env t₀) :
    (w.store db d₀ t₀).writeTunnel read new = w.store db d₀ (read.merge new t₀) := by
  unfold Store.writeTunnel
  rw [hread.id, ← ht₀.id]
  unfold Surroundings.store at hi ⊢
  rw [updateKey_middle hi]

/-- The commit of both rows, by a session that had loaded them as `d` and `t`. -/
theorem commit_both {d dn : Device} {t tn : DeviceTunnel} (h : Shows env w db c)
    (hd : w.OwnsDevice env d) (hdn : w.OwnsDevice env dn) (ht : w.OwnsTunnel env t)
    (htn : w.OwnsTunnel env tn) :
    let merged := (columnsOf d t).merge (columnsOf dn tn) c
    let db' := (db.writeDevice d dn).writeTunnel t tn
    (merged.remotePort ∈ w.ports → commit env.schema db' = .error .integrityError) ∧
      (merged.remotePort ∉ w.ports →
        commit env.schema db' = .ok db' ∧ Shows env w db' merged) := by
  intro merged db'
  obtain ⟨d₀, t₀, hd₀, ht₀, hdb, hc⟩ := h.rows
  have hi := h.devices.1
  have hti := h.tunnelKeys
  rw [hdb] at hi hti
  have hti' : UniqueKey DeviceTunnel.id (w.store db (d.merge dn d₀) t₀).deviceTunnels := hti
  have hdb' : db' = w.store db (d.merge dn d₀) (t.merge tn t₀) := by
    show (db.writeDevice d dn).writeTunnel t tn = _
    rw [hdb, writeDevice_store hi hd hd₀, writeTunnel_store hti' ht ht₀]
    rfl
  have hmerged : columnsOf (d.merge dn d₀) (t.merge tn t₀) = merged := by
    show _ = (columnsOf d t).merge (columnsOf dn tn) c
    rw [← hc]
    rfl
  rw [hdb', ← hmerged]
  exact commit_store h (hd.merge hdn hd₀) (ht.merge htn ht₀)

/-- The commit of the device row alone. -/
theorem commit_device {d dn : Device} (h : Shows env w db c) (hd : w.OwnsDevice env d)
    (hdn : w.OwnsDevice env dn) :
    let db' := db.writeDevice d dn
    commit env.schema db' = .ok db' ∧
      Shows env w db' { c with baseUrl := mergeColumn d.baseUrl dn.baseUrl c.baseUrl } := by
  intro db'
  obtain ⟨d₀, t₀, hd₀, ht₀, hdb, hc⟩ := h.rows
  have hi := h.devices.1
  rw [hdb] at hi
  have hdb' : db' = w.store db (d.merge dn d₀) t₀ := by
    show db.writeDevice d dn = _
    rw [hdb, writeDevice_store hi hd hd₀]
    rfl
  have hfree : t₀.remotePort ∉ w.ports := by
    have hport := h.port_not_mem
    rw [← hc] at hport
    exact hport
  rw [hdb', ← hc]
  exact (commit_store h (hd.merge hdn hd₀) ht₀).2 hfree

/-! ### The simulation -/

/-- A stage of a request and a stage of the request on the columns: the session holds rows with
these columns. -/
def StageShows (env : Env) (w : Surroundings) : Stage → ColumnStage → Prop
  | .start, .start => True
  | .device d, .device baseUrl => w.OwnsDevice env d ∧ d.baseUrl = baseUrl
  | .rows _ payload d t, .rows requested sync read =>
      requested = payload.remotePort ∧ sync = payload.syncDeviceBaseUrl ∧
        w.OwnsDevice env d ∧ ∃ t', t = some t' ∧ w.OwnsTunnel env t' ∧ columnsOf d t' = read
  | .commit (.enable _ payload d t port), .commit read new =>
      w.OwnsDevice env d ∧ ∃ t', t = some t' ∧ w.OwnsTunnel env t' ∧ columnsOf d t' = read ∧
        new = some (read.activated env.settings port payload.syncDeviceBaseUrl)
  | .commit (.disable d t), .commit read new =>
      w.OwnsDevice env d ∧ w.OwnsTunnel env t ∧ columnsOf d t = read ∧ new = some read.deactivated
  | .commit (.update _ payload d), .commit read new =>
      w.OwnsDevice env d ∧ d.baseUrl = read.baseUrl ∧ ∃ url, payload.baseUrl = some url ∧
        new = if payload.storable env then some { read with baseUrl := url.map HttpUrl.str }
          else none
  | .done outcome, .done answer => answerOf outcome = answer
  | _, _ => False

/-- The query for the tunnel row finds the row of the device. -/
theorem Shows.getTunnel {t : DeviceTunnel} (h : Shows env w db c) (ht : t ∈ db.deviceTunnels)
    (hid : t.deviceId = w.deviceId) : TunnelService.getTunnel db w.deviceId = .ok (some t) := by
  rw [getTunnel_eq_lookup h.oneRow, (lookup_eq_some_iff h.oneRow).2 ⟨ht, hid⟩]

/-- The guard of an update looks at the row of the device. -/
theorem ensureUnmanaged_of_mem {t : DeviceTunnel} {payload : DeviceUpdate}
    (h : Shows env w db c) (ht : t ∈ db.deviceTunnels) (hid : t.deviceId = w.deviceId)
    (hb : payload.baseUrl.isSome = true) :
    DeviceService.ensureUnmanaged db w.deviceId payload =
      if t.enabled then conflict "base_url is managed by tunnel" else .ok () := by
  obtain ⟨url, hurl⟩ := Option.isSome_iff_exists.1 hb
  have hrows : db.deviceTunnels.filter (fun t => t.deviceId = w.deviceId && t.enabled) =
      [t].filter DeviceTunnel.enabled := by
    rw [← filter_of_uniqueKey h.oneRow ht, List.filter_filter, hid]
    refine List.filter_congr fun a _ => ?_
    rw [Bool.and_comm]
  unfold DeviceService.ensureUnmanaged oneOrNone
  rw [hurl, hrows]
  cases hen : t.enabled with
  | false => simp [hen]
  | true => simp [hen]

/-- After the query for the device row. -/
theorem simulates_start {r : Request} (hr : r.deviceId = w.deviceId) (h : Shows env w db c) :
    StageShows env w (Stage.after (TunnelService.getDevice db r.deviceId) .device)
      (.device c.baseUrl) := by
  obtain ⟨d, hget, hd, hurl⟩ := h.getDevice
  rw [hr, hget]
  exact ⟨hd, hurl⟩

/-- After the query for the tunnel row. -/
theorem simulates_device {r : Request} (hr : r.deviceId = w.deviceId) (htouch : r.TouchesBaseUrl)
    (h : Shows env w db c) {d : Device} (hd : w.OwnsDevice env d) :
    StageShows env w (r.readTunnel db d)
      ((r.onColumns env).readTunnel { c with baseUrl := d.baseUrl }) := by
  obtain ⟨t, htm, ht, hcols⟩ := h.tunnel
  have hget := h.getTunnel htm ht.deviceId
  have hen : t.enabled = c.enabled := congrArg Columns.enabled (hcols d)
  obtain ⟨deviceId, kind⟩ := r
  obtain rfl : deviceId = w.deviceId := hr
  cases kind with
  | enable nonce payload =>
      simp only [Request.readTunnel, Request.onColumns, readDisabled, hget,
        ColumnRequest.readTunnel, ← hen]
      cases ht' : t.enabled with
      | true =>
          simp [ensureNotEnabled, ht', conflict, bind, Except.bind, Stage.after, StageShows,
            answerOf, ConflictError]
      | false =>
          simp only [ensureNotEnabled, Option.any_some, ht', bind, Except.bind, pure, Except.pure,
            Stage.after, Bool.false_eq_true, if_false]
          refine ⟨rfl, rfl, hd, t, rfl, ht, ?_⟩
          rw [hcols d, ← hen, ht']
  | disable =>
      obtain ⟨d', hget', -, -⟩ := h.getDevice
      have hreq : requireTunnel db w.deviceId = .ok t := by
        unfold requireTunnel
        rw [hget', hget]
        rfl
      simp only [Request.readTunnel, Request.onColumns, hreq, Stage.after]
      exact ⟨hd, ht, hcols d, rfl⟩
  | update nonce payload =>
      obtain ⟨url, hurl⟩ := Option.isSome_iff_exists.1 htouch
      have hguard := ensureUnmanaged_of_mem h htm ht.deviceId htouch
      simp only [Request.readTunnel, Request.onColumns, hguard, ColumnRequest.readTunnel, ← hen]
      cases ht' : t.enabled with
      | true => simp [conflict, Stage.after, StageShows, answerOf, ConflictError]
      | false =>
          simp only [Bool.false_eq_true, if_false, Stage.after]
          refine ⟨hd, rfl, url, hurl, ?_⟩
          rw [hurl]
          rfl

/-- After the choice of a port. -/
theorem simulates_rows {nonce : ℕ} {payload : TunnelEnableIn} {d : Device} {t : DeviceTunnel}
    (h : Shows env w db c) (hd : w.OwnsDevice env d) (ht : w.OwnsTunnel env t) :
    StageShows env w
      (Stage.after (choosePort env.settings payload.remotePort
        (db.deviceTunnels.map DeviceTunnel.remotePort))
          fun port => .commit (.enable nonce payload d (some t) port))
      ((columnsOf d t).afterPort env.settings payload.syncDeviceBaseUrl
        (choosePort env.settings payload.remotePort (c.remotePort :: w.ports))) := by
  rw [choosePort_congr h.mem_ports]
  cases hp : choosePort env.settings payload.remotePort (c.remotePort :: w.ports) with
  | error e =>
      obtain ⟨message, rfl⟩ := choosePort_eq_error hp
      rfl
  | ok port => exact ⟨hd, t, rfl, ht, rfl, rfl⟩

/-- The rows a session writes have the keys of the rows it loaded. -/
theorem ownsDevice_of_fits {d dn : Device} (hd : w.OwnsDevice env d) (hid : dn.id = d.id)
    (hdev : dn.deviceId = d.deviceId) (hfits : d.fits = true → dn.fits = true) :
    w.OwnsDevice env dn :=
  ⟨hid.trans hd.id, hdev.trans hd.deviceId, fun he => hfits (hd.fits he)⟩

theorem ownsTunnel_of_fits {t tn : DeviceTunnel} (ht : w.OwnsTunnel env t) (hid : tn.id = t.id)
    (hdev : tn.deviceId = t.deviceId) (hfits : t.fits = true → tn.fits = true) :
    w.OwnsTunnel env tn :=
  ⟨hid.trans ht.id, hdev.trans ht.deviceId, fun he => hfits (ht.fits he)⟩

/-- A commit that ends as the commit of the columns does. -/
def CommitShows (env : Env) (w : Surroundings) (x : Except PyError Store) (c' : Columns)
    (answer : Answer) (db : Store) : Prop :=
  Shows env w (Stage.committed x db).1 c' ∧
    StageShows env w (Stage.committed x db).2 (.done answer)

/-- The commit of an `enable`. -/
theorem simulates_flushEnable {nonce : ℕ} {payload : TunnelEnableIn} {d : Device}
    {t : DeviceTunnel} {port : ℤ} (h : Shows env w db c) (hd : w.OwnsDevice env d)
    (ht : w.OwnsTunnel env t) :
    let flushed := (columnsOf d t).flush w.ports
      (some ((columnsOf d t).activated env.settings port payload.syncDeviceBaseUrl)) c
    CommitShows env w (flushEnable env w.deviceId nonce payload port d (some t) db) flushed.1
      flushed.2 db := by
  intro flushed
  have hdn : w.OwnsDevice env (syncedDevice env payload port d) := by
    unfold syncedDevice
    split
    · exact ownsDevice_of_fits hd rfl rfl id
    · exact hd
  have htn : w.OwnsTunnel env (enabledTunnel env w.deviceId nonce payload port d (some t)) := by
    refine ownsTunnel_of_fits ht rfl rfl fun hfits => fits_enabledTunnel (by simp) ?_
    intro t' ht'
    exact Option.some.inj ht' ▸ hfits
  have hcols : columnsOf (syncedDevice env payload port d)
      (enabledTunnel env w.deviceId nonce payload port d (some t)) =
      (columnsOf d t).activated env.settings port payload.syncDeviceBaseUrl := by
    unfold syncedDevice columnsOf enabledTunnel activate moveTunnel Columns.activated
    cases payload.syncDeviceBaseUrl <;> rfl
  obtain ⟨htaken, hfree⟩ := commit_both h hd hdn ht htn
  rw [hcols] at htaken hfree
  unfold CommitShows flushEnable
  simp only [writeEnable]
  by_cases hport : ((columnsOf d t).merge
      ((columnsOf d t).activated env.settings port payload.syncDeviceBaseUrl) c).remotePort ∈
        w.ports
  · have hflushed : flushed = (c, .conflict) := if_pos hport
    rw [htaken hport, hflushed]
    exact ⟨h, rfl⟩
  · have hflushed : flushed = (_, .success) := if_neg hport
    obtain ⟨hok, hshows⟩ := hfree hport
    rw [hok, hflushed]
    exact ⟨hshows, rfl⟩

/-- The commit of a `disable`. -/
theorem simulates_flushDisable {d : Device} {t : DeviceTunnel} (h : Shows env w db c)
    (hd : w.OwnsDevice env d) (ht : w.OwnsTunnel env t) :
    let flushed := (columnsOf d t).flush w.ports (some (columnsOf d t).deactivated) c
    CommitShows env w (flushDisable env d t db) flushed.1 flushed.2 db := by
  intro flushed
  have hdn : w.OwnsDevice env (restoredDevice d t) := ownsDevice_of_fits hd rfl rfl id
  have htn : w.OwnsTunnel env (disabledTunnel t) := by
    refine ownsTunnel_of_fits ht rfl rfl fun hfits => ?_
    exact fits_disabledTunnel hfits
  -- the port is not written
  have hport : ((columnsOf d t).merge (columnsOf d t).deactivated c).remotePort ∉ w.ports := by
    simp only [Columns.merge, Columns.deactivated, mergeColumn_unchanged]
    exact h.port_not_mem
  have hflushed : flushed = (_, .success) := if_neg hport
  obtain ⟨hok, hshows⟩ := (commit_both h hd hdn ht htn).2 hport
  unfold CommitShows flushDisable
  rw [hok, hflushed]
  exact ⟨hshows, rfl⟩

/-- A patched name fits its column. -/
theorem fits_patchedName {patch : Patch (BoundedStr 255)} {cur : Option String}
    (h : cur.all (fitsColumn 255) = true) :
    (DeviceService.patchNullable Subtype.val patch cur).all (fitsColumn 255) = true := by
  match patch with
  | none => exact h
  | some none => rfl
  | some (some name) =>
      exact decide_eq_true name.property

/-- Whether an update is storable, from the new value of `channel_type`. -/
theorem storable_iff {payload : DeviceUpdate} {d : Device}
    (hd : env.schema.enforceLengths = true → d.fits = true) :
    payload.storable env = true ↔ ∃ channelType,
      DeviceService.patchNullable id payload.channelType (some d.channelType) = some channelType ∧
        (env.schema.enforceLengths = true → fitsColumn 64 channelType = true) := by
  unfold DeviceUpdate.storable DeviceService.patchNullable
  match payload.channelType with
  | none =>
      exact iff_of_true rfl ⟨_, rfl, fun he => (Device.fits_iff.1 (hd he)).channelType⟩
  | some none => simp
  | some (some channelType) => cases env.schema.enforceLengths <;> simp

/-- The row after the assignments of an update: it fits if the new `channel_type` does. -/
theorem assign_of_channel {payload : DeviceUpdate} {d : Device} {channelType : String} (nonce : ℕ)
    (hc : DeviceService.patchNullable id payload.channelType (some d.channelType) =
      some channelType) :
    ∃ dn, DeviceService.assign env nonce payload d = .ok dn ∧ dn.id = d.id ∧
      dn.deviceId = d.deviceId ∧
      dn.baseUrl = DeviceService.patchNullable HttpUrl.str payload.baseUrl d.baseUrl ∧
      dn.channelType = channelType ∧
      (d.fits = true → fitsColumn 64 channelType = true → dn.fits = true) := by
  unfold DeviceService.assign
  rw [hc]
  refine ⟨_, rfl, rfl, rfl, rfl, rfl, fun hold hfits => ?_⟩
  rw [Device.fits_iff] at hold ⊢
  exact { hold with deviceName := fits_patchedName hold.deviceName, channelType := hfits }

/-- A `channel_type` that does not fit is refused. -/
theorem commit_of_long {d dn : Device} (h : Shows env w db c) (hd : w.OwnsDevice env d)
    (he : env.schema.enforceLengths = true)
    (hlong : fitsColumn 64 dn.channelType = false) :
    commit env.schema (db.writeDevice d dn) = .error .dataError := by
  obtain ⟨d₀, t₀, hd₀, ht₀, hdb, -⟩ := h.rows
  have hi := h.devices.1
  rw [hdb] at hi
  have hmem : d.merge dn d₀ ∈ (db.writeDevice d dn).devices := by
    rw [hdb, writeDevice_store hi hd hd₀]
    exact mem_middle.2 (Or.inl rfl)
  have hne : dn.channelType ≠ d.channelType := by
    intro heq
    have hfits := hd.fits he
    simp [Device.fits, ← heq, hlong] at hfits
  have hnot : (d.merge dn d₀).fits = false := by
    have hmerged : (d.merge dn d₀).channelType = dn.channelType := if_neg hne
    simp only [Device.fits, hmerged, hlong, Bool.and_false, Bool.false_and]
  have hbad : ¬ (db.writeDevice d dn).Fits := by
    intro hfit
    rw [hfit.1 _ hmem] at hnot
    exact Bool.noConfusion hnot
  unfold commit
  rw [if_pos ⟨he, hbad⟩]

/-- The commit of an update. -/
theorem simulates_flushUpdate {nonce : ℕ} {payload : DeviceUpdate} {d : Device} {read : Columns}
    {url : Option HttpUrl} (h : Shows env w db c) (hd : w.OwnsDevice env d)
    (hread : d.baseUrl = read.baseUrl) (hurl : payload.baseUrl = some url) :
    let flushed := read.flush w.ports
      (if payload.storable env then some { read with baseUrl := url.map HttpUrl.str } else none) c
    CommitShows env w (DeviceService.flushUpdate env nonce payload d db) flushed.1 flushed.2
      db := by
  intro flushed
  have hfailed : payload.storable env = false → flushed = (c, .failed) := by
    intro hs
    show read.flush w.ports (if payload.storable env then _ else none) c = _
    rw [hs]
    rfl
  have hstorable : payload.storable env = true ↔ _ := storable_iff hd.fits
  unfold CommitShows DeviceService.flushUpdate
  cases hc : DeviceService.patchNullable id payload.channelType (some d.channelType) with
  | none =>
      have hassign : DeviceService.assign env nonce payload d = .error .integrityError := by
        unfold DeviceService.assign
        rw [hc]
      rw [hassign, hfailed (by simpa [hc] using hstorable)]
      exact ⟨h, rfl⟩
  | some channelType =>
      obtain ⟨dn, hassign, hid, hdev, hbase, hchannel, hkept⟩ := assign_of_channel nonce hc
      have hnew : dn.baseUrl = url.map HttpUrl.str := by
        rw [hbase, hurl]
        rfl
      rw [hassign]
      simp only [bind, Except.bind]
      by_cases hfits : env.schema.enforceLengths = true → fitsColumn 64 channelType = true
      · have hown : w.OwnsDevice env dn :=
          ⟨hid.trans hd.id, hdev.trans hd.deviceId, fun he => hkept (hd.fits he) (hfits he)⟩
        obtain ⟨hcommit, hshows⟩ := commit_device h hd hown
        have hport : (read.merge { read with baseUrl := url.map HttpUrl.str } c).remotePort ∉
            w.ports := by
          simp only [Columns.merge, mergeColumn_unchanged]
          exact h.port_not_mem
        have hflushed : flushed =
            ({ c with baseUrl := mergeColumn d.baseUrl dn.baseUrl c.baseUrl }, .success) := by
          show read.flush w.ports (if payload.storable env then _ else none) c = _
          rw [hstorable.2 ⟨_, hc, hfits⟩, if_pos rfl, Columns.flush, if_neg hport, hread, hnew]
          simp [Columns.merge]
        rw [hcommit, hflushed]
        exact ⟨hshows, rfl⟩
      · obtain ⟨he, hlong⟩ := Classical.not_imp.1 hfits
        rw [Bool.not_eq_true, ← hchannel] at hlong
        have hs : payload.storable env = false := by
          rw [← Bool.not_eq_true, hstorable]
          rintro ⟨_, hc', hfits'⟩
          rw [hc] at hc'
          exact hfits (Option.some.inj hc' ▸ hfits')
        rw [commit_of_long h hd he hlong, hfailed hs]
        exact ⟨h, rfl⟩

/-- **The steps on the store simulate those on the columns.** -/
theorem simulates_step {r : Request} (hr : r.deviceId = w.deviceId) (htouch : r.TouchesBaseUrl)
    {l : Stage} {l' : ColumnStage} (h : Shows env w db c) (hl : StageShows env w l l') :
    Shows env w (r.step env db l).1 ((r.onColumns env).step env.settings w.ports c l').1 ∧
      StageShows env w (r.step env db l).2
        ((r.onColumns env).step env.settings w.ports c l').2 := by
  cases l with
  | start =>
      cases l' with
      | start => exact ⟨h, simulates_start hr h⟩
      | device | rows | commit | done => exact absurd hl id
  | device d =>
      cases l' with
      | device baseUrl =>
          obtain ⟨hd, rfl⟩ := hl
          exact ⟨h, simulates_device hr htouch h hd⟩
      | start | rows | commit | done => exact absurd hl id
  | rows nonce payload d t =>
      cases l' with
      | rows requested sync read =>
          obtain ⟨rfl, rfl, hd, t, rfl, ht, rfl⟩ := hl
          exact ⟨h, simulates_rows h hd ht⟩
      | start | device | commit | done => exact absurd hl id
  | commit flush =>
      cases l' with
      | commit read new =>
          simp only [Request.step, ColumnRequest.step]
          rw [hr]
          cases flush with
          | enable nonce payload d t port =>
              obtain ⟨hd, t, rfl, ht, rfl, rfl⟩ := hl
              exact simulates_flushEnable h hd ht
          | disable d t =>
              obtain ⟨hd, ht, rfl, rfl⟩ := hl
              exact simulates_flushDisable h hd ht
          | update nonce payload d =>
              obtain ⟨hd, hread, url, hurl, rfl⟩ := hl
              exact simulates_flushUpdate h hd hread hurl
      | start | device | rows | done =>
          cases flush <;> exact absurd hl id
  | done outcome =>
      cases l' with
      | done answer => exact ⟨h, hl⟩
      | start | device | rows | commit => exact absurd hl id

end

/-! ### Serializability -/

/-- What two requests leave and answer, run the one after the other. -/
def inTurn (r₁ r₂ : Request) (deviceId : String) (db : Store) :
    Option Columns × Option Answer × Option Answer :=
  let first := attempt (r₁.call env db) db
  let second := attempt (r₂.call env first.2) first.2
  (observed second.2 deviceId, some (answerOf first.1), some (answerOf second.1))

/-- The committed columns and the two answers are those of the one request after the other, in one
of the two orders. -/
def Serializable (req : Bool → Request) (deviceId : String) (db : Store)
    (e : Interleavings.Config Store Bool Stage) : Prop :=
  (observed e.1 deviceId, (e.2 false).answer, (e.2 true).answer) =
      inTurn env (req false) (req true) deviceId db ∨
    (observed e.1 deviceId, (e.2 true).answer, (e.2 false).answer) =
      inTurn env (req true) (req false) deviceId db

instance (req : Bool → Request) (deviceId : String) (db : Store)
    (e : Interleavings.Config Store Bool Stage) :
    Decidable (Serializable env req deviceId db e) :=
  inferInstanceAs (Decidable (_ ∨ _))

section

variable {env} {w : Surroundings} {db : Store} {c : Columns} {req : Bool → Request}

/-- A call, seen as columns. -/
theorem call_shows (hreq : ∀ i, (req i).deviceId = w.deviceId)
    (htouch : ∀ i, (req i).TouchesBaseUrl) (h : Shows env w db c) (i : Bool) :
    Shows env w (attempt ((req i).call env db) db).2
        (((req i).onColumns env).call env.settings w.ports c).1 ∧
      answerOf (attempt ((req i).call env db) db).1 =
        (((req i).onColumns env).call env.settings w.ports c).2 := by
  have hsim : Shows env w
        (Interleavings.alone (fun i => (req i).step env) i 4 (db, .start)).1
        (Interleavings.alone (columnStep env.settings w.ports fun i => (req i).onColumns env) i 4
          (c, .start)).1 ∧
      StageShows env w
        (Interleavings.alone (fun i => (req i).step env) i 4 (db, .start)).2
        (Interleavings.alone (columnStep env.settings w.ports fun i => (req i).onColumns env) i 4
          (c, .start)).2 :=
    Interleavings.alone_simulation (R := Shows env w) (S := fun _ => StageShows env w)
      (fun k _ _ _ _ hR hS => simulates_step (hreq k) (htouch k) hR hS) i 4 h trivial
  rw [Request.alone_eq_call, ColumnRequest.alone_eq_finish env.settings w.ports _ i 4 c .start
    le_rfl] at hsim
  exact hsim

/-- Two calls, seen as columns. -/
theorem inTurn_eq (hreq : ∀ i, (req i).deviceId = w.deviceId)
    (htouch : ∀ i, (req i).TouchesBaseUrl) (h : Shows env w db c) (i j : Bool) :
    let serial := oneAfterOther env.settings w.ports ((req i).onColumns env)
      ((req j).onColumns env) c
    inTurn env (req i) (req j) w.deviceId db =
      (some serial.1, some serial.2.1, some serial.2.2) := by
  obtain ⟨hfirst, hanswer⟩ := call_shows hreq htouch h i
  obtain ⟨hsecond, hanswer'⟩ := call_shows hreq htouch hfirst j
  unfold inTurn oneAfterOther
  simp only [hsecond.observed, hanswer, hanswer']

/-- The ports of the rows of other devices. -/
def otherPorts (db : Store) (deviceId : String) : List ℤ :=
  (db.deviceTunnels.filter fun t => t.deviceId ≠ deviceId).map DeviceTunnel.remotePort

/-- A device with a tunnel row shows the columns of its rows. -/
theorem shows_of_mem {d : Device} {t : DeviceTunnel} (hadm : db.Admitted env.schema)
    (hone : UniqueKey DeviceTunnel.deviceId db.deviceTunnels) (hd : d ∈ db.devices)
    (ht : t ∈ db.deviceTunnels) (hid : d.deviceId = t.deviceId) :
    ∃ w : Surroundings, w.deviceId = t.deviceId ∧ Shows env w db (columnsOf d t) ∧
      w.ports = otherPorts db t.deviceId := by
  obtain ⟨before, after, hdevices⟩ := List.append_of_mem hd
  obtain ⟨tunnelsBefore, tunnelsAfter, htunnels⟩ := List.append_of_mem ht
  refine ⟨⟨t.deviceId, d.id, t.id, before, after, tunnelsBefore, tunnelsAfter⟩, rfl,
    ⟨hadm, hone, d, t, ⟨rfl, hid, fun he => (hadm.1 he).1 d hd⟩,
      ⟨rfl, rfl, fun he => (hadm.1 he).2.1 t ht⟩, ?_, rfl⟩, ?_⟩
  · unfold Surroundings.store
    rw [← hdevices, ← htunnels]
  · have hothers : ∀ rows : List DeviceTunnel, (∀ t' ∈ rows, t' ∈ tunnelsBefore ++ tunnelsAfter) →
        rows.filter (fun t' => t'.deviceId ≠ t.deviceId) = rows := by
      intro rows hrows
      rw [List.filter_eq_self]
      intro t' ht'
      rw [htunnels] at hone
      exact decide_eq_true ((uniqueKey_middle.1 hone).2 t' (hrows t' ht'))
    unfold Surroundings.ports otherPorts
    rw [htunnels, List.filter_append, List.filter_cons_of_neg (by simp),
      hothers _ fun t' => List.mem_append_left _, hothers _ fun t' => List.mem_append_right _]

/-- An answered request has the answer of its columns. -/
theorem StageShows.done {l : Stage} {l' : ColumnStage} (h : StageShows env w l l') (hl : l.Done) :
    ∃ a, l' = .done a ∧ l.answer = some a := by
  cases l with
  | done outcome =>
      cases l' with
      | done answer => exact ⟨answer, rfl, congrArg some h⟩
      | start | device | rows | commit => exact absurd h id
  | start | device | rows | commit => exact absurd hl id

/-- **Two concurrent requests on a device with a tunnel row** leave and answer what they leave and
answer in one of the two orders exactly if their schedule has no anomaly. -/
theorem serializable_iff {d : Device} {t : DeviceTunnel} (hadm : db.Admitted env.schema)
    (hone : UniqueKey DeviceTunnel.deviceId db.deviceTunnels) (hd : d ∈ db.devices)
    (ht : t ∈ db.deviceTunnels) (hid : d.deviceId = t.deviceId)
    (hreq : ∀ i, (req i).deviceId = t.deviceId) (htouch : ∀ i, (req i).TouchesBaseUrl)
    (sched : List Bool)
    (hend : ∀ i, ((final (Interleavings.exec fun i => (req i).step env) (db, fun _ => .start)
      sched).2 i).Done) :
    Serializable env req t.deviceId db
        (final (Interleavings.exec fun i => (req i).step env) (db, fun _ => .start) sched) ↔
      ¬ Anomalous env.settings (otherPorts db t.deviceId) (fun i => (req i).onColumns env)
        (columnsOf d t) sched := by
  obtain ⟨w, hw, hshows, hports⟩ := shows_of_mem hadm hone hd ht hid
  rw [← hw] at hreq
  rw [← hports, ← hw]
  let e := final (Interleavings.exec fun i => (req i).step env) (db, fun _ => .start) sched
  let e' := final (Interleavings.exec (columnStep env.settings w.ports fun i =>
    (req i).onColumns env)) (columnsOf d t, fun _ => .start) sched
  have hsim : Shows env w e.1 e'.1 ∧ ∀ i, StageShows env w (e.2 i) (e'.2 i) :=
    Interleavings.final_simulation (R := Shows env w) (S := fun _ => StageShows env w)
      (fun k _ _ _ _ hR hS => simulates_step (hreq k) (htouch k) hR hS) hshows
      (fun _ => (show StageShows env w .start .start from trivial)) sched
  obtain ⟨hcols, hstages⟩ := hsim
  obtain ⟨a₁, hdone₁, hanswer₁⟩ := (hstages false).done (hend false)
  obtain ⟨a₂, hdone₂, hanswer₂⟩ := (hstages true).done (hend true)
  have hend' : ∀ i, (e'.2 i).Done := by
    intro i
    obtain ⟨a, hdone, -⟩ := (hstages i).done (hend i)
    rw [hdone]
    trivial
  have hserial : Serializable env req w.deviceId db e ↔
      ColumnsSerial env.settings w.ports (fun i => (req i).onColumns env) (columnsOf d t) e' := by
    rw [columnsSerial_iff hdone₁ hdone₂]
    unfold Serializable SerialOutcome
    rw [hcols.observed, hanswer₁, hanswer₂, inTurn_eq hreq htouch hshows,
      inTurn_eq hreq htouch hshows]
    simp only [Option.some.injEq, Prod.ext_iff]
    rfl
  exact hserial.trans (columns_serial_iff hshows.port_not_mem hend')

end

/-- A body that asks for a port. -/
def onPort (port : ℕ) (h : 1 ≤ (port : ℤ) ∧ (port : ℤ) ≤ 65535) : TunnelEnableIn :=
  { localIp := .default, localPort := .app, remotePort := some ⟨port, h⟩ }

/-- A device whose tunnel was switched on and off again. -/
def switchedOff : List TunnelOp :=
  [.create Uuid.nil 0 {}, .enable (generateDeviceId Uuid.nil) 0 (onPort 17000 (by decide)),
    .disable (generateDeviceId Uuid.nil)]

/-- The rows of that device. -/
def offDevice : Device := { DeviceService.newDevice (plainEnv ormSchema) Uuid.nil 0 {} with id := 1 }

def offTunnel : DeviceTunnel :=
  disabledTunnel { enabledTunnel (plainEnv ormSchema) (generateDeviceId Uuid.nil) 0
    (onPort 17000 (by decide)) 17000 offDevice none with id := 1 }

def offStore : Store := { Store.empty with devices := [offDevice], deviceTunnels := [offTunnel] }

/-- Two requests to switch it on, on different ports. -/
def bothEnable (b : Bool) : Request where
  deviceId := generateDeviceId Uuid.nil
  kind := .enable 0 (if b then onPort 17002 (by decide) else onPort 17001 (by decide))

/-- The second request starts when the first one has committed. -/
def enabledInTurn : List Bool := [false, false, false, false, true, true, true, true]

/-- The first request commits before the second one has read anything, and then it is done. -/
theorem not_anomalous_enabledInTurn :
    ¬ Anomalous (plainEnv ormSchema).settings (otherPorts offStore offTunnel.deviceId)
      (fun i => (bothEnable i).onColumns (plainEnv ormSchema)) (columnsOf offDevice offTunnel)
      enabledInTurn := by
  rintro ⟨pre, i, post, hsched, hcommit, hopen, hanomaly⟩
  have hpre : pre ∈ enabledInTurn.inits := (List.mem_inits _ _).2 ⟨i :: post, hsched.symm⟩
  cases i with
  | false =>
      have hnone : ∀ pre ∈ enabledInTurn.inits, pre.count false + 1 = 4 → pre.count true = 0 := by
        decide
      have hzero : pre.count (!false) = 0 := hnone pre hpre hcommit
      rw [hzero] at hanomaly
      obtain ⟨-, port, -, hread⟩ := hanomaly
      simp at hread
  | true =>
      have hall : ∀ pre ∈ enabledInTurn.inits, pre.count true + 1 = 4 → ¬ pre.count false < 4 := by
        decide
      exact hall pre hpre hcommit hopen

/-- The one after the other, the two requests are serializable. -/
theorem one_by_one_serializable :
    Serializable (plainEnv ormSchema) bothEnable offTunnel.deviceId offStore
      (final (Interleavings.exec fun i => (bothEnable i).step (plainEnv ormSchema))
        (offStore, fun _ => .start) enabledInTurn) :=
  (serializable_iff (by decide) (by decide) List.mem_cons_self List.mem_cons_self rfl
    (fun _ => rfl) (fun b => (show (bothEnable b).TouchesBaseUrl from trivial)) enabledInTurn
    (fun i => by cases i <;> trivial)).2 not_anomalous_enabledInTurn

/-- **Both requests succeed** if both look at the rows before either commits. -/
theorem two_enables_succeed :
    final (TunnelOp.exec (plainEnv ormSchema)) Store.empty switchedOff = offStore ∧
      ¬ Serializable (plainEnv ormSchema) bothEnable offTunnel.deviceId offStore
        (final (Interleavings.exec fun i => (bothEnable i).step (plainEnv ormSchema))
          (offStore, fun _ => .start) [false, false, false, true, true, true, false, true]) := by
  refine ⟨rfl, ?_⟩
  decide

end SmsForwarder
