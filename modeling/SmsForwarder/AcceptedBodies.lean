/-
**Accepted bodies and the tables.**

A request model and the table its values go to are two descriptions of the same data, and nothing
but care keeps them together: what the model lets through and the table refuses ends in an error of
the database, which the API answers with no code of its own.  The creation and the partial update of
devices have such values, `channel_type` being neither bounded nor kept from null; the two calls of
the tunnel service have none.

Main definitions:

* `SmsForwarder.ServerOp`, `SmsForwarder.ServerOp.exec` — the calls of all services, and the commits
  of sessions whose steps interleaved;
* `SmsForwarder.Answered` — a computation that returns or ends in an error of the API;
* `SmsForwarder.BodyCall`, `SmsForwarder.BodyCall.Settles` — the calls that take a body, and what is
  asked of them;
* `SmsForwarder.BodyCall.Suits` — the state has room for what the body asks.

Main results:

* `SmsForwarder.oneRow_final` — run one after the other, the calls of all services leave a device
  with one tunnel row at most;
* `SmsForwarder.bodyCall_settles_iff` — **after every run, a call settles exactly if it suits the
  store**;
* `SmsForwarder.tunnelCalls_settle` — the calls on the tunnel service always do, once a device has
  one tunnel row at most;
* `SmsForwarder.null_channel_type_escapes` — a body that does not suit the store.
-/

import SmsForwarder.IngestIsolation
import SmsForwarder.TunnelRaces

set_option relaxedAutoImplicit false
set_option autoImplicit false

namespace SmsForwarder

open Tables Runs TunnelService

/-! ### Runs of the server -/

/-- What a run of the server consists of: calls of the device and the tunnel service, calls of the
webhook service and commands, and the commits of sessions that ran beside others, which leave
whatever the database accepts. -/
inductive ServerOp
  | tunnel (op : TunnelOp)
  | service (op : ServiceOp)
  | session (new : Store)

/-- The operation with what it raises and the store it leaves. -/
def ServerOp.exec (env : Env) (db : Store) : ServerOp → Except PyError Unit × Store
  | tunnel op => ((op.exec env db).1.map fun _ => (), (op.exec env db).2)
  | service op => ((op.exec env db).1.map fun _ => (), (op.exec env db).2)
  | session new => attempt ((commit env.schema new).map fun db' => (db', ())) db

/-- The operation is a call, made while no other is running. -/
def ServerOp.IsCall : ServerOp → Prop
  | session _ => False
  | _ => True

section

variable {env : Env} {db : Store}

/-- Tables with the same tunnel rows, and device rows of the same identifiers, are as sound. -/
theorem TunnelsSound.congr {db' : Store} (h : TunnelsSound env db)
    (htunnels : db'.deviceTunnels = db.deviceTunnels)
    (hids : ∀ id, (∃ d ∈ db'.devices, d.deviceId = id) ↔ ∃ d ∈ db.devices, d.deviceId = id) :
    TunnelsSound env db' := by
  refine ⟨?_, fun t ht => ?_, fun d hd => ?_, fun t ht => ?_⟩
  · rw [htunnels]
    exact h.oneRow
  · rw [htunnels] at ht
    exact (hids _).2 (h.owned t ht)
  · obtain ⟨d', hd', heq⟩ := (hids d.deviceId).1 ⟨d, hd, rfl⟩
    rw [← heq]
    exact h.named d' hd'
  · rw [htunnels] at ht
    exact h.rows t ht

/-- A call of the webhook service leaves the tunnels alone; it may add a device. -/
theorem tunnelsSound_webhook {op : WebhookOp} {r : Store × WebhookAnswer}
    (hadm : db.Admitted env.schema) (h : TunnelsSound env db) (hr : op.run env db = .ok r) :
    TunnelsSound env r.1 := by
  cases op with
  | register uuid nonce payload =>
      obtain ⟨r, hcall, rfl⟩ := map_eq_ok.1 hr
      obtain ⟨hdb, -⟩ := DeviceService.create_eq_ok hcall
      rw [hdb]
      exact h.insertDevice rfl
  | create deviceId secret =>
      obtain ⟨r, hcall, rfl⟩ := map_eq_ok.1 hr
      obtain ⟨-, hdb, -⟩ := WebhookService.create_eq_ok hcall
      rw [hdb]
      exact h.congr rfl fun _ => Iff.rfl
  | rotate deviceId secret =>
      obtain ⟨r, hcall, rfl⟩ := map_eq_ok.1 hr
      obtain ⟨-, hdb, -⟩ := WebhookService.rotate_eq_ok hadm.2.2.2.1.1 hcall
      rw [hdb]
      exact h.congr rfl fun _ => Iff.rfl
  | ingest webhookId posting =>
      obtain ⟨webhook, hload, hr⟩ := bind_eq_ok.1 hr
      obtain ⟨r, hcall, hr⟩ := bind_eq_ok.1 hr
      cases hr
      have hw := ((loadWebhook_eq_ok hadm.2.2.2.1.1).1 hload).1
      obtain ⟨fields, event, -, -, -, -, device, -, -, hdb, -⟩ :=
        WebhookService.ingest_eq_ok hadm hw hcall
      have hkeys : deviceKeys r.1 = deviceKeys db := by
        rw [hdb]
        exact deviceKeys_calledStore
      refine h.congr ?_ fun id => ⟨exists_device_of_deviceKeys hkeys.symm,
        exists_device_of_deviceKeys hkeys⟩
      rw [hdb]
      cases r.2.duplicate <;> rfl

/-- A dispatch writes its log row and nothing else. -/
theorem dispatch_tables (env : Env) (d : DispatchCall) (db : Store) (id commandType : String)
    (payload : List (Py.Str × Py.Json)) (userId : Option ℤ) :
    (CommandService.dispatch env d db id commandType payload userId).2.devices = db.devices ∧
      (CommandService.dispatch env d db id commandType payload userId).2.deviceTunnels =
        db.deviceTunnels := by
  rcases CommandService.dispatch_store_cases env d db id commandType payload userId with
    hkeep | ⟨device, db', log, hcreate, hend⟩
  · rw [hkeep]
    exact ⟨rfl, rfl⟩
  · obtain ⟨u, -, hcreate⟩ := bind_eq_ok.1 hcreate
    obtain ⟨db₁, hcommit, hcreate⟩ := bind_eq_ok.1 hcreate
    obtain ⟨rfl, -⟩ := commit_eq_ok.1 hcommit
    cases hcreate
    rcases hend with hlogged | ⟨status, response, errorMsg, hfinish⟩
    · rw [hlogged]
      exact ⟨rfl, rfl⟩
    · obtain ⟨u, -, hfinish⟩ := bind_eq_ok.1 hfinish
      obtain ⟨hdb, -⟩ := commit_eq_ok.1 hfinish
      rw [hdb]
      exact ⟨rfl, rfl⟩

/-- The database accepts the store that an operation leaves. -/
theorem admitted_serverOp (op : ServerOp) (hadm : db.Admitted env.schema) :
    (op.exec env db).2.Admitted env.schema := by
  cases op with
  | tunnel op =>
      exact attempt_keeps (P := fun db => db.Admitted env.schema) hadm
        fun _ _ hr => admitted_tunnelOp hr
  | service op => exact admitted_exec op hadm
  | session new =>
      refine attempt_keeps (P := fun db : Store => db.Admitted env.schema) hadm fun db' _ hr => ?_
      obtain ⟨db₁, hcommit, heq⟩ := map_eq_ok.1 hr
      cases heq
      obtain ⟨rfl, hadm'⟩ := commit_eq_ok.1 hcommit
      exact hadm'

/-- A call keeps the tables sound. -/
theorem tunnelsSound_serverOp {op : ServerOp} (hop : op.IsCall) (hadm : db.Admitted env.schema)
    (h : TunnelsSound env db) : TunnelsSound env (op.exec env db).2 := by
  cases op with
  | tunnel op => exact (tunnelsSound_exec env ⟨hadm, h⟩).2
  | session new => exact absurd hop id
  | service op =>
      cases op with
      | webhook op =>
          exact attempt_keeps (P := TunnelsSound env) h
            fun _ _ hr => tunnelsSound_webhook hadm h hr
      | dispatch d id commandType payload userId =>
          obtain ⟨hdevices, htunnels⟩ :=
            dispatch_tables env d.inInsertionOrder db id commandType payload userId
          show TunnelsSound env
            (CommandService.dispatch env d.inInsertionOrder db id commandType payload userId).2
          refine h.congr htunnels fun id' => ?_
          rw [hdevices]

end

variable (env : Env)

/-- The database accepts the store of every state of every run. -/
theorem admitted_serverRun (ops : List ServerOp) :
    (final (ServerOp.exec env) Store.empty ops).Admitted env.schema :=
  run_induction (ServerOp.exec env) (P := fun db _ => db.Admitted env.schema)
    (Store.admitted_empty env.schema) (fun _ _ op h => admitted_serverOp op h) ops

/-- After a run of calls the tables are sound. -/
theorem tunnelsSound_serverRun (ops : List ServerOp) (hops : ∀ op ∈ ops, op.IsCall) :
    TunnelsSound env (final (ServerOp.exec env) Store.empty ops) := by
  induction ops using List.reverseRecOn with
  | nil => exact tunnelsSound_empty env
  | append_singleton ops op ih =>
      rw [List.forall_mem_append, List.forall_mem_singleton] at hops
      rw [final_concat]
      exact tunnelsSound_serverOp hops.2 (admitted_serverRun env ops) (ih hops.1)

/-- **A device has one tunnel row at most**, if the calls of the run were made one after the other
or the column is unique. -/
theorem oneRow_final (ops : List ServerOp)
    (h : (∀ op ∈ ops, op.IsCall) ∨ env.schema.uniqueTunnelDevice = true) :
    UniqueKey DeviceTunnel.deviceId
      (final (ServerOp.exec env) Store.empty ops).deviceTunnels := by
  rcases h with hops | hunique
  · exact (tunnelsSound_serverRun env ops hops).oneRow
  · exact (admitted_serverRun env ops).2.2.1.2.2 hunique

/-! ### Errors of the API and others -/

/-- The computation returns, or ends in an error that the API answers with a code of its own. -/
def Answered {α : Type} (x : Except PyError α) : Prop := ∀ e, x = .error e → ∃ a, e = .app a

section

variable {α β : Type}

theorem answered_ok (a : α) : Answered (.ok a) := fun e h => by simp at h

theorem answered_notFound (message : String) : Answered (notFound message : Except PyError α) :=
  fun _ h => ⟨_, (Except.error.inj h).symm⟩

theorem answered_conflict (message : String) : Answered (conflict message : Except PyError α) :=
  fun _ h => ⟨_, (Except.error.inj h).symm⟩

theorem answered_error_iff {e : PyError} :
    Answered (.error e : Except PyError α) ↔ ∃ a, e = .app a := by
  simp [Answered]

/-- A computation in two parts is answered exactly if each part it comes to is. -/
theorem answered_bind {x : Except PyError α} {f : α → Except PyError β} :
    Answered (x >>= f) ↔ Answered x ∧ ∀ a, x = .ok a → Answered (f a) := by
  cases x with
  | error e => simp [Answered, bind, Except.bind]
  | ok a => simp [Answered, bind, Except.bind]

/-- What is done with the result of a computation does not matter. -/
theorem answered_bind_pure {x : Except PyError α} {f : α → β} :
    Answered (x >>= fun a => pure (f a)) ↔ Answered x := by
  rw [answered_bind]
  exact and_iff_left fun a _ => answered_ok (f a)

theorem answered_map {x : Except PyError α} {f : α → β} : Answered (x.map f) ↔ Answered x := by
  cases x with
  | error e => simp [Answered, Except.map]
  | ok a => simp [Answered, Except.map]

/-- A commit is answered exactly if the database accepts the store. -/
theorem answered_commit {schema : Schema} {db : Store} :
    Answered (commit schema db) ↔ db.Admitted schema := by
  constructor
  · intro h
    cases hc : commit schema db with
    | ok db' =>
        obtain ⟨rfl, hadm⟩ := commit_eq_ok.1 hc
        exact hadm
    | error e =>
        -- a refused commit ends in one of the two errors of the database
        obtain ⟨a, rfl⟩ := h e hc
        unfold commit at hc
        split_ifs at hc
        · simp at hc
        · simp at hc
  · intro hadm
    rw [commit_eq_ok.2 ⟨rfl, hadm⟩]
    exact answered_ok db

end

/-! ### The calls that take a body -/

/-- A call whose request carries a body.  The identifiers and nonces the code draws are
arguments. -/
inductive BodyCall
  | create (uuid : Uuid) (nonce : ℕ) (payload : DeviceCreate)
  | updateDevice (deviceId : String) (nonce : ℕ) (payload : DeviceUpdate)
  | enable (deviceId : String) (nonce : ℕ) (payload : TunnelEnableIn)
  | update (deviceId : String) (payload : TunnelUpdateIn)

/-- The call, among those of the two services. -/
def BodyCall.op : BodyCall → TunnelOp
  | create uuid nonce payload => .create uuid nonce payload
  | updateDevice deviceId nonce payload => .updateDevice deviceId nonce payload
  | enable deviceId nonce payload => .enable deviceId nonce payload
  | update deviceId payload => .update deviceId payload

variable (db : Store)

/-- The call commits and returns, or raises an `AppError` that leaves the store as it was. -/
def BodyCall.Settles (c : BodyCall) : Prop :=
  (∃ answer, (c.op.exec env db).1 = .ok answer ∧ (c.op.exec env db).2.Admitted env.schema) ∨
    ∃ e, c.op.exec env db = (.error (.app e), db)

/-- The table has at most one row for the lookup. -/
def AtMostOne (p : DeviceTunnel → Bool) : Prop := (db.deviceTunnels.filter p).length ≤ 1

/-- The lookup of the enabled tunnel that manages a `base_url` of the body. -/
def managing (deviceId : String) (t : DeviceTunnel) : Bool := t.deviceId = deviceId && t.enabled

/-- The state has room for what the body asks: the identifier drawn for a new device is new and its
`channel_type` fits; an update that no tunnel stands in the way of has a `channel_type` the column
takes; and no lookup of a tunnel meets several rows. -/
def BodyCall.Suits : BodyCall → Prop
  | create uuid _ payload =>
      (∀ d ∈ db.devices, d.deviceId ≠ generateDeviceId uuid) ∧
        (env.schema.enforceLengths = true → fitsColumn 64 payload.channelType = true)
  | updateDevice deviceId _ payload =>
      (∃ d ∈ db.devices, d.deviceId = deviceId) →
        (payload.baseUrl.isSome = true → AtMostOne db (managing deviceId)) ∧
          ((payload.baseUrl.isSome = true ∧ ∃ t ∈ db.deviceTunnels, managing deviceId t = true) ∨
            payload.storable env = true)
  | enable deviceId _ _ =>
      (∃ d ∈ db.devices, d.deviceId = deviceId) → AtMostOne db fun t => t.deviceId = deviceId
  | update deviceId _ =>
      (∃ d ∈ db.devices, d.deviceId = deviceId) → AtMostOne db fun t => t.deviceId = deviceId

/-! ### Lookups -/

section

variable {env} {db} {deviceId : String}

/-- A call settles exactly if it is answered. -/
theorem settles_iff {c : BodyCall} : c.Settles env db ↔ Answered (c.op.run env db) := by
  unfold BodyCall.Settles TunnelOp.exec
  rcases attempt_cases (c.op.run env db) db with ⟨db', answer, hr, hcall⟩ | ⟨e, hr, hcall⟩
  · rw [hcall, hr]
    exact iff_of_true (Or.inl ⟨answer, rfl, admitted_tunnelOp hr⟩) (answered_ok _)
  · rw [hcall, hr, answered_error_iff]
    simp

/-- The lookup of a device finds one or raises a `NotFoundError`. -/
theorem answered_requireDevice (hu : UniqueKey Device.deviceId db.devices) :
    Answered (requireDevice db deviceId) := by
  unfold requireDevice
  rw [oneOrNone_eq_lookup hu]
  cases lookup Device.deviceId deviceId db.devices with
  | none => exact answered_notFound _
  | some device => exact answered_ok device

/-- What follows the lookup of a device follows for the device there is. -/
theorem forall_requireDevice (hu : UniqueKey Device.deviceId db.devices) {P : Device → Prop} :
    (∀ device, requireDevice db deviceId = .ok device → P device) ↔
      ∀ device ∈ db.devices, device.deviceId = deviceId → P device := by
  constructor
  · intro h device hd hid
    exact h device (by rw [← hid, requireDevice_of_mem hu hd])
  · intro h device hget
    obtain ⟨hd, hid⟩ := requireDevice_eq_ok hget
    exact h device hd hid

theorem atMostOne_iff {p : DeviceTunnel → Bool} :
    AtMostOne db p ↔ oneOrNone p db.deviceTunnels ≠ none := by
  unfold AtMostOne
  rw [Ne, oneOrNone_eq_none, not_lt]

/-- The lookup of a tunnel is answered unless it meets several rows. -/
theorem answered_getTunnel :
    Answered (getTunnel db deviceId) ↔ AtMostOne db fun t => t.deviceId = deviceId := by
  rw [atMostOne_iff]
  unfold getTunnel
  split
  · rename_i hmany
    rw [hmany]
    simp [answered_error_iff]
  · rename_i tunnel hfound
    rw [hfound]
    exact iff_of_true (answered_ok tunnel) (by simp)

/-- So is the lookup of an enabled tunnel, which an update without a `base_url` leaves out. -/
theorem answered_ensureUnmanaged {payload : DeviceUpdate} :
    Answered (DeviceService.ensureUnmanaged db deviceId payload) ↔
      (payload.baseUrl.isSome = true → AtMostOne db (managing deviceId)) := by
  rw [atMostOne_iff]
  unfold DeviceService.ensureUnmanaged managing
  cases payload.baseUrl with
  | none => exact iff_of_true (answered_ok ()) (by simp)
  | some url =>
      cases hfound : oneOrNone (fun t : DeviceTunnel => decide (t.deviceId = deviceId) && t.enabled)
          db.deviceTunnels with
      | none => simp [answered_error_iff]
      | some tunnel =>
          cases tunnel with
          | none => exact iff_of_true (answered_ok ()) (by simp)
          | some t => exact iff_of_true (answered_conflict _) (by simp)

/-- An update goes on unless a tunnel manages the `base_url` it carries. -/
theorem ensureUnmanaged_eq_ok_iff {payload : DeviceUpdate} {u : Unit} :
    DeviceService.ensureUnmanaged db deviceId payload = .ok u ↔
      (payload.baseUrl.isSome = true → ∀ t ∈ db.deviceTunnels, managing deviceId t = false) := by
  unfold DeviceService.ensureUnmanaged managing
  cases payload.baseUrl with
  | none => simp
  | some url =>
      rw [← oneOrNone_eq_none_row]
      cases hfound : oneOrNone (fun t : DeviceTunnel => decide (t.deviceId = deviceId) && t.enabled)
          db.deviceTunnels with
      | none => simp
      | some tunnel => cases tunnel <;> simp

end

/-! ### The calls -/

section

variable {env} {db} {deviceId : String}

/-- A row that `create` adds is accepted exactly if its identifier is new and its `channel_type`
fits: the request model bounds the rest. -/
theorem admitted_insertDevice_iff {uuid : Uuid} {nonce : ℕ} {payload : DeviceCreate}
    (hadm : db.Admitted env.schema) :
    (db.insertDevice (DeviceService.newDevice env uuid nonce payload)).Admitted env.schema ↔
      (∀ d ∈ db.devices, d.deviceId ≠ generateDeviceId uuid) ∧
        (env.schema.enforceLengths = true → fitsColumn 64 payload.channelType = true) := by
  have hid : fitsColumn 128 (generateDeviceId uuid) = true := by
    have hlen : (String.ofList (uuid.hex.take 24)).length ≤ 24 := by
      rw [String.length_ofList]
      exact List.length_take_le _ _
    have hprefix : "dev_".length = 4 := by decide
    unfold fitsColumn generateDeviceId
    rw [decide_eq_true_eq, String.length_append]
    omega
  have hname : (payload.deviceName.map Subtype.val).all (fitsColumn 255) = true := by
    cases payload.deviceName with
    | none => rfl
    | some name => exact decide_eq_true name.property
  have hnew : ∀ id, (Device.fits { DeviceService.newDevice env uuid nonce payload with id }) =
      fitsColumn 64 payload.channelType := by
    intro id
    have hstatus : fitsColumn 32 "inactive" = true := by decide
    simp only [Device.fits, DeviceService.newDevice, hid, hname, hstatus, Bool.true_and,
      Bool.and_true]
  obtain ⟨hfit, ⟨hi, hd⟩, hrest⟩ := hadm
  constructor
  · rintro ⟨hfit', ⟨-, hd'⟩, -⟩
    refine ⟨(uniqueKey_concat.1 hd').2, fun he => ?_⟩
    have hmem := (hfit' he).1 _ (List.mem_append_right _ (List.mem_singleton_self _))
    rwa [hnew] at hmem
  · rintro ⟨hfresh, hchannel⟩
    refine ⟨fun he => ?_, ⟨uniqueKey_concat_nextKey hi rfl, uniqueKey_concat.2 ⟨hd, hfresh⟩⟩,
      hrest⟩
    obtain ⟨hdevices, hothers⟩ := hfit he
    refine ⟨fun d hmem => ?_, hothers⟩
    rcases List.mem_append.1 hmem with hmem | hmem
    · exact hdevices d hmem
    · rw [List.mem_singleton.1 hmem, hnew]
      exact hchannel he

theorem answered_create {uuid : Uuid} {nonce : ℕ} {payload : DeviceCreate}
    (hadm : db.Admitted env.schema) :
    Answered (DeviceService.create env db uuid nonce payload) ↔
      (BodyCall.create uuid nonce payload).Suits env db := by
  unfold DeviceService.create
  rw [answered_bind_pure, answered_commit]
  exact admitted_insertDevice_iff hadm

/-- The commit of an update is answered exactly if the update is storable. -/
theorem answered_flushUpdate {nonce : ℕ} {payload : DeviceUpdate} {device : Device}
    (hadm : db.Admitted env.schema) (hd : device ∈ db.devices) :
    Answered (DeviceService.flushUpdate env nonce payload device db) ↔
      payload.storable env = true := by
  have hfits : env.schema.enforceLengths = true → device.fits = true := fun he =>
    (hadm.1 he).1 device hd
  unfold DeviceService.flushUpdate
  rw [storable_iff hfits]
  cases hc : DeviceService.patchNullable id payload.channelType (some device.channelType) with
  | none =>
      -- the flush refuses the null
      have hassign : DeviceService.assign env nonce payload device = .error .integrityError := by
        unfold DeviceService.assign
        rw [hc]
      rw [hassign]
      simp [answered_error_iff, bind, Except.bind]
  | some channelType =>
      obtain ⟨new, hassign, hid, hdev, -, hchannel, hkept⟩ := assign_of_channel nonce hc
      rw [hassign]
      show Answered (commit env.schema (db.writeDevice device new)) ↔ _
      rw [answered_commit, Store.admitted_writeDevice_iff hadm hd hid hdev]
      constructor
      · intro hnew
        refine ⟨channelType, rfl, fun he => ?_⟩
        rw [← hchannel]
        exact (Device.fits_iff.1 (hnew he)).channelType
      · rintro ⟨channelType', hsome, hlen⟩ he
        obtain rfl := Option.some.inj hsome
        exact hkept (hfits he) (hlen he)

theorem answered_updateDevice {nonce : ℕ} {payload : DeviceUpdate}
    (hadm : db.Admitted env.schema) :
    Answered (DeviceService.update env db deviceId nonce payload) ↔
      (BodyCall.updateDevice deviceId nonce payload).Suits env db := by
  have hu := hadm.2.1.2
  have hflush : ∀ device ∈ db.devices,
      Answered (DeviceService.flushUpdate env nonce payload device db >>= fun db' =>
        pure (db', refreshDevice db' device)) ↔ payload.storable env = true := by
    intro device hd
    rw [answered_bind_pure, answered_flushUpdate hadm hd]
  unfold DeviceService.update DeviceService.get
  rw [answered_bind, and_iff_right (answered_requireDevice hu), forall_requireDevice hu]
  simp only [answered_bind (x := DeviceService.ensureUnmanaged db deviceId payload),
    answered_ensureUnmanaged, ensureUnmanaged_eq_ok_iff]
  constructor
  · rintro h ⟨device, hd, hid⟩
    obtain ⟨hone, hgo⟩ := h device hd hid
    refine ⟨hone, ?_⟩
    -- an update that a tunnel stands in the way of ends in a conflict before its commit
    by_cases hmanaged : payload.baseUrl.isSome = true ∧
        ∃ t ∈ db.deviceTunnels, managing deviceId t = true
    · exact Or.inl hmanaged
    · refine Or.inr ((hflush device hd).1 (hgo () fun hb t ht => ?_))
      by_contra hon
      exact hmanaged ⟨hb, t, ht, by simpa using hon⟩
  · intro h device hd hid
    obtain ⟨hone, hroom⟩ := h ⟨device, hd, hid⟩
    refine ⟨hone, fun u hfree => (hflush device hd).2 ?_⟩
    rcases hroom with ⟨hb, t, ht, hon⟩ | hstorable
    · rw [hfree hb t ht] at hon
      exact absurd hon (by decide)
    · exact hstorable

/-- The strings that an `enable` writes fit their columns. -/
theorem fits_writeEnable {nonce : ℕ} {payload : TunnelEnableIn} {port : ℤ} {device : Device}
    {tunnel : Option DeviceTunnel} (hadm : db.Admitted env.schema)
    (he : env.schema.enforceLengths = true) (hd : device ∈ db.devices)
    (hid : device.deviceId = deviceId) (ht : getTunnel db deviceId = .ok tunnel) :
    (writeEnable env deviceId nonce payload port device tunnel db).Fits := by
  have hdb : (db.writeDevice device (syncedDevice env payload port device)).Admitted env.schema :=
    admitted_syncedDevice hadm
  have hfits : (db.writeDevice device (syncedDevice env payload port device)).Fits := hdb.1 he
  have hkey : fitsColumn 128 deviceId = true := by
    rw [← hid]
    exact (hadm.columnsFit he hd).deviceId
  cases tunnel with
  | none => exact hfits.insertTunnel (fits_enabledTunnel (fun _ => hkey) (by simp))
  | some t =>
      obtain ⟨htm, -⟩ := getTunnel_eq_some ht
      refine hfits.writeTunnel hadm.2.2.1.1 htm rfl (fits_enabledTunnel (by simp) fun t' ht' => ?_)
      rw [← Option.some.inj ht']
      exact (hadm.1 he).2.1 t htm

/-- The commit of an `enable` tells a taken port from nothing else. -/
theorem answered_flushEnable {nonce : ℕ} {payload : TunnelEnableIn} {port : ℤ} {device : Device}
    {tunnel : Option DeviceTunnel} (hadm : db.Admitted env.schema) (hd : device ∈ db.devices)
    (hid : device.deviceId = deviceId) (ht : getTunnel db deviceId = .ok tunnel) :
    Answered (flushEnable env deviceId nonce payload port device tunnel db) := by
  have hfits : ¬ (env.schema.enforceLengths = true ∧
      ¬ (writeEnable env deviceId nonce payload port device tunnel db).Fits) :=
    fun h => h.2 (fits_writeEnable hadm h.1 hd hid ht)
  unfold flushEnable commit
  rw [if_neg hfits]
  -- what is left to refuse is a constraint, and the service turns that into a conflict
  split_ifs
  · exact answered_ok _
  · exact answered_conflict _

/-- A call that starts with the lookups of the device and its tunnel, and goes on with no other
errors than those of the API, is answered unless the second one meets several rows. -/
theorem answered_lookups {β : Type} {f : Device → Option DeviceTunnel → Except PyError β}
    (hu : UniqueKey Device.deviceId db.devices)
    (hf : ∀ device ∈ db.devices, device.deviceId = deviceId →
      ∀ tunnel, getTunnel db deviceId = .ok tunnel → Answered (f device tunnel)) :
    Answered (getDevice db deviceId >>= fun device => getTunnel db deviceId >>= f device) ↔
      ((∃ d ∈ db.devices, d.deviceId = deviceId) →
        AtMostOne db fun t => t.deviceId = deviceId) := by
  unfold getDevice
  rw [answered_bind, and_iff_right (answered_requireDevice hu), forall_requireDevice hu]
  constructor
  · rintro h ⟨device, hd, hid⟩
    exact answered_getTunnel.1 (answered_bind.1 (h device hd hid)).1
  · intro h device hd hid
    exact answered_bind.2 ⟨answered_getTunnel.2 (h ⟨device, hd, hid⟩), hf device hd hid⟩

theorem answered_enable {nonce : ℕ} {payload : TunnelEnableIn} (hadm : db.Admitted env.schema) :
    Answered (TunnelService.enable env db deviceId nonce payload) ↔
      (BodyCall.enable deviceId nonce payload).Suits env db := by
  have hguard : ∀ tunnel, Answered (ensureNotEnabled tunnel) := by
    intro tunnel
    unfold ensureNotEnabled
    split_ifs
    · exact answered_conflict _
    · exact answered_ok ()
  have hport : Answered (choosePort env.settings payload.remotePort
      (db.deviceTunnels.map DeviceTunnel.remotePort)) := by
    intro e h
    obtain ⟨message, rfl⟩ := choosePort_eq_error h
    exact ⟨_, rfl⟩
  refine answered_lookups hadm.2.1.2 fun device hd hid tunnel ht => ?_
  refine answered_bind.2 ⟨hguard tunnel, fun _ _ => answered_bind.2 ⟨hport, fun port _ => ?_⟩⟩
  exact answered_bind.2 ⟨answered_flushEnable hadm hd hid ht, fun _ _ => answered_ok _⟩

/-- The lookup of a tunnel that must be there. -/
theorem answered_requireTunnel (hu : UniqueKey Device.deviceId db.devices) :
    Answered (requireTunnel db deviceId) ↔
      ((∃ d ∈ db.devices, d.deviceId = deviceId) →
        AtMostOne db fun t => t.deviceId = deviceId) := by
  refine answered_lookups hu fun _ _ _ tunnel _ => ?_
  cases tunnel with
  | none => exact answered_notFound _
  | some t => exact answered_ok t

/-- The row that `update` leaves fits its columns, as the old one does. -/
theorem fits_updatedTunnel {payload : TunnelUpdateIn} {t : DeviceTunnel} (h : t.fits = true) :
    (updatedTunnel payload t).fits = true := by
  rw [DeviceTunnel.fits_iff] at h ⊢
  refine { h with localIp := ?_ }
  unfold updatedTunnel
  -- only a non-null `local_ip` replaces the one of the row
  cases payload.localIp with
  | none => exact h.localIp
  | some ip =>
      cases ip with
      | none => exact h.localIp
      | some ip => exact decide_eq_true ip.length_le

theorem answered_update {payload : TunnelUpdateIn} (hadm : db.Admitted env.schema) :
    Answered (TunnelService.update env db deviceId payload) ↔
      (BodyCall.update deviceId payload).Suits env db := by
  unfold TunnelService.update
  rw [answered_bind, answered_requireTunnel hadm.2.1.2]
  refine and_iff_left fun t ht => ?_
  obtain ⟨-, htm, -⟩ := requireTunnel_eq_ok ht
  have hwrite : (db.writeTunnel t (updatedTunnel payload t)).Admitted env.schema :=
    hadm.writeTunnel htm rfl rfl rfl fits_updatedTunnel
  exact answered_bind_pure.2 (answered_commit.2 hwrite)

/-- **On a committed store** a call settles exactly if it suits it. -/
theorem settles_iff_suits {c : BodyCall} (hadm : db.Admitted env.schema) :
    c.Settles env db ↔ c.Suits env db := by
  rw [settles_iff]
  cases c with
  | create uuid nonce payload => exact answered_map.trans (answered_create hadm)
  | updateDevice deviceId nonce payload => exact answered_map.trans (answered_updateDevice hadm)
  | enable deviceId nonce payload => exact answered_map.trans (answered_enable hadm)
  | update deviceId payload => exact answered_map.trans (answered_update hadm)

end

/-! ### Every run -/

/-- **After every run, a call that takes a body settles exactly if it suits the store.** -/
theorem bodyCall_settles_iff (env : Env) (ops : List ServerOp) (c : BodyCall) :
    c.Settles env (final (ServerOp.exec env) Store.empty ops) ↔
      c.Suits env (final (ServerOp.exec env) Store.empty ops) :=
  settles_iff_suits (admitted_serverRun env ops)

/-- Run one after the other, or on a unique column, the calls leave every lookup one row at most, so
that the calls on the tunnel service always settle. -/
theorem tunnelCalls_settle (env : Env) (ops : List ServerOp)
    (h : (∀ op ∈ ops, op.IsCall) ∨ env.schema.uniqueTunnelDevice = true) (deviceId : String)
    (nonce : ℕ) (payload : TunnelEnableIn) (changes : TunnelUpdateIn) :
    (BodyCall.enable deviceId nonce payload).Settles env
        (final (ServerOp.exec env) Store.empty ops) ∧
      (BodyCall.update deviceId changes).Settles env
        (final (ServerOp.exec env) Store.empty ops) := by
  have hone : AtMostOne (final (ServerOp.exec env) Store.empty ops)
      fun t => t.deviceId = deviceId := by
    rw [atMostOne_iff, oneOrNone_eq_lookup (oneRow_final env ops h)]
    simp
  have hadm := admitted_serverRun env ops
  exact ⟨(settles_iff_suits hadm).2 fun _ => hone, (settles_iff_suits hadm).2 fun _ => hone⟩

/-- The tables as on PostgreSQL. -/
def lengthSchema : Schema := { ormSchema with enforceLengths := true }

/-- One device, created with the defaults of the body. -/
def oneDeviceRun : List ServerOp := [.tunnel (.create Uuid.nil 0 {})]

/-- The database refuses a null `channel_type`, which the body may carry. -/
theorem null_channel_type_escapes :
    ¬ (BodyCall.updateDevice (generateDeviceId Uuid.nil) 0 { channelType := some none }).Settles
      (plainEnv lengthSchema)
      (final (ServerOp.exec (plainEnv lengthSchema)) Store.empty oneDeviceRun) := by
  have hrun : ((BodyCall.updateDevice (generateDeviceId Uuid.nil) 0
      { channelType := some none }).op.exec (plainEnv lengthSchema)
        (final (ServerOp.exec (plainEnv lengthSchema)) Store.empty oneDeviceRun)).1 =
          .error .integrityError := by
    rfl
  rintro (⟨answer, hok, -⟩ | ⟨e, happ⟩)
  · rw [hrun] at hok
    simp at hok
  · rw [happ] at hrun
    simp at hrun

end SmsForwarder
