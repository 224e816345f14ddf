/-
**What the history of a device says about its `base_url`.**

The operator sets the `base_url` of a device; a tunnel takes it over.  Two questions about the state
a run reaches are answered by the history of the run: which value did the operator set last, and
what did the device have right before its last `enable`?

The second value is always the one that `disable` puts back.  The first is the one the device has
whenever its tunnel is off, unless `disable` was called on a tunnel that was off already: it puts
`previous_base_url` back a second time, over anything the operator set in the meantime.

Main definitions:

* `SmsForwarder.operatorBaseUrl`, `SmsForwarder.lastEnable` — what the history says;
* `SmsForwarder.BaseUrlKept`, `SmsForwarder.DisableGuard` — devices without an enabled tunnel have
  the value of the operator, and the calls that keep it so;
* `SmsForwarder.TunnelInvariant` — the joint invariant of the device and tunnel tables.

Main results:

* `SmsForwarder.along_baseUrlKept_iff` — **a run keeps the values of the operator exactly when all
  its `disable` calls meet the guard**, and `SmsForwarder.disable_twice_loses_base_url` is a run that
  does not;
* `SmsForwarder.tunnelInvariant_final` — the joint invariant holds after every run.
-/

import SmsForwarder.TunnelRuns

set_option relaxedAutoImplicit false
set_option autoImplicit false

namespace SmsForwarder

open Tables Runs TunnelService

/-! ### Histories -/

/-- The value a successful call of the operator gives the `base_url` of the device. -/
def setsBaseUrl (deviceId : String) (c : TunnelCall) : Option (Option String) :=
  match c.op, c.answer with
  | .create uuid _ payload, .ok _ =>
      if generateDeviceId uuid = deviceId then some (payload.baseUrl.map HttpUrl.str) else none
  | .updateDevice id _ payload, .ok _ =>
      if id = deviceId then payload.baseUrl.map (Option.map HttpUrl.str) else none
  | _, _ => none

/-- The value the operator set last. -/
def operatorBaseUrl (deviceId : String) (tr : List TunnelCall) : Option String :=
  (last (setsBaseUrl deviceId) tr).getD none

/-- The store a successful `enable` of the device started from, and its body. -/
def enables (deviceId : String) (c : TunnelCall) : Option (Store × TunnelEnableIn) :=
  match c.op, c.answer with
  | .enable id _ payload, .ok (.tunnel _) =>
      if id = deviceId then some (c.before, payload) else none
  | _, _ => none

/-- The last successful `enable` of the device. -/
def lastEnable (deviceId : String) (tr : List TunnelCall) : Option (Store × TunnelEnableIn) :=
  last (enables deviceId) tr

/-- A call declares the value the move it amounts to declares. -/
theorem operatorBaseUrl_concat (tr : List TunnelCall) (c : TunnelCall) :
    (fun deviceId => operatorBaseUrl deviceId (tr ++ [c])) =
      Leases.declare (fun deviceId => operatorBaseUrl deviceId tr) (move c) := by
  obtain ⟨db, op, answer, db'⟩ := c
  funext d
  simp only [operatorBaseUrl, last_concat]
  cases answer with
  | error e => cases op <;> rfl
  | ok answer =>
      cases op with
      | create uuid nonce payload =>
          by_cases hd : generateDeviceId uuid = d
          · subst hd
            simp [setsBaseUrl, move, Leases.declare]
          · simp [setsBaseUrl, move, Leases.declare, hd, Function.update_of_ne (Ne.symm hd)]
      | updateDevice id nonce payload =>
          cases hp : payload.baseUrl with
          | none => simp [setsBaseUrl, move, Leases.declare, hp]
          | some url =>
              by_cases hd : id = d
              · subst hd
                simp [setsBaseUrl, move, Leases.declare, hp]
              · simp [setsBaseUrl, move, Leases.declare, hp, hd,
                  Function.update_of_ne (Ne.symm hd)]
      | enable id nonce payload => cases answer <;> rfl
      | update | disable | rotateToken | renderFrpcConfig => rfl

/-- The value each device had before its last `enable`, and whether that one replaced it. -/
def takeovers (tr : List TunnelCall) : Leases.Takeovers String (Option String) := fun deviceId =>
  (lastEnable deviceId tr).bind fun e =>
    (view e.1 deviceId).map fun c => (c.value, e.2.syncDeviceBaseUrl)

theorem takeovers_concat (tr : List TunnelCall) (c : TunnelCall) :
    takeovers (tr ++ [c]) = Leases.takeover (view c.before) (takeovers tr) (move c) := by
  obtain ⟨db, op, answer, db'⟩ := c
  funext d
  simp only [takeovers, lastEnable, last_concat]
  cases answer with
  | error e => cases op <;> rfl
  | ok answer =>
      cases op with
      | enable id nonce payload =>
          cases answer with
          | tunnel t =>
              by_cases hd : id = d
              · subst hd
                simp [enables, move, Leases.takeover]
              · simp [enables, move, Leases.takeover, hd, Function.update_of_ne (Ne.symm hd),
                  takeovers, lastEnable]
          | device | token | config => rfl
      | updateDevice id nonce payload =>
          cases hp : payload.baseUrl <;>
            simp [enables, move, Leases.takeover, hp, takeovers, lastEnable]
      | create | update | disable | rotateToken | renderFrpcConfig => rfl

/-! ### The value the operator set last -/

/-- Every device whose tunnel is absent or not enabled has the `base_url` the operator set last. -/
def BaseUrlKept (db : Store) (tr : List TunnelCall) : Prop :=
  ∀ device ∈ db.devices,
    (∀ t ∈ db.deviceTunnels, t.deviceId = device.deviceId → t.enabled = false) →
      device.baseUrl = operatorBaseUrl device.deviceId tr

/-- A `disable` of a device with a tunnel row finds the tunnel enabled, or the value that it puts
back is the one the device has. -/
def DisableGuard (db : Store) : TunnelOp → Prop
  | .disable deviceId => ∀ device ∈ db.devices, ∀ t ∈ db.deviceTunnels,
      device.deviceId = deviceId → t.deviceId = deviceId →
        t.enabled = true ∨ t.previousBaseUrl = device.baseUrl
  | _ => True

section

variable {env : Env} {db : Store}

/-- What the view shows at the key of a device. -/
theorem view_eq_some {deviceId : String} {c : Leases.Cell (Option String) ℤ}
    (hadm : db.Admitted env.schema) (hc : view db deviceId = some c) :
    ∃ device ∈ db.devices, device.deviceId = deviceId ∧ c.value = device.baseUrl ∧
      c.hold = (lookup DeviceTunnel.deviceId deviceId db.deviceTunnels).map holdOf := by
  obtain ⟨device, hdevice, rfl⟩ := Option.map_eq_some_iff.1 hc
  obtain ⟨hmem, hid⟩ := (lookup_eq_some_iff hadm.2.1.2).1 hdevice
  exact ⟨device, hmem, hid, rfl, rfl⟩

theorem baseUrlKept_iff_settled {tr : List TunnelCall} (hadm : db.Admitted env.schema)
    (h : TunnelsSound env db) : BaseUrlKept db tr ↔
      Leases.Settled (view db) fun deviceId => operatorBaseUrl deviceId tr := by
  constructor
  · intro hkept k c hc hfree
    obtain ⟨device, hmem, rfl, hvalue, hhold⟩ := view_eq_some hadm hc
    rw [hvalue]
    exact hkept device hmem ((not_held_iff h hhold).1 hfree)
  · intro hset device hmem hoff
    exact hset _ _ (view_of_mem hadm.2.1.2 hmem) ((not_held_iff h rfl).2 hoff)

/-- Only `disable` amounts to a release. -/
theorem op_of_move_release {c : TunnelCall} {k : String} (hm : move c = .release k) :
    c.op = .disable k := by
  obtain ⟨db, op, answer, db'⟩ := c
  cases answer with
  | error e => cases op <;> simp [move] at hm
  | ok answer =>
      cases op with
      | disable id => simpa [move] using hm
      | updateDevice id nonce payload => cases hp : payload.baseUrl <;> simp [move, hp] at hm
      | enable id nonce payload => cases answer <;> simp [move] at hm
      | create | update | rotateToken | renderFrpcConfig => simp [move] at hm

/-- A `disable` of a device with a tunnel row amounts to a release. -/
theorem move_disable {device : Device} {t : DeviceTunnel} (hadm : db.Admitted env.schema)
    (h : TunnelsSound env db) (hd : device ∈ db.devices) (ht : t ∈ db.deviceTunnels)
    (hid : device.deviceId = t.deviceId) :
    move (call (TunnelOp.exec env) db (.disable t.deviceId)) = .release t.deviceId := by
  obtain ⟨t', hok⟩ := disable_of_mem hadm h.oneRow hd ht hid
  have hrun : (TunnelOp.disable t.deviceId).run env db = .ok (_, .tunnel t') :=
    map_eq_ok.2 ⟨_, hok, rfl⟩
  simp [call, TunnelOp.exec, hrun, attempt, move]

/-- The guard of `disable` is the guard of the move it amounts to. -/
theorem disableGuard_iff {op : TunnelOp} (hadm : db.Admitted env.schema)
    (h : TunnelsSound env db) :
    DisableGuard db op ↔ Leases.Guarded (view db) (move (call (TunnelOp.exec env) db op)) := by
  constructor
  · intro hg
    cases hm : move (call (TunnelOp.exec env) db op) with
    | release k =>
        obtain rfl : op = .disable k := op_of_move_release hm
        intro c hold hc hhold
        obtain ⟨device, hmem, hid, hvalue, hlook⟩ := view_eq_some hadm hc
        obtain ⟨t, ht, rfl⟩ := Option.map_eq_some_iff.1 (hlook.symm.trans hhold)
        obtain ⟨htmem, htid⟩ := (lookup_eq_some_iff h.oneRow).1 ht
        rw [hvalue]
        exact hg device hmem t htmem hid htid
    | create | set | acquire | skip => trivial
  · intro hg
    cases op with
    | disable deviceId =>
        intro device hd t ht hid htid
        subst htid
        -- the call cannot fail, so it is a release and the guard of the move applies
        rw [move_disable hadm h hd ht hid] at hg
        have hcell := view_of_mem hadm.2.1.2 hd
        rw [hid, hold_of_mem h.oneRow ht] at hcell
        exact hg _ (holdOf t) hcell rfl
    | create | updateDevice | enable | update | rotateToken | renderFrpcConfig => trivial

end

/-- **Runs that keep the values of the operator.**  In every state of a run the devices without an
enabled tunnel have the `base_url` their operator set last, exactly when every `disable` of the run
finds an enabled tunnel or the very value it puts back. -/
theorem along_baseUrlKept_iff (env : Env) (ops : List TunnelOp) :
    Along (TunnelOp.exec env) BaseUrlKept Store.empty ops ↔
      ∀ c ∈ trace (TunnelOp.exec env) Store.empty ops, DisableGuard c.before c.op := by
  refine along_iff_forall_call (TunnelOp.exec env)
    (I := fun db tr => (db.Admitted env.schema ∧ TunnelsSound env db) ∧
      Leases.Covered (view db) fun deviceId => operatorBaseUrl deviceId tr) ?_ ?_ ?_ ?_ ops
  · exact ⟨⟨Store.admitted_empty env.schema, tunnelsSound_empty env⟩, fun k c _ hc => by
      simp [view, Store.empty, lookup] at hc⟩
  · intro device hd
    simp [Store.empty] at hd
  · intro db tr op hI hkept
    obtain ⟨⟨hadm, h⟩, hcov⟩ := hI
    obtain ⟨hlegal, hview⟩ := exec_view hadm h
    refine ⟨tunnelsSound_exec env ⟨hadm, h⟩, ?_⟩
    rw [hview, operatorBaseUrl_concat]
    exact Leases.covered_apply hlegal ((baseUrlKept_iff_settled hadm h).1 hkept) hcov
  · intro db tr op hI hkept
    obtain ⟨⟨hadm, h⟩, hcov⟩ := hI
    obtain ⟨hlegal, hview⟩ := exec_view hadm h
    obtain ⟨hadm', h'⟩ := tunnelsSound_exec env ⟨hadm, h⟩
    rw [baseUrlKept_iff_settled hadm' h', hview, operatorBaseUrl_concat, disableGuard_iff hadm h]
    exact Leases.settled_apply_iff hlegal ((baseUrlKept_iff_settled hadm h).1 hkept) hcov

instance (db : Store) (tr : List TunnelCall) : Decidable (BaseUrlKept db tr) :=
  inferInstanceAs (Decidable (∀ device ∈ db.devices, _ → _))

/-- A device is created with one address, its tunnel is switched on and off, the operator sets a
second address, and `disable` is called once more. -/
def disableTwice : List TunnelOp :=
  [.create Uuid.nil 0 { baseUrl := some ⟨"http://192.168.1.100:5000/", by decide⟩ },
    .enable (generateDeviceId Uuid.nil) 0
      { localIp := .default, localPort := .app, remotePort := some .first },
    .disable (generateDeviceId Uuid.nil),
    .updateDevice (generateDeviceId Uuid.nil) 0
      { baseUrl := some (some ⟨"http://192.168.1.200:5000/", by decide⟩) },
    .disable (generateDeviceId Uuid.nil)]

/-- **The second `disable` brings the first address back**, over the one the operator set last. -/
theorem disable_twice_loses_base_url :
    ¬ BaseUrlKept (final (TunnelOp.exec (plainEnv ormSchema)) Store.empty disableTwice)
      (trace (TunnelOp.exec (plainEnv ormSchema)) Store.empty disableTwice) := by
  decide

/-! ### The joint invariant -/

/-- What holds of an enabled tunnel: the device has the address of the tunnel if the last `enable`
was to sync it and its saved address otherwise, and `disable` gives it the address it had right
before that `enable`. -/
def ManagedBy (env : Env) (db : Store) (tr : List TunnelCall) (t : DeviceTunnel) : Prop :=
  ∃ device before payload device₀, requireDevice db t.deviceId = .ok device ∧
    lastEnable t.deviceId tr = some (before, payload) ∧
    requireDevice before t.deviceId = .ok device₀ ∧
    device.baseUrl =
      (if payload.syncDeviceBaseUrl then some t.internalBaseUrl else t.previousBaseUrl) ∧
    ∃ db' t' device', disable env db t.deviceId = .ok (db', t') ∧
      requireDevice db' t.deviceId = .ok device' ∧ device'.baseUrl = device₀.baseUrl

/-- The joint invariant of the device and tunnel tables. -/
structure TunnelInvariant (env : Env) (db : Store) (tr : List TunnelCall) : Prop where
  oneRow : UniqueKey DeviceTunnel.deviceId db.deviceTunnels
  onePort : UniqueKey DeviceTunnel.remotePort db.deviceTunnels
  portAllowed : ∀ t ∈ db.deviceTunnels, env.settings.frpsAllowPortMin ≤ t.remotePort ∧
    t.remotePort ≤ env.settings.frpsAllowPortMax
  addresses : ∀ t ∈ db.deviceTunnels,
    t.internalBaseUrl = internalBaseUrl env.settings t.remotePort ∧
      t.publicBaseUrl = some (publicBaseUrl env.settings t.remotePort)
  status : ∀ t ∈ db.deviceTunnels, t.status = if t.enabled then "active" else "disabled"
  managed : ∀ t ∈ db.deviceTunnels, t.enabled = true → ManagedBy env db tr t

section

variable {env : Env} {db : Store}

/-- Every store a call of a run started from meets the constraints. -/
theorem admitted_lastEnable {tr : List TunnelCall} {deviceId : String} {before : Store}
    {payload : TunnelEnableIn} (htr : ∀ c ∈ tr, c.before.Admitted env.schema)
    (h : lastEnable deviceId tr = some (before, payload)) : before.Admitted env.schema := by
  obtain ⟨c, hc, hen⟩ := List.exists_of_findSome?_eq_some h
  have hbefore : before = c.before := by
    unfold enables at hen
    split at hen
    · split at hen
      · simpa using (congrArg Prod.fst (Option.some.inj hen)).symm
      · simp at hen
    · simp at hen
  rw [hbefore]
  exact htr c (List.mem_reverse.1 hc)

/-- Backed leases say of an enabled tunnel what the invariant asks for. -/
theorem managedBy_of_backed {tr : List TunnelCall} {t : DeviceTunnel}
    (hadm : db.Admitted env.schema) (h : TunnelsSound env db)
    (htr : ∀ c ∈ tr, c.before.Admitted env.schema)
    (hb : Leases.Backed (render env.settings) (view db) (takeovers tr))
    (ht : t ∈ db.deviceTunnels) (hon : t.enabled = true) : ManagedBy env db tr t := by
  obtain ⟨device, hd, hid⟩ := h.owned t ht
  have hcell := view_of_mem hadm.2.1.2 hd
  rw [hid, hold_of_mem h.oneRow ht] at hcell
  obtain ⟨v, sync, hbefore, hsaved, hvalue⟩ := hb _ _ _ hcell rfl
  obtain ⟨⟨before, payload⟩, hlast, hmap⟩ := Option.bind_eq_some_iff.1 hbefore
  obtain ⟨c₀, hc₀, hpair⟩ := Option.map_eq_some_iff.1 hmap
  have hadm₀ := admitted_lastEnable htr hlast
  obtain ⟨device₀, hd₀, hid₀, hvalue₀, -⟩ := view_eq_some hadm₀ hc₀
  obtain ⟨rfl, rfl⟩ := Prod.mk.inj hpair
  obtain ⟨t', hok⟩ := disable_of_mem hadm h.oneRow hd ht hid
  have hdis := disable_eq_ok hok
  refine ⟨device, before, payload, device₀, ?_, hlast, ?_, ?_, _, t', restoredDevice device t,
    hok, ?_, ?_⟩
  · rw [← hid]
    exact requireDevice_of_mem hadm.2.1.2 hd
  · rw [← hid₀]
    exact requireDevice_of_mem hadm₀.2.1.2 hd₀
  · have hshown := hvalue hon
    rw [(h.rows t ht).internalBaseUrl]
    rw [← hsaved] at hshown
    exact hshown
  · obtain ⟨-, -, -, -, -, -, -, hadm'⟩ := hdis
    have hmem : restoredDevice device t ∈
        ((db.writeDevice device (restoredDevice device t)).writeTunnel t
          (disabledTunnel t)).devices := by
      refine (Store.mem_writeDevice hadm.2.1.1 hd ?_).2 (Or.inl rfl)
      rfl
    have hfound := requireDevice_of_mem hadm'.2.1.2 hmem
    rwa [show (restoredDevice device t).deviceId = t.deviceId from hid] at hfound
  · exact hsaved.trans hvalue₀

end

/-- **The joint invariant**: it holds of every state of every run from the empty database. -/
theorem tunnelInvariant_final (env : Env) (ops : List TunnelOp) :
    TunnelInvariant env (final (TunnelOp.exec env) Store.empty ops)
      (trace (TunnelOp.exec env) Store.empty ops) := by
  obtain ⟨⟨hadm, h⟩, htr, hb⟩ := run_induction (TunnelOp.exec env)
    (P := fun db tr => (db.Admitted env.schema ∧ TunnelsSound env db) ∧
      (∀ c ∈ tr, c.before.Admitted env.schema) ∧
      Leases.Backed (render env.settings) (view db) (takeovers tr))
    (by
      refine ⟨⟨Store.admitted_empty env.schema, tunnelsSound_empty env⟩, by simp, ?_⟩
      intro k c hold hc
      simp [view, Store.empty, lookup] at hc)
    (by
      intro db tr op hI
      obtain ⟨⟨hadm, h⟩, htr, hb⟩ := hI
      obtain ⟨hlegal, hview⟩ := exec_view hadm h
      refine ⟨tunnelsSound_exec env ⟨hadm, h⟩, ?_, ?_⟩
      · rw [List.forall_mem_append, List.forall_mem_singleton]
        exact ⟨htr, hadm⟩
      · rw [hview, takeovers_concat]
        exact Leases.backed_apply _ hlegal hb) ops
  exact
    { oneRow := h.oneRow
      onePort := hadm.2.2.1.2.1
      portAllowed := fun t ht => ⟨(h.rows t ht).minPort, (h.rows t ht).maxPort⟩
      addresses := fun t ht => ⟨(h.rows t ht).internalBaseUrl, (h.rows t ht).publicBaseUrl⟩
      status := fun t ht => (h.rows t ht).status
      managed := fun t ht hon => managedBy_of_backed hadm h htr hb ht hon }

end SmsForwarder
