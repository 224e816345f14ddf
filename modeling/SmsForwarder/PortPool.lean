/-
**The pool of remote ports.**

Every tunnel row holds a port of the configured range, enabled or not, and no two rows hold the
same.  An `enable` that names no port takes the least port that no row holds, so a device without a
row gets one exactly when there are fewer rows than ports.

A device with a disabled tunnel holds a port too, and the search counts it as used although it is
the device's own: if the rows hold all ports, the device is refused, and naming its own port in the
request is accepted.

Main definitions:

* `SmsForwarder.poolSize` — the number of ports;
* `SmsForwarder.PortPoolSound` — at most one row per port, and who gets which port;
* `SmsForwarder.ReenableSound` — a device is refused only if other devices hold all ports.

Main results:

* `SmsForwarder.nextRemotePort_eq_ok_iff`, `SmsForwarder.nextRemotePort_eq_error_iff` — what the
  search finds;
* `SmsForwarder.portPoolSound_final` — the pool is sound after every run;
* `SmsForwarder.reenableSound_iff` — **re-enabling is sound exactly when the pool is not full**, and
  `SmsForwarder.full_pool_refuses_reenable` is a run after which it is not;
* `SmsForwarder.reenable_on_own_port` — a request that names the port of the device is accepted.
-/

import SmsForwarder.Gaps
import SmsForwarder.TunnelHistory

set_option relaxedAutoImplicit false
set_option autoImplicit false

namespace SmsForwarder

open Tables Runs TunnelService

/-! ### The search for a port -/

/-- The number of ports of the configured range. -/
def poolSize (s : Settings) : ℤ := max 0 (s.frpsAllowPortMax - s.frpsAllowPortMin + 1)

/-- The ports of the range that no row holds. -/
def FreePorts (s : Settings) (rows : List DeviceTunnel) : Set ℤ :=
  {port | s.frpsAllowPortMin ≤ port ∧ port ≤ s.frpsAllowPortMax ∧ ∀ t ∈ rows, t.remotePort ≠ port}

theorem pairwise_lt_pyRange (lo hi : ℤ) : (pyRange lo hi).Pairwise (· < ·) := by
  unfold pyRange
  rw [List.pairwise_map]
  refine List.pairwise_lt_range.imp fun {i j} hij => ?_
  omega

theorem length_pyRange (lo hi : ℤ) : (pyRange lo hi).length = (hi - lo).toNat := by
  unfold pyRange
  rw [List.length_map, List.length_range]

section

variable {s : Settings} {rows : List DeviceTunnel} {port : ℤ}

theorem mem_allowedPorts :
    port ∈ pyRange s.frpsAllowPortMin (s.frpsAllowPortMax + 1) ↔
      s.frpsAllowPortMin ≤ port ∧ port ≤ s.frpsAllowPortMax := by
  rw [mem_pyRange, Int.lt_add_one_iff]

/-- The search goes through the range and stops at the first gap between the used ports. -/
theorem nextRemotePort_eq_firstGap (s : Settings) (ports : List ℤ) :
    nextRemotePort s ports =
      match Gaps.firstGap (pyRange s.frpsAllowPortMin (s.frpsAllowPortMax + 1))
          (ports.filter fun p => s.frpsAllowPortMin ≤ p ∧ p ≤ s.frpsAllowPortMax) with
      | some port => .ok port
      | none => conflict "no frps remote ports available" := rfl

/-- The gaps between the used ports are the ports that no row holds. -/
theorem gaps_eq_freePorts (s : Settings) (rows : List DeviceTunnel) :
    {p | p ∈ pyRange s.frpsAllowPortMin (s.frpsAllowPortMax + 1) ∧
      p ∉ (rows.map DeviceTunnel.remotePort).filter
        fun p => s.frpsAllowPortMin ≤ p ∧ p ≤ s.frpsAllowPortMax} = FreePorts s rows := by
  ext p
  simp only [FreePorts, Set.mem_ofPred_eq, mem_allowedPorts, List.mem_filter, List.mem_map,
    decide_eq_true_eq, not_and, forall_exists_index, and_imp]
  constructor
  · rintro ⟨⟨hmin, hmax⟩, hfree⟩
    exact ⟨hmin, hmax, fun t ht htp => hfree t ht htp hmin hmax⟩
  · rintro ⟨hmin, hmax, hfree⟩
    exact ⟨⟨hmin, hmax⟩, fun t ht htp => absurd htp (hfree t ht)⟩

/-- The search finds the least port that no row holds. -/
theorem nextRemotePort_eq_ok_iff :
    nextRemotePort s (rows.map DeviceTunnel.remotePort) = .ok port ↔
      IsLeast (FreePorts s rows) port := by
  rw [← gaps_eq_freePorts, ← Gaps.firstGap_eq_some_iff (pairwise_lt_pyRange _ _),
    nextRemotePort_eq_firstGap]
  split
  · rename_i found hfound
    rw [hfound, Except.ok.injEq, Option.some.injEq]
  · rename_i hnone
    rw [hnone]
    simp

/-- The search fails if the rows hold all ports. -/
theorem nextRemotePort_eq_error_iff :
    nextRemotePort s (rows.map DeviceTunnel.remotePort) =
        conflict "no frps remote ports available" ↔ FreePorts s rows = ∅ := by
  rw [← gaps_eq_freePorts, nextRemotePort_eq_firstGap]
  have hnone := Gaps.firstGap_eq_none_iff (pyRange s.frpsAllowPortMin (s.frpsAllowPortMax + 1))
    ((rows.map DeviceTunnel.remotePort).filter
      fun p => s.frpsAllowPortMin ≤ p ∧ p ≤ s.frpsAllowPortMax)
  rw [Set.eq_empty_iff_forall_notMem]
  simp only [Set.mem_ofPred_eq, not_and, not_not]
  rw [← hnone]
  split
  · rename_i found hfound
    rw [hfound]
    simp [conflict]
  · rename_i hfound
    rw [hfound]
    simp

/-- The search has one of the two outcomes. -/
theorem nextRemotePort_cases (s : Settings) (ports : List ℤ) :
    (∃ port, nextRemotePort s ports = .ok port) ∨
      nextRemotePort s ports = conflict "no frps remote ports available" := by
  rw [nextRemotePort_eq_firstGap]
  split
  · exact Or.inl ⟨_, rfl⟩
  · exact Or.inr rfl

/-- A port that was found is in the range, so it is allowed. -/
theorem choosePort_none (s : Settings) (rows : List DeviceTunnel) :
    choosePort s none (rows.map DeviceTunnel.remotePort) =
      nextRemotePort s (rows.map DeviceTunnel.remotePort) := by
  unfold choosePort requestedPort
  rcases nextRemotePort_cases s (rows.map DeviceTunnel.remotePort) with ⟨port, hport⟩ | hport
  · obtain ⟨⟨hmin, hmax, -⟩, -⟩ := nextRemotePort_eq_ok_iff.1 hport
    have hallowed : ensureRemotePortAllowed s port = .ok () :=
      ensureRemotePortAllowed_eq_ok.2 ⟨hmin, hmax⟩
    rw [hport]
    simp [bind, Except.bind, hallowed, pure, Except.pure]
  · rw [hport]
    rfl

end

/-! ### The rows and the ports -/

section

variable {env : Env} {db : Store}

theorem length_allowedPorts (s : Settings) :
    ((pyRange s.frpsAllowPortMin (s.frpsAllowPortMax + 1)).length : ℤ) = poolSize s := by
  rw [length_pyRange]
  unfold poolSize
  omega

theorem remotePort_mem_allowedPorts (h : TunnelsSound env db) :
    ∀ port ∈ db.deviceTunnels.map DeviceTunnel.remotePort,
      port ∈ pyRange env.settings.frpsAllowPortMin (env.settings.frpsAllowPortMax + 1) := by
  intro port hport
  obtain ⟨t, ht, rfl⟩ := List.mem_map.1 hport
  exact mem_allowedPorts.2 ⟨(h.rows t ht).minPort, (h.rows t ht).maxPort⟩

/-- There are at most as many rows as ports. -/
theorem length_le_poolSize (hadm : db.Admitted env.schema) (h : TunnelsSound env db) :
    (db.deviceTunnels.length : ℤ) ≤ poolSize env.settings := by
  have hle := Gaps.length_le hadm.2.2.1.2.1 (remotePort_mem_allowedPorts h)
  rw [List.length_map] at hle
  rw [← length_allowedPorts]
  exact_mod_cast hle

/-- A port is free exactly when there are fewer rows than ports. -/
theorem freePorts_nonempty_iff (hadm : db.Admitted env.schema) (h : TunnelsSound env db) :
    (FreePorts env.settings db.deviceTunnels).Nonempty ↔
      (db.deviceTunnels.length : ℤ) < poolSize env.settings := by
  have hnodup := (pairwise_lt_pyRange env.settings.frpsAllowPortMin
    (env.settings.frpsAllowPortMax + 1)).imp fun {_ _} hlt => ne_of_lt hlt
  have hgap := Gaps.exists_gap_iff hnodup hadm.2.2.1.2.1 (remotePort_mem_allowedPorts h)
  rw [List.length_map] at hgap
  rw [← length_allowedPorts, Nat.cast_lt, ← hgap]
  unfold FreePorts
  simp only [mem_allowedPorts, List.mem_map, not_exists, not_and]
  exact ⟨fun ⟨port, hmin, hmax, hfree⟩ => ⟨port, ⟨hmin, hmax⟩, hfree⟩,
    fun ⟨port, ⟨hmin, hmax⟩, hfree⟩ => ⟨port, hmin, hmax, hfree⟩⟩

/-- What an `enable` does that names no port. -/
theorem enable_any_port {device : Device} {tunnel : Option DeviceTunnel} (nonce : ℕ)
    {payload : TunnelEnableIn} (hadm : db.Admitted env.schema) (hd : device ∈ db.devices)
    (ht : getTunnel db device.deviceId = .ok tunnel)
    (hoff : ∀ t, tunnel = some t → t.enabled = false) (hport : payload.remotePort = none) :
    (∃ r, enable env db device.deviceId nonce payload = .ok r ∧
        IsLeast (FreePorts env.settings db.deviceTunnels) r.2.remotePort) ∨
      (FreePorts env.settings db.deviceTunnels = ∅ ∧
        enable env db device.deviceId nonce payload = conflict "no frps remote ports available") := by
  rcases nextRemotePort_cases env.settings (db.deviceTunnels.map DeviceTunnel.remotePort) with
    ⟨port, hfound⟩ | hnone
  · have hleast := nextRemotePort_eq_ok_iff.1 hfound
    have hchoose : choosePort env.settings payload.remotePort
        (db.deviceTunnels.map DeviceTunnel.remotePort) = .ok port := by
      rw [hport, choosePort_none, hfound]
    obtain ⟨r, hr⟩ : ∃ r, enable env db device.deviceId nonce payload = .ok r :=
      enable_of_port hadm hd ht hoff hchoose fun t ht' _ => hleast.1.2.2 t ht'
    refine Or.inl ⟨r, hr, ?_⟩
    obtain ⟨-, hrow, -⟩ := row_of_enable hadm.2.2.1.1 hr
    obtain rfl : port = r.2.remotePort := Except.ok.inj (hchoose.symm.trans hrow)
    exact hleast
  · refine Or.inr ⟨nextRemotePort_eq_error_iff.1 hnone, ?_⟩
    -- the checks before the search all pass, so its conflict is what the call raises
    have hdevice : getDevice db device.deviceId = .ok device := requireDevice_of_mem hadm.2.1.2 hd
    have hguard : ensureNotEnabled tunnel = .ok () := by
      unfold ensureNotEnabled
      cases tunnel with
      | none => rfl
      | some t => simp [hoff t rfl]
    have hchoose : choosePort env.settings payload.remotePort
        (db.deviceTunnels.map DeviceTunnel.remotePort) =
          conflict "no frps remote ports available" := by
      rw [hport, choosePort_none, hnone]
    unfold enable
    rw [hdevice, ht]
    simp only [bind, Except.bind, hguard, hchoose, conflict]

end

/-! ### Devices without a tunnel -/

/-- **The pool is sound**: there are at most as many rows as ports, and a device without a row gets
a port, the least one that no row holds, exactly when there are fewer rows than ports. -/
structure PortPoolSound (env : Env) (db : Store) : Prop where
  rows : (db.deviceTunnels.length : ℤ) ≤ poolSize env.settings
  succeeds : ∀ device ∈ db.devices, (∀ t ∈ db.deviceTunnels, t.deviceId ≠ device.deviceId) →
    ∀ (nonce : ℕ) (payload : TunnelEnableIn), payload.remotePort = none →
      ((∃ r, enable env db device.deviceId nonce payload = .ok r) ↔
        (db.deviceTunnels.length : ℤ) < poolSize env.settings)
  least : ∀ device ∈ db.devices, (∀ t ∈ db.deviceTunnels, t.deviceId ≠ device.deviceId) →
    ∀ (nonce : ℕ) (payload : TunnelEnableIn), payload.remotePort = none →
      ∀ r, enable env db device.deviceId nonce payload = .ok r →
        IsLeast (FreePorts env.settings db.deviceTunnels) r.2.remotePort

theorem portPoolSound {env : Env} {db : Store} (hadm : db.Admitted env.schema)
    (h : TunnelsSound env db) : PortPoolSound env db := by
  have hcases : ∀ device ∈ db.devices, (∀ t ∈ db.deviceTunnels, t.deviceId ≠ device.deviceId) →
      ∀ (nonce : ℕ) (payload : TunnelEnableIn), payload.remotePort = none → _ :=
    fun device hd hnone nonce payload hport =>
      have ht : getTunnel db device.deviceId = .ok none := by
        rw [getTunnel_eq_lookup h.oneRow, lookup_eq_none_iff.2 hnone]
      enable_any_port nonce hadm hd ht (by simp) hport
  refine ⟨length_le_poolSize hadm h, fun device hd hnone nonce payload hport => ?_,
    fun device hd hnone nonce payload hport r hr => ?_⟩
  · rw [← freePorts_nonempty_iff hadm h]
    rcases hcases device hd hnone nonce payload hport with ⟨r, hr, hleast⟩ | ⟨hfull, hr⟩
    · exact iff_of_true ⟨r, hr⟩ ⟨_, hleast.1⟩
    · refine iff_of_false ?_ (Set.not_nonempty_iff_eq_empty.2 hfull)
      rintro ⟨r, hr'⟩
      simp [hr] at hr'
  · rcases hcases device hd hnone nonce payload hport with ⟨r', hr', hleast⟩ | ⟨-, hr'⟩
    · obtain rfl : r' = r := Except.ok.inj (hr'.symm.trans hr)
      exact hleast
    · simp [hr'] at hr

/-- **The pool of ports is sound after every run**, whatever ports the calls have asked for. -/
theorem portPoolSound_final (env : Env) (ops : List TunnelOp) :
    PortPoolSound env (final (TunnelOp.exec env) Store.empty ops) := by
  obtain ⟨hadm, h⟩ := tunnelsSound_final env ops
  exact portPoolSound hadm h

/-! ### Devices with a disabled tunnel -/

/-- **Re-enabling is sound**: a device that names no port is refused for want of a port only if
other devices hold all ports, and otherwise ends up on a port that no other device holds. -/
structure ReenableSound (env : Env) (db : Store) (deviceId : String) (nonce : ℕ)
    (payload : TunnelEnableIn) : Prop where
  refused : enable env db deviceId nonce payload = conflict "no frps remote ports available" ↔
    ∀ port, env.settings.frpsAllowPortMin ≤ port → port ≤ env.settings.frpsAllowPortMax →
      ∃ t ∈ db.deviceTunnels, t.deviceId ≠ deviceId ∧ t.remotePort = port
  accepted : (¬ ∀ port, env.settings.frpsAllowPortMin ≤ port →
      port ≤ env.settings.frpsAllowPortMax →
        ∃ t ∈ db.deviceTunnels, t.deviceId ≠ deviceId ∧ t.remotePort = port) →
    ∃ r, enable env db deviceId nonce payload = .ok r ∧ r.2 ∈ r.1.deviceTunnels ∧
      r.2.deviceId = deviceId ∧
      ∀ t ∈ r.1.deviceTunnels, t.deviceId ≠ deviceId → t.remotePort ≠ r.2.remotePort

section

variable {env : Env} {db : Store}

/-- No other device holds the port of a row. -/
theorem not_held_by_others {t : DeviceTunnel} (hadm : db.Admitted env.schema)
    (h : TunnelsSound env db) (ht : t ∈ db.deviceTunnels) :
    ¬ ∀ port, env.settings.frpsAllowPortMin ≤ port → port ≤ env.settings.frpsAllowPortMax →
      ∃ t' ∈ db.deviceTunnels, t'.deviceId ≠ t.deviceId ∧ t'.remotePort = port := by
  intro hall
  obtain ⟨t', ht', hne, hport⟩ :=
    hall t.remotePort (h.rows t ht).minPort (h.rows t ht).maxPort
  exact hne (congrArg DeviceTunnel.deviceId (hadm.2.2.1.2.1.eq ht' ht hport))

/-- The row that an `enable` returns has a port of its own. -/
theorem port_of_enable {deviceId : String} {nonce : ℕ} {payload : TunnelEnableIn}
    {r : Store × DeviceTunnel} (hi : UniqueKey DeviceTunnel.id db.deviceTunnels)
    (hr : enable env db deviceId nonce payload = .ok r) :
    r.2 ∈ r.1.deviceTunnels ∧ r.2.deviceId = deviceId ∧
      ∀ t ∈ r.1.deviceTunnels, t.deviceId ≠ deviceId → t.remotePort ≠ r.2.remotePort := by
  obtain ⟨hid, -, hrows⟩ := row_of_enable hi hr
  obtain ⟨-, -, -, -, -, -, -, -, -, hadm, -⟩ := enable_eq_ok hr
  have hmem : r.2 ∈ r.1.deviceTunnels := (hrows r.2).2 (Or.inl rfl)
  refine ⟨hmem, hid, fun t ht hne hport => hne ?_⟩
  rw [hadm.2.2.1.2.1.eq ht hmem hport, hid]

theorem reenableSound_of_mem {device : Device} {t : DeviceTunnel} {nonce : ℕ}
    {payload : TunnelEnableIn} (hadm : db.Admitted env.schema) (h : TunnelsSound env db)
    (hd : device ∈ db.devices) (ht : t ∈ db.deviceTunnels) (hid : t.deviceId = device.deviceId)
    (hoff : t.enabled = false) (hport : payload.remotePort = none) :
    ReenableSound env db device.deviceId nonce payload ↔
      (db.deviceTunnels.length : ℤ) < poolSize env.settings := by
  have hfound : getTunnel db device.deviceId = .ok (some t) := by
    rw [getTunnel_eq_lookup h.oneRow, (lookup_eq_some_iff h.oneRow).2 ⟨ht, hid⟩]
  have hothers := not_held_by_others hadm h ht
  rw [hid] at hothers
  rw [← freePorts_nonempty_iff hadm h]
  rcases enable_any_port nonce hadm hd hfound
      (fun t' ht' => Option.some.inj ht' ▸ hoff) hport with ⟨r, hr, hleast⟩ | ⟨hfull, hr⟩
  · refine iff_of_true ⟨iff_of_false ?_ hothers, fun _ => ⟨r, hr, ?_⟩⟩ ⟨_, hleast.1⟩
    · rw [hr]
      exact fun hc => conflict_ne_ok hc.symm
    · exact port_of_enable hadm.2.2.1.1 hr
  · refine iff_of_false (fun hsound => ?_) (Set.not_nonempty_iff_eq_empty.2 hfull)
    -- the port of the device is free for it, and yet it is refused
    exact hothers (hsound.refused.1 hr)

end

/-- **Re-enabling is sound exactly when the pool is not full**: in a state that a run reaches, a
device with a disabled tunnel that names no port gets one exactly when there are fewer rows than
ports. -/
theorem reenableSound_iff (env : Env) (ops : List TunnelOp) (device : Device) (t : DeviceTunnel)
    (nonce : ℕ) (payload : TunnelEnableIn)
    (hd : device ∈ (final (TunnelOp.exec env) Store.empty ops).devices)
    (ht : t ∈ (final (TunnelOp.exec env) Store.empty ops).deviceTunnels)
    (hid : t.deviceId = device.deviceId) (hoff : t.enabled = false)
    (hport : payload.remotePort = none) :
    ReenableSound env (final (TunnelOp.exec env) Store.empty ops) device.deviceId nonce payload ↔
      ((final (TunnelOp.exec env) Store.empty ops).deviceTunnels.length : ℤ) <
        poolSize env.settings := by
  obtain ⟨hadm, h⟩ := tunnelsSound_final env ops
  exact reenableSound_of_mem hadm h hd ht hid hoff hport

/-- **The port of its own is open to a device that asks for it**, whether the pool is full or not:
only the search counts it as used. -/
theorem reenable_on_own_port (env : Env) (ops : List TunnelOp) (device : Device) (t : DeviceTunnel)
    (nonce : ℕ) (payload : TunnelEnableIn) (port : Port)
    (hd : device ∈ (final (TunnelOp.exec env) Store.empty ops).devices)
    (ht : t ∈ (final (TunnelOp.exec env) Store.empty ops).deviceTunnels)
    (hid : t.deviceId = device.deviceId) (hoff : t.enabled = false)
    (hport : payload.remotePort = some port) (hown : port.val = t.remotePort) :
    ∃ r, enable env (final (TunnelOp.exec env) Store.empty ops) device.deviceId nonce payload =
      .ok r := by
  obtain ⟨hadm, h⟩ := tunnelsSound_final env ops
  have hfound : getTunnel (final (TunnelOp.exec env) Store.empty ops) device.deviceId =
      .ok (some t) := by
    rw [getTunnel_eq_lookup h.oneRow, (lookup_eq_some_iff h.oneRow).2 ⟨ht, hid⟩]
  have hallowed : ensureRemotePortAllowed env.settings port.val = .ok () :=
    ensureRemotePortAllowed_eq_ok.2 (hown ▸ ⟨(h.rows t ht).minPort, (h.rows t ht).maxPort⟩)
  have hchoose : choosePort env.settings payload.remotePort
      ((final (TunnelOp.exec env) Store.empty ops).deviceTunnels.map DeviceTunnel.remotePort) =
        .ok port.val := by
    rw [hport]
    exact bind_eq_ok.2 ⟨_, rfl, bind_eq_ok.2 ⟨_, hallowed, rfl⟩⟩
  -- ports are unique, so the one row with the requested port is the row of the device
  refine enable_of_port hadm hd hfound (fun t' ht' => Option.some.inj ht' ▸ hoff) hchoose
    fun t' ht' hne hsame => hne ?_
  have heq : t' = t := hadm.2.2.1.2.1.eq ht' ht (hsame.trans hown)
  rw [heq, hid]

/-- A range of one port. -/
def onePort : Env :=
  { plainEnv ormSchema with settings := { frpsAllowPortMin := 17000, frpsAllowPortMax := 17000 } }

/-- A request that names no port. -/
def anyPort : TunnelEnableIn := { localIp := .default, localPort := .app, remotePort := none }

/-- The one device is enabled and disabled. -/
def enabledOnce : List TunnelOp :=
  [.create Uuid.nil 0 {}, .enable (generateDeviceId Uuid.nil) 0 anyPort,
    .disable (generateDeviceId Uuid.nil)]

/-- The tunnel of the one device after that. -/
def disabledRow : DeviceTunnel :=
  disabledTunnel { enabledTunnel onePort (generateDeviceId Uuid.nil) 0 anyPort 17000
    (DeviceService.newDevice onePort Uuid.nil 0 {}) none with id := 1 }

theorem onePort_reenableSound :
    ReenableSound onePort (final (TunnelOp.exec onePort) Store.empty enabledOnce)
        (generateDeviceId Uuid.nil) 0 anyPort ↔
      ((final (TunnelOp.exec onePort) Store.empty enabledOnce).deviceTunnels.length : ℤ) <
        poolSize onePort.settings :=
  reenableSound_iff onePort enabledOnce
    { DeviceService.newDevice onePort Uuid.nil 0 {} with id := 1 } disabledRow 0 anyPort
    (by decide) (by decide) rfl rfl rfl

/-- **The device is refused although no other device exists.** -/
theorem full_pool_refuses_reenable :
    ¬ ReenableSound onePort (final (TunnelOp.exec onePort) Store.empty enabledOnce)
      (generateDeviceId Uuid.nil) 0 anyPort := by
  intro hsound
  have hrefused : enable onePort (final (TunnelOp.exec onePort) Store.empty enabledOnce)
      (generateDeviceId Uuid.nil) 0 anyPort = conflict "no frps remote ports available" := rfl
  obtain ⟨t, ht, hne, -⟩ := hsound.refused.1 hrefused 17000 (by decide) (by decide)
  exact hne (by revert t; decide)

end SmsForwarder
