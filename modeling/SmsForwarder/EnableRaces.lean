/-
**Concurrent `enable` requests under the migrated schema.**

The migration creates an index on `device_tunnels.device_id` that is not unique, so nothing but the
lookup at the start of `enable` keeps a second row of a device out.  The lookup and the insertion
are different steps: a request that found no row inserts one however many there are by then.  So a
device without a row gets as many as there are requests that read it before the first of them
commits, and whose port is free when they commit themselves.

Main definitions:

* `SmsForwarder.EnableRequest`, `SmsForwarder.enableStep` — `enable` requests on any devices, and
  their steps;
* `SmsForwarder.LookupsSafe` — every device has at most one tunnel row, so no lookup meets two;
* `SmsForwarder.GetsPort`, `SmsForwarder.Early`, `SmsForwarder.OneEarly` — on a device without a
  row, one request that gets a port reads the tunnel row before the first such request commits;
* `SmsForwarder.EnableInvariant` — what holds in the middle of a schedule.

Main results:

* `SmsForwarder.lookupsSafe_exec_iff` — a turn keeps the lookups safe exactly when an insertion
  finds no row of its device;
* `SmsForwarder.enableInvariant_exec` — every turn keeps the invariant;
* `SmsForwarder.along_lookupsSafe_iff` — **a schedule keeps the lookups safe exactly when no
  device without a row has two early requests**;
* `SmsForwarder.two_enables_insert_two_rows` — a schedule that does not keep them safe.
-/

import SmsForwarder.RequestSteps

set_option relaxedAutoImplicit false
set_option autoImplicit false

namespace SmsForwarder

open Tables Runs TunnelService
open Interleavings (Precedes Turn)

/-! ### The requests -/

/-- An `enable` request. -/
structure EnableRequest where
  deviceId : String
  nonce : ℕ
  payload : TunnelEnableIn

def EnableRequest.toRequest (r : EnableRequest) : Request := ⟨r.deviceId, .enable r.nonce r.payload⟩

variable {ι : Type} (env : Env)

/-- The steps of a family of `enable` requests. -/
def enableStep (req : ι → EnableRequest) (i : ι) : Store → Stage → Store × Stage :=
  (req i).toRequest.step env

/-! ### The property -/

/-- Every device has at most one tunnel row, so that neither `_get_tunnel` nor the lookup of
`DeviceService.update` ever meets two. -/
def LookupsSafe (db : Store) : Prop :=
  UniqueKey DeviceTunnel.deviceId db.deviceTunnels ∧
    (∀ deviceId, getTunnel db deviceId ≠ .error .multipleResultsFound) ∧
    ∀ deviceId payload,
      DeviceService.ensureUnmanaged db deviceId payload ≠ .error .multipleResultsFound

/-- The lookups are safe as soon as the rows are unique. -/
theorem lookupsSafe_iff {db : Store} :
    LookupsSafe db ↔ UniqueKey DeviceTunnel.deviceId db.deviceTunnels := by
  constructor
  · exact fun h => h.1
  · intro hu
    refine ⟨hu, fun deviceId => ?_, fun deviceId payload => ?_⟩
    · rw [getTunnel_eq_lookup hu]
      simp
    · unfold DeviceService.ensureUnmanaged
      split
      · simp
      · split
        · rename_i hmany
          -- the enabled rows of a device are among its rows
          have hone : oneOrNone (fun t => decide (t.deviceId = deviceId)) db.deviceTunnels ≠
              none := by
            rw [oneOrNone_eq_lookup hu]
            simp
          refine absurd hmany (oneOrNone_ne_none_of_imp (fun t ht => ?_) hone)
          rw [Bool.and_eq_true] at ht
          exact ht.1
        · simp [conflict]
        · simp

/-! ### The condition on the schedule -/

section

variable [DecidableEq ι] (req : ι → EnableRequest) (db : Store)

/-- What there is after the turns of a schedule. -/
def enableAll (sched : List ι) : Interleavings.Config Store ι Stage :=
  final (Interleavings.exec (enableStep env req)) (db, fun _ => .start) sched

/-- The ports in use after the turns of a schedule. -/
def portsAfter (sched : List ι) : List ℤ :=
  (enableAll env req db sched).1.deviceTunnels.map DeviceTunnel.remotePort

/-- There is a port for the request at its third turn, and no row holds it at its fourth one. -/
def GetsPort (sched : List ι) (i : ι) : Prop :=
  ∃ reading committing port, Turn sched i 2 reading ∧ Turn sched i 3 committing ∧
    choosePort env.settings (req i).payload.remotePort (portsAfter env req db reading) = .ok port ∧
      port ∉ portsAfter env req db committing

/-- The request gets a port, and it reads the tunnel row, at its second turn, before any request
on its device that gets a port commits, at its fourth turn. -/
def Early (sched : List ι) (i : ι) : Prop :=
  GetsPort env req db sched i ∧
    ∀ k, (req k).deviceId = (req i).deviceId → GetsPort env req db sched k → Precedes sched i 2 k 4

/-- On a device without a tunnel row at most one request is early. -/
def OneEarly (sched : List ι) : Prop :=
  ∀ device ∈ db.devices, (∀ t ∈ db.deviceTunnels, t.deviceId ≠ device.deviceId) →
    ∀ i j, (req i).deviceId = device.deviceId → (req j).deviceId = device.deviceId →
      Early env req db sched i → Early env req db sched j → i = j

/-! ### In the middle of a schedule -/

/-- A row of the device of the request was there when it read the tunnel row. -/
def Overtaken (sched : List ι) (i : ι) : Prop :=
  (req i).deviceId ∈ db.deviceTunnels.map DeviceTunnel.deviceId ∨
    ∃ k, (req k).deviceId = (req i).deviceId ∧ GetsPort env req db sched k ∧
      ¬ Precedes sched i 2 k 4

/-- The reasons that end a request before its commit: there is no device, there is a row, there is
no port. -/
def Refused (sched : List ι) (i : ι) : Prop :=
  (req i).deviceId ∉ db.devices.map Device.deviceId ∨
    (2 ≤ sched.count i ∧ Overtaken env req db sched i) ∨
    ∃ reading e, Turn sched i 2 reading ∧
      choosePort env.settings (req i).payload.remotePort (portsAfter env req db reading) = .error e

/-- What a request knows at each stage. -/
def EnableSound (sched : List ι) (i : ι) : Stage → Prop
  | .start => sched.count i = 0
  | .device _ => sched.count i = 1 ∧ (req i).deviceId ∈ db.devices.map Device.deviceId
  | .rows _ payload _ t =>
      sched.count i = 2 ∧ (req i).deviceId ∈ db.devices.map Device.deviceId ∧
        payload = (req i).payload ∧ (t = none ↔ ¬ Overtaken env req db sched i)
  | .commit (.enable _ _ _ t port) =>
      sched.count i = 3 ∧ (req i).deviceId ∈ db.devices.map Device.deviceId ∧
        (t = none ↔ ¬ Overtaken env req db sched i) ∧
        ∃ reading, Turn sched i 2 reading ∧ choosePort env.settings (req i).payload.remotePort
          (portsAfter env req db reading) = .ok port
  | .commit _ => False
  | .done _ => Refused env req db sched i ∨ 4 ≤ sched.count i

/-- What holds after the turns of a schedule. -/
structure EnableInvariant (sched : List ι) (c : Interleavings.Config Store ι Stage) : Prop where
  admitted : c.1.Admitted env.schema
  devices : c.1.devices.map Device.deviceId = db.devices.map Device.deviceId
  stages : ∀ i, EnableSound env req db sched i (c.2 i)
  rows_iff : ∀ deviceId ∈ db.devices.map Device.deviceId,
    (deviceId ∈ c.1.deviceTunnels.map DeviceTunnel.deviceId ↔
      deviceId ∈ db.deviceTunnels.map DeviceTunnel.deviceId ∨
        ∃ k, (req k).deviceId = deviceId ∧ GetsPort env req db sched k)
  early : ∀ k, GetsPort env req db sched k →
    ∃ j, (req j).deviceId = (req k).deviceId ∧ Early env req db sched j

end

/-! ### The tables after a turn -/

/-- The turn inserts a row: the session found none, and the port is free. -/
def Inserts (c : Interleavings.Config Store ι Stage) (i : ι) : Prop :=
  ∃ nonce payload d port, c.2 i = .commit (.enable nonce payload d none port) ∧
    port ∉ c.1.deviceTunnels.map DeviceTunnel.remotePort

section

variable {env} {db : Store} {req : ι → EnableRequest}

theorem map_deviceId_writeEnable {deviceId : String} {nonce : ℕ} {payload : TunnelEnableIn}
    {port : ℤ} {d : Device} {t : Option DeviceTunnel} :
    (writeEnable env deviceId nonce payload port d t db).devices.map Device.deviceId =
      db.devices.map Device.deviceId := by
  have hkept : (db.writeDevice d (syncedDevice env payload port d)).devices.map Device.deviceId =
      db.devices.map Device.deviceId := by
    refine map_updateKey fun cur _ _ => ?_
    simp [Device.merge, syncedDevice_keys.2]
  unfold writeEnable
  cases t with
  | none => exact hkept
  | some t => exact hkept

/-- **The commit of an `enable`**: it adds one row of the device if the session found none and the
port is free, and no row otherwise. -/
theorem committed_flushEnable {deviceId : String} {nonce : ℕ} {payload : TunnelEnableIn}
    {port : ℤ} {d : Device} {t : Option DeviceTunnel} {db' : Store}
    (hschema : env.schema.uniqueTunnelDevice = false) (hadm : db.Admitted env.schema)
    (hfits : env.schema.enforceLengths = true → fitsColumn 128 deviceId = true)
    (h : db' = (Stage.committed (flushEnable env deviceId nonce payload port d t db) db).1) :
    db'.Admitted env.schema ∧
      db'.devices.map Device.deviceId = db.devices.map Device.deviceId ∧
      (t = none → port ∉ db.deviceTunnels.map DeviceTunnel.remotePort →
        db'.deviceTunnels.map DeviceTunnel.deviceId =
          db.deviceTunnels.map DeviceTunnel.deviceId ++ [deviceId]) ∧
      (¬ (t = none ∧ port ∉ db.deviceTunnels.map DeviceTunnel.remotePort) →
        db'.deviceTunnels.map DeviceTunnel.deviceId =
          db.deviceTunnels.map DeviceTunnel.deviceId) := by
  subst h
  cases hf : flushEnable env deviceId nonce payload port d t db with
  | error e =>
      refine ⟨hadm, rfl, fun ht hfree => ?_, fun _ => rfl⟩
      -- on a free port the insertion meets every constraint
      subst ht
      have hdb : (db.writeDevice d (syncedDevice env payload port d)).Admitted env.schema :=
        admitted_syncedDevice hadm
      have hport : ∀ t ∈ db.deviceTunnels, t.remotePort ≠ port := by
        intro t ht heq
        exact hfree (heq ▸ List.mem_map_of_mem ht)
      have hadm' : (writeEnable env deviceId nonce payload port d none db).Admitted env.schema := by
        refine hdb.insertTunnel (fun he => fits_enabledTunnel (fun _ => hfits he) (by simp)) hport
          fun hs => ?_
        rw [hschema] at hs
        simp at hs
      unfold flushEnable at hf
      rw [commit_eq_ok.2 ⟨rfl, hadm'⟩] at hf
      simp at hf
  | ok db' =>
      obtain ⟨rfl, hadm'⟩ := commit_flushEnable hf
      refine ⟨hadm', map_deviceId_writeEnable, fun ht _ => ?_, fun hnot => ?_⟩
      · subst ht
        exact List.map_append
      · cases t with
        | none =>
            -- `remote_port` is unique, so the port was free
            refine absurd ⟨rfl, fun hmem => ?_⟩ hnot
            obtain ⟨t, ht, hport⟩ := List.mem_map.1 hmem
            exact (uniqueKey_concat.1 hadm'.2.2.1.2.1).2 t ht hport
        | some t => exact map_updateKey fun cur _ _ => mergeColumn_unchanged _ _

variable [DecidableEq ι]

/-- **The tables after a turn**: it keeps the devices, and it adds one row of the device of the
request if it inserts, and no row otherwise. -/
theorem exec_tables {c : Interleavings.Config Store ι Stage} {i : ι}
    (hschema : env.schema.uniqueTunnelDevice = false) (hadm : c.1.Admitted env.schema)
    (hstage : ∀ flush, c.2 i = .commit flush →
      (env.schema.enforceLengths = true → fitsColumn 128 (req i).deviceId = true) ∧
        ∃ nonce payload d t port, flush = .enable nonce payload d t port) :
    let db' := (Interleavings.exec (enableStep env req) c i).2.1
    db'.Admitted env.schema ∧
      db'.devices.map Device.deviceId = c.1.devices.map Device.deviceId ∧
      (Inserts c i → db'.deviceTunnels.map DeviceTunnel.deviceId =
        c.1.deviceTunnels.map DeviceTunnel.deviceId ++ [(req i).deviceId]) ∧
      (¬ Inserts c i → db'.deviceTunnels.map DeviceTunnel.deviceId =
        c.1.deviceTunnels.map DeviceTunnel.deviceId) := by
  intro db'
  have hdb' : db' = (enableStep env req i c.1 (c.2 i)).1 := rfl
  unfold enableStep EnableRequest.toRequest Request.step at hdb'
  cases hst : c.2 i with
  | commit flush =>
      rw [hst] at hdb'
      obtain ⟨hfits, nonce, payload, d, t, port, rfl⟩ := hstage flush hst
      obtain ⟨hadm', hdevices, hadded, hkept⟩ := committed_flushEnable hschema hadm hfits hdb'
      refine ⟨hadm', hdevices, fun hins => ?_, fun hnot => hkept fun hnone => hnot ?_⟩
      · obtain ⟨nonce', payload', d', port', hst', hfree⟩ := hins
        rw [hst] at hst'
        cases hst'
        exact hadded rfl hfree
      · obtain ⟨rfl, hfree⟩ := hnone
        exact ⟨nonce, payload, d, port, hst, hfree⟩
  | start | device | rows | done =>
      rw [hst] at hdb'
      have hkept : db' = c.1 := hdb'
      rw [hkept]
      refine ⟨hadm, rfl, fun hins => ?_, fun _ => rfl⟩
      obtain ⟨nonce, payload, d, port, hst', -⟩ := hins
      simp [hst] at hst'

end

/-! ### The condition after one more turn -/

section

variable [DecidableEq ι] {env} {req : ι → EnableRequest} {db : Store} {sched : List ι} {i : ι}

theorem GetsPort.le_count {k : ι} (h : GetsPort env req db sched k) : 4 ≤ sched.count k := by
  obtain ⟨reading, committing, port, -, hcommit, -⟩ := h
  exact hcommit.lt_count

/-- A request gets its port in its fourth turn. -/
theorem getsPort_concat {k : ι} :
    GetsPort env req db (sched ++ [i]) k ↔ GetsPort env req db sched k ∨
      i = k ∧ sched.count k = 3 ∧ ∃ reading port, Turn sched k 2 reading ∧
        choosePort env.settings (req k).payload.remotePort (portsAfter env req db reading) =
          .ok port ∧ port ∉ portsAfter env req db sched := by
  constructor
  · rintro ⟨reading, committing, port, hread, hcommit, hport, hfree⟩
    rcases Interleavings.turn_concat.1 hcommit with hcommit | ⟨rfl, rfl, hcount⟩
    · refine Or.inl ⟨reading, committing, port, ?_, hcommit, hport, hfree⟩
      refine (Interleavings.turn_concat.1 hread).resolve_right fun h => ?_
      have hlt := hcommit.lt_count
      omega
    · refine Or.inr ⟨rfl, hcount, reading, port, ?_, hport, hfree⟩
      exact (Interleavings.turn_concat.1 hread).resolve_right fun h => by omega
  · rintro (⟨reading, committing, port, hread, hcommit, h⟩ | ⟨rfl, hcount, reading, port, hread, h⟩)
    · exact ⟨reading, committing, port, Interleavings.turn_concat.2 (Or.inl hread),
        Interleavings.turn_concat.2 (Or.inl hcommit), h⟩
    · exact ⟨reading, sched, port, Interleavings.turn_concat.2 (Or.inl hread),
        Interleavings.turn_concat.2 (Or.inr ⟨rfl, rfl, hcount⟩), h⟩

theorem getsPort_concat_of_ne (h : sched.count i ≠ 3) (k : ι) :
    GetsPort env req db (sched ++ [i]) k ↔ GetsPort env req db sched k := by
  rw [getsPort_concat]
  refine or_iff_left fun hnew => ?_
  obtain ⟨rfl, hcount, -⟩ := hnew
  exact h hcount

/-- Once a request has read the tunnel row, the requests that get a port later come later. -/
theorem forall_precedes_concat {k : ι} (h : 2 ≤ sched.count k) :
    (∀ j, (req j).deviceId = (req k).deviceId → GetsPort env req db (sched ++ [i]) j →
        Precedes (sched ++ [i]) k 2 j 4) ↔
      ∀ j, (req j).deviceId = (req k).deviceId → GetsPort env req db sched j →
        Precedes sched k 2 j 4 := by
  refine forall_congr' fun j => imp_congr_right fun _ => ?_
  rw [getsPort_concat]
  constructor
  · intro hall hj
    exact (Interleavings.precedes_concat_of_le hj.le_count).1 (hall (Or.inl hj))
  · rintro hall (hj | ⟨-, hcount, -⟩)
    · exact (Interleavings.precedes_concat_of_le hj.le_count).2 (hall hj)
    · exact Interleavings.precedes_concat h (by omega) i

/-- Once a request has read the tunnel row, it is settled whether a row was there. -/
theorem overtaken_concat {k : ι} (h : 2 ≤ sched.count k) :
    Overtaken env req db (sched ++ [i]) k ↔ Overtaken env req db sched k := by
  have hall := @forall_precedes_concat ι env _ req db sched i k h
  unfold Overtaken
  refine or_congr_right ?_
  rw [← not_iff_not]
  push Not
  exact hall

/-- Before it reads, a row is there if the device had one or a request has got a port. -/
theorem overtaken_of_lt {k : ι} (h : sched.count k < 2) :
    Overtaken env req db sched k ↔
      (req k).deviceId ∈ db.deviceTunnels.map DeviceTunnel.deviceId ∨
        ∃ j, (req j).deviceId = (req k).deviceId ∧ GetsPort env req db sched j := by
  unfold Overtaken
  refine or_congr_right (exists_congr fun j => and_congr_right fun _ => ?_)
  exact and_iff_left (Interleavings.not_precedes h)

/-- The turn in which a request reads the tunnel row. -/
theorem overtaken_read (h : sched.count i = 1) :
    Overtaken env req db (sched ++ [i]) i ↔ Overtaken env req db sched i := by
  unfold Overtaken
  refine or_congr_right (exists_congr fun j => and_congr_right fun _ => ?_)
  rw [getsPort_concat_of_ne (by omega)]
  refine and_congr_right fun hj => not_congr ?_
  exact Interleavings.precedes_concat_of_le hj.le_count

/-- An early request stays early. -/
theorem Early.concat {k : ι} (h : Early env req db sched k) (i : ι) :
    Early env req db (sched ++ [i]) k := by
  have hcount := h.1.le_count
  exact ⟨getsPort_concat.2 (Or.inl h.1), (forall_precedes_concat (by omega)).2 h.2⟩

/-- A request that gets a port now is early if no row was there when it read. -/
theorem early_of_not_overtaken (hport : GetsPort env req db sched i)
    (h : ¬ Overtaken env req db sched i) : Early env req db sched i := by
  refine ⟨hport, fun k hk hkport => ?_⟩
  by_contra hnot
  exact h (Or.inr ⟨k, hk, hkport, hnot⟩)

theorem Early.not_overtaken (h : Early env req db sched i)
    (hnone : (req i).deviceId ∉ db.deviceTunnels.map DeviceTunnel.deviceId) :
    ¬ Overtaken env req db sched i := by
  rintro (hrow | ⟨k, hk, hport, hnot⟩)
  · exact hnone hrow
  · exact hnot (h.2 k hk hport)

/-- Two early requests of a schedule are two of every longer one. -/
theorem OneEarly.of_concat (h : OneEarly env req db (sched ++ [i])) : OneEarly env req db sched :=
  fun device hdevice hnone k j hk hj hearly hearly' =>
    h device hdevice hnone k j hk hj (hearly.concat i) (hearly'.concat i)

theorem oneEarly_nil : OneEarly env req db [] := by
  intro device _ _ k j _ _ hk _
  exact absurd hk.1.le_count (by simp)

/-- A reason to refuse a request stays one. -/
theorem Refused.concat {k : ι} (h : Refused env req db sched k) (i : ι) :
    Refused env req db (sched ++ [i]) k := by
  rcases h with hnone | ⟨hcount, hover⟩ | ⟨reading, e, hread, hport⟩
  · exact Or.inl hnone
  · refine Or.inr (Or.inl ⟨?_, (overtaken_concat hcount).2 hover⟩)
    rw [List.count_append]
    omega
  · exact Or.inr (Or.inr ⟨reading, e, Interleavings.turn_concat.2 (Or.inl hread), hport⟩)

end

/-! ### One turn -/

section

variable [DecidableEq ι] {env} {req : ι → EnableRequest} {db : Store} {sched : List ι} {i : ι}
  {c : Interleavings.Config Store ι Stage}

theorem enableAll_concat (sched : List ι) (i : ι) :
    enableAll env req db (sched ++ [i]) =
      (Interleavings.exec (enableStep env req) (enableAll env req db sched) i).2 :=
  final_concat _ _ _ _

/-- What a request knows survives a turn of another one. -/
theorem EnableSound.of_ne {k : ι} {stage : Stage} (hk : k ≠ i)
    (h : EnableSound env req db sched k stage) :
    EnableSound env req db (sched ++ [i]) k stage := by
  have hcount : (sched ++ [i]).count k = sched.count k := by
    rw [Interleavings.count_concat, if_neg (Ne.symm hk), Nat.add_zero]
  have hover : 2 ≤ sched.count k →
      (Overtaken env req db (sched ++ [i]) k ↔ Overtaken env req db sched k) := overtaken_concat
  cases stage with
  | start => exact hcount.trans h
  | device d => exact ⟨hcount.trans h.1, h.2⟩
  | rows nonce payload d t =>
      obtain ⟨hc, hknown, hpayload, ht⟩ := h
      exact ⟨hcount.trans hc, hknown, hpayload, ht.trans (not_congr (hover (by omega))).symm⟩
  | commit flush =>
      cases flush with
      | enable nonce payload d t port =>
          obtain ⟨hc, hknown, ht, reading, hread, hport⟩ := h
          exact ⟨hcount.trans hc, hknown, ht.trans (not_congr (hover (by omega))).symm, reading,
            Interleavings.turn_concat.2 (Or.inl hread), hport⟩
      | disable | update => exact absurd h id
  | done outcome =>
      rcases h with hrefused | hc
      · exact Or.inl (hrefused.concat i)
      · exact Or.inr (by rw [hcount]; exact hc)

/-- The lookup of the device finds it if the device was there at the start. -/
theorem enableSound_device (h : EnableInvariant env req db sched c) (hcount : sched.count i = 0) :
    EnableSound env req db (sched ++ [i]) i
      (.after (getDevice c.1 (req i).deviceId) .device) := by
  cases hd : getDevice c.1 (req i).deviceId with
  | ok d =>
      obtain ⟨hmem, hid⟩ := requireDevice_eq_ok hd
      refine ⟨by rw [Interleavings.count_concat, if_pos rfl, hcount], ?_⟩
      rw [← h.devices, ← hid]
      exact List.mem_map_of_mem hmem
  | error e =>
      refine Or.inl (Or.inl fun hknown => ?_)
      rw [← h.devices] at hknown
      obtain ⟨d, hmem, hid⟩ := List.mem_map.1 hknown
      have hok := requireDevice_of_mem h.admitted.2.1.2 hmem
      rw [hid] at hok
      unfold getDevice at hd
      rw [hok] at hd
      simp at hd

/-- The lookup of the tunnel row finds none exactly if none was there. -/
theorem enableSound_rows {nonce : ℕ} {d : Device} (h : EnableInvariant env req db sched c)
    (hcount : sched.count i = 1) (hknown : (req i).deviceId ∈ db.devices.map Device.deviceId) :
    EnableSound env req db (sched ++ [i]) i
      (.after (readDisabled c.1 (req i).deviceId) (.rows nonce (req i).payload d)) := by
  have hcount' : (sched ++ [i]).count i = 2 := by
    rw [Interleavings.count_concat, if_pos rfl, hcount]
  have hover : Overtaken env req db (sched ++ [i]) i ↔
      (req i).deviceId ∈ c.1.deviceTunnels.map DeviceTunnel.deviceId := by
    rw [overtaken_read hcount, overtaken_of_lt (by omega), h.rows_iff _ hknown]
  cases hr : readDisabled c.1 (req i).deviceId with
  | ok t =>
      refine ⟨hcount', hknown, rfl, ?_⟩
      obtain ⟨found, hfound, hrest⟩ := bind_eq_ok.1 hr
      obtain ⟨-, -, hrest⟩ := bind_eq_ok.1 hrest
      obtain rfl : found = t := by simpa [pure, Except.pure] using hrest
      rw [hover]
      cases found with
      | none =>
          refine iff_of_true rfl fun hmem => ?_
          obtain ⟨t, ht, hid⟩ := List.mem_map.1 hmem
          exact getTunnel_eq_none hfound t ht hid
      | some t =>
          obtain ⟨ht, hid⟩ := getTunnel_eq_some hfound
          refine iff_of_false (by simp) (not_not.2 ?_)
          rw [← hid]
          exact List.mem_map_of_mem ht
  | error e =>
      refine Or.inl (Or.inr (Or.inl ⟨hcount'.ge, ?_⟩))
      rw [hover]
      by_contra hnone
      -- without a row the lookup finds nothing, and nothing is not enabled
      have hfound : getTunnel c.1 (req i).deviceId = .ok none := by
        rw [getTunnel_eq_ok, oneOrNone_eq_none_row]
        intro t ht
        refine decide_eq_false fun hid => hnone ?_
        rw [← hid]
        exact List.mem_map_of_mem ht
      unfold readDisabled at hr
      rw [hfound] at hr
      simp [bind, Except.bind, ensureNotEnabled, pure, Except.pure] at hr

/-- The choice of a port. -/
theorem enableSound_port {nonce : ℕ} {d : Device} {t : Option DeviceTunnel}
    (hc : c = enableAll env req db sched) (hcount : sched.count i = 2)
    (hknown : (req i).deviceId ∈ db.devices.map Device.deviceId)
    (ht : t = none ↔ ¬ Overtaken env req db sched i) :
    EnableSound env req db (sched ++ [i]) i
      (.after (choosePort env.settings (req i).payload.remotePort
        (c.1.deviceTunnels.map DeviceTunnel.remotePort))
          fun port => .commit (.enable nonce (req i).payload d t port)) := by
  subst hc
  have hturn : Turn (sched ++ [i]) i 2 sched :=
    Interleavings.turn_concat.2 (Or.inr ⟨rfl, rfl, hcount⟩)
  cases hp : choosePort env.settings (req i).payload.remotePort
      ((enableAll env req db sched).1.deviceTunnels.map DeviceTunnel.remotePort) with
  | ok port =>
      refine ⟨by rw [Interleavings.count_concat, if_pos rfl, hcount], hknown, ?_, sched, hturn, hp⟩
      exact ht.trans (not_congr (overtaken_concat hcount.ge)).symm
  | error e => exact Or.inl (Or.inr (Or.inr ⟨sched, e, hturn, hp⟩))

/-- **What a request knows**, after its own turn and after those of the others. -/
theorem enableSound_exec (h : EnableInvariant env req db sched c)
    (hc : c = enableAll env req db sched) (k : ι) :
    EnableSound env req db (sched ++ [i]) k
      ((Interleavings.exec (enableStep env req) c i).2.2 k) := by
  by_cases hk : k = i
  · subst hk
    rw [Interleavings.exec_self]
    have hold := h.stages k
    unfold enableStep EnableRequest.toRequest Request.step
    cases hst : c.2 k with
    | start =>
        rw [hst] at hold
        exact enableSound_device h hold
    | device d =>
        rw [hst] at hold
        exact enableSound_rows h hold.1 hold.2
    | rows nonce payload d t =>
        rw [hst] at hold
        obtain ⟨hcount, hknown, rfl, ht⟩ := hold
        exact enableSound_port hc hcount hknown ht
    | commit flush =>
        rw [hst] at hold
        have hcount : 4 ≤ (sched ++ [k]).count k := by
          rw [Interleavings.count_concat, if_pos rfl]
          cases flush with
          | enable nonce payload d t port => exact Nat.succ_le_succ hold.1.ge
          | disable | update => exact absurd hold id
        simp only [Stage.committed]
        split
        · exact Or.inr hcount
        · exact Or.inr hcount
    | done outcome =>
        rw [hst] at hold
        rcases hold with hrefused | hcount
        · exact Or.inl (hrefused.concat k)
        · refine Or.inr (hcount.trans ?_)
          rw [List.count_append]
          omega
  · rw [Interleavings.exec_of_ne _ hk]
    exact (h.stages k).of_ne hk

/-- **The turn inserts a row** exactly if it is the one in which a request gets its port, the
device is there and its tunnel row was not there. -/
theorem inserts_iff (h : EnableInvariant env req db sched c) (hc : c = enableAll env req db sched) :
    Inserts c i ↔ sched.count i = 3 ∧ GetsPort env req db (sched ++ [i]) i ∧
      (req i).deviceId ∈ db.devices.map Device.deviceId ∧ ¬ Overtaken env req db sched i := by
  have hsound := h.stages i
  constructor
  · rintro ⟨nonce, payload, d, port, hst, hfree⟩
    rw [hst] at hsound
    obtain ⟨hcount, hknown, hnone, reading, hread, hport⟩ := hsound
    rw [hc] at hfree
    exact ⟨hcount, getsPort_concat.2 (Or.inr ⟨rfl, hcount, reading, port, hread, hport, hfree⟩),
      hknown, hnone.1 rfl⟩
  · rintro ⟨hcount, hgets, hknown, hnot⟩
    obtain ⟨-, -, reading, port, hread, hport, hfree⟩ :=
      (getsPort_concat.1 hgets).resolve_left fun hold => by
        have hle := hold.le_count
        omega
    cases hst : c.2 i with
    | start | device | rows =>
        rw [hst] at hsound
        simp only [EnableSound] at hsound
        omega
    | commit flush =>
        rw [hst] at hsound
        cases flush with
        | enable nonce payload d t port' =>
            obtain ⟨-, -, hnone, reading', hread', hport'⟩ := hsound
            obtain rfl := hread.unique hread'
            obtain rfl : port = port' := Except.ok.inj (hport.symm.trans hport')
            obtain rfl := hnone.2 hnot
            refine ⟨nonce, payload, d, port, hst, ?_⟩
            rw [hc]
            exact hfree
        | disable | update => exact absurd hsound id
    | done outcome =>
        rw [hst] at hsound
        rcases hsound with (hunknown | ⟨-, hover⟩ | ⟨reading', e, hread', hport'⟩) | hlater
        · exact absurd hknown hunknown
        · exact absurd hover hnot
        · obtain rfl := hread.unique hread'
          rw [hport] at hport'
          simp at hport'
        · omega

/-- The rows of a device after a turn. -/
theorem EnableInvariant.rows_iff_concat (h : EnableInvariant env req db sched c)
    (hc : c = enableAll env req db sched) {rows : List String}
    (hadded : Inserts c i →
      rows = c.1.deviceTunnels.map DeviceTunnel.deviceId ++ [(req i).deviceId])
    (hkept : ¬ Inserts c i → rows = c.1.deviceTunnels.map DeviceTunnel.deviceId)
    {deviceId : String} (hknown : deviceId ∈ db.devices.map Device.deviceId) :
    deviceId ∈ rows ↔ deviceId ∈ db.deviceTunnels.map DeviceTunnel.deviceId ∨
      ∃ k, (req k).deviceId = deviceId ∧ GetsPort env req db (sched ++ [i]) k := by
  have hold := h.rows_iff deviceId hknown
  by_cases hins : Inserts c i
  · obtain ⟨-, hgets, -, -⟩ := (inserts_iff h hc).1 hins
    rw [hadded hins, List.mem_append, List.mem_singleton, hold]
    constructor
    · rintro ((hrow | ⟨k, hk, hport⟩) | rfl)
      · exact Or.inl hrow
      · exact Or.inr ⟨k, hk, getsPort_concat.2 (Or.inl hport)⟩
      · exact Or.inr ⟨i, rfl, hgets⟩
    · rintro (hrow | ⟨k, hk, hport⟩)
      · exact Or.inl (Or.inl hrow)
      · rcases getsPort_concat.1 hport with hport | ⟨rfl, -⟩
        · exact Or.inl (Or.inr ⟨k, hk, hport⟩)
        · exact Or.inr hk.symm
  · rw [hkept hins, hold]
    constructor
    · rintro (hrow | ⟨k, hk, hport⟩)
      · exact Or.inl hrow
      · exact Or.inr ⟨k, hk, getsPort_concat.2 (Or.inl hport)⟩
    · rintro (hrow | ⟨k, hk, hport⟩)
      · exact Or.inl hrow
      · rcases getsPort_concat.1 hport with hold | ⟨rfl, hcount, -⟩
        · exact Or.inr ⟨k, hk, hold⟩
        · -- the request gets its port without inserting: it has found a row
          subst hk
          have hover : Overtaken env req db sched i := by
            by_contra hnot
            exact hins ((inserts_iff h hc).2 ⟨hcount, hport, hknown, hnot⟩)
          rcases hover with hrow | ⟨k, hk, hport, -⟩
          · exact Or.inl hrow
          · exact Or.inr ⟨k, hk, hport⟩

/-- The first request of a device that gets a port is early. -/
theorem EnableInvariant.early_concat (h : EnableInvariant env req db sched c) {k : ι}
    (hk : GetsPort env req db (sched ++ [i]) k) :
    ∃ j, (req j).deviceId = (req k).deviceId ∧ Early env req db (sched ++ [i]) j := by
  rcases getsPort_concat.1 hk with hold | ⟨rfl, hcount, -⟩
  · obtain ⟨j, hj, hearly⟩ := h.early k hold
    exact ⟨j, hj, hearly.concat i⟩
  · by_cases hearlier : ∃ j, (req j).deviceId = (req i).deviceId ∧ GetsPort env req db sched j
    · obtain ⟨j, hj, hport⟩ := hearlier
      obtain ⟨j', hj', hearly⟩ := h.early j hport
      exact ⟨j', hj'.trans hj, hearly.concat i⟩
    · refine ⟨i, rfl, hk, fun j hj hport => ?_⟩
      rcases getsPort_concat.1 hport with hold | ⟨rfl, -⟩
      · exact absurd ⟨j, hj, hold⟩ hearlier
      · exact Interleavings.precedes_concat (by omega) (by omega) i

/-- A commit is one of an `enable`, on a device identifier that fits its column. -/
theorem EnableInvariant.commit_enable (h : EnableInvariant env req db sched c)
    (hadm : db.Admitted env.schema) {flush : Flush} (hst : c.2 i = .commit flush) :
    (env.schema.enforceLengths = true → fitsColumn 128 (req i).deviceId = true) ∧
      ∃ nonce payload d t port, flush = .enable nonce payload d t port := by
  have hsound := h.stages i
  rw [hst] at hsound
  cases flush with
  | enable nonce payload d t port =>
      refine ⟨fun he => ?_, nonce, payload, d, t, port, rfl⟩
      obtain ⟨device, hmem, hid⟩ := List.mem_map.1 hsound.2.1
      rw [← hid]
      exact (hadm.columnsFit he hmem).deviceId
  | disable | update => exact absurd hsound id

/-- **One turn** keeps the invariant. -/
theorem enableInvariant_exec (hschema : env.schema.uniqueTunnelDevice = false)
    (hadm : db.Admitted env.schema) (h : EnableInvariant env req db sched c)
    (hc : c = enableAll env req db sched) :
    EnableInvariant env req db (sched ++ [i]) (Interleavings.exec (enableStep env req) c i).2 := by
  obtain ⟨hadm', hdevices, hadded, hkept⟩ :=
    exec_tables hschema h.admitted fun flush hst => h.commit_enable hadm hst
  exact
    { admitted := hadm'
      devices := hdevices.trans h.devices
      stages := enableSound_exec h hc
      rows_iff := fun deviceId hknown => h.rows_iff_concat hc hadded hkept hknown
      early := fun k hk => h.early_concat hk }

/-- **The invariant holds after every schedule.** -/
theorem enableInvariant_enableAll (hschema : env.schema.uniqueTunnelDevice = false)
    (hadm : db.Admitted env.schema) (sched : List ι) :
    EnableInvariant env req db sched (enableAll env req db sched) := by
  induction sched using List.reverseRecOn with
  | nil =>
      have hnone : ∀ k, ¬ GetsPort env req db [] k := by
        intro k hk
        exact absurd hk.le_count (by simp)
      exact
        { admitted := hadm
          devices := rfl
          stages := fun i => List.count_nil
          rows_iff := fun deviceId _ => by simp [hnone, enableAll]
          early := fun k hk => absurd hk (hnone k) }
  | append_singleton sched i ih =>
      rw [enableAll_concat]
      exact enableInvariant_exec hschema hadm ih rfl

/-- A turn that makes a request of a device without a row early is one that inserts. -/
theorem Early.of_concat {k : ι} (h : EnableInvariant env req db sched c)
    (hc : c = enableAll env req db sched) (hearly : Early env req db (sched ++ [i]) k)
    (hknown : (req k).deviceId ∈ db.devices.map Device.deviceId)
    (hnone : (req k).deviceId ∉ db.deviceTunnels.map DeviceTunnel.deviceId) :
    Early env req db sched k ∨ k = i ∧ Inserts c i := by
  rcases getsPort_concat.1 hearly.1 with hold | ⟨rfl, hcount, -⟩
  · have hle := hold.le_count
    exact Or.inl ⟨hold, (forall_precedes_concat (by omega)).1 hearly.2⟩
  · refine Or.inr ⟨rfl, (inserts_iff h hc).2 ⟨hcount, hearly.1, hknown, ?_⟩⟩
    rw [← overtaken_concat (i := i) (by omega)]
    exact hearly.not_overtaken hnone

/-- **An insertion finds no row of its device** exactly if it makes no second request early. -/
theorem no_row_iff (h : EnableInvariant env req db sched c) (hc : c = enableAll env req db sched)
    (hone : OneEarly env req db sched) :
    (Inserts c i → (req i).deviceId ∉ c.1.deviceTunnels.map DeviceTunnel.deviceId) ↔
      OneEarly env req db (sched ++ [i]) := by
  constructor
  · intro hguard device hdevice hnone j k hj hk hearly hearly'
    have hknown : device.deviceId ∈ db.devices.map Device.deviceId := List.mem_map_of_mem hdevice
    have hrows : device.deviceId ∉ db.deviceTunnels.map DeviceTunnel.deviceId := by
      intro hmem
      obtain ⟨t, ht, hid⟩ := List.mem_map.1 hmem
      exact hnone t ht hid
    -- an insertion now excludes an early request before
    have hexcl : ∀ {m}, (req m).deviceId = device.deviceId → Early env req db sched m →
        (req i).deviceId = device.deviceId → ¬ Inserts c i := by
      intro m hm hbefore hi hins
      refine hguard hins ?_
      rw [hi, h.rows_iff _ hknown]
      exact Or.inr ⟨m, hm, hbefore.1⟩
    rcases hearly.of_concat h hc (hj ▸ hknown) (hj ▸ hrows) with hold | ⟨rfl, hins⟩
    · rcases hearly'.of_concat h hc (hk ▸ hknown) (hk ▸ hrows) with hold' | ⟨rfl, hins⟩
      · exact hone device hdevice hnone j k hj hk hold hold'
      · exact absurd hins (hexcl hj hold hk)
    · rcases hearly'.of_concat h hc (hk ▸ hknown) (hk ▸ hrows) with hold' | ⟨rfl, -⟩
      · exact absurd hins (hexcl hk hold' hj)
      · rfl
  · intro hone' hins hrow
    obtain ⟨hcount, hgets, hknown, hnot⟩ := (inserts_iff h hc).1 hins
    rcases (h.rows_iff _ hknown).1 hrow with hfirst | ⟨k, hk, hport⟩
    · exact hnot (Or.inl hfirst)
    · obtain ⟨j, hj, hearly⟩ := h.early k hport
      obtain ⟨device, hdevice, hid⟩ := List.mem_map.1 hknown
      have hnow : Early env req db (sched ++ [i]) i := by
        refine early_of_not_overtaken hgets ?_
        rw [overtaken_concat (by omega)]
        exact hnot
      have hij : i = j := by
        refine hone' device hdevice (fun t ht htid => hnot (Or.inl ?_)) i j hid.symm
          ((hj.trans hk).trans hid.symm) hnow (hearly.concat i)
        rw [← hid, ← htid]
        exact List.mem_map_of_mem ht
      subst hij
      have hle := hearly.1.le_count
      omega

/-- **One turn** from safe lookups leads to safe lookups exactly if an insertion finds no row of its
device. -/
theorem lookupsSafe_exec_iff (hschema : env.schema.uniqueTunnelDevice = false)
    (hadm : db.Admitted env.schema) (h : EnableInvariant env req db sched c)
    (hsafe : LookupsSafe c.1) :
    LookupsSafe (Interleavings.exec (enableStep env req) c i).2.1 ↔
      (Inserts c i → (req i).deviceId ∉ c.1.deviceTunnels.map DeviceTunnel.deviceId) := by
  obtain ⟨-, -, hadded, hkept⟩ :=
    exec_tables hschema h.admitted fun flush hst => h.commit_enable hadm hst
  rw [lookupsSafe_iff] at hsafe ⊢
  unfold UniqueKey at hsafe ⊢
  by_cases hins : Inserts c i
  · rw [hadded hins, List.nodup_append_comm, List.singleton_append, List.nodup_cons]
    exact ⟨fun hnodup _ => hnodup.1, fun hguard => ⟨hguard hins, hsafe⟩⟩
  · rw [hkept hins]
    exact iff_of_true hsafe fun h => absurd h hins

end

/-- **Concurrent `enable` requests.**  Whatever requests there are and however their steps
interleave, every committed state has at most one tunnel row for each device, and no lookup meets
two, exactly when on every device without a row at most one of the requests that get a port reads
the tunnel row before the first of them commits. -/
theorem along_lookupsSafe_iff [DecidableEq ι] (hschema : env.schema.uniqueTunnelDevice = false)
    (req : ι → EnableRequest) (db : Store) (hadm : db.Admitted env.schema)
    (hsafe : LookupsSafe db) (sched : List ι) :
    Along (Interleavings.exec (enableStep env req)) (fun c _ => LookupsSafe c.1)
        (db, fun _ => .start) sched ↔ OneEarly env req db sched := by
  induction sched using List.reverseRecOn with
  | nil => exact iff_of_true ((along_nil _).2 hsafe) oneEarly_nil
  | append_singleton sched i ih =>
      have hinv : EnableInvariant env req db sched (enableAll env req db sched) :=
        enableInvariant_enableAll hschema hadm sched
      rw [along_concat, ih]
      constructor
      · rintro ⟨hone, hnext⟩
        have hbefore : LookupsSafe (enableAll env req db sched).1 := ih.2 hone sched List.prefix_rfl
        exact (no_row_iff hinv rfl hone).1 ((lookupsSafe_exec_iff hschema hadm hinv hbefore).1 hnext)
      · intro hone'
        have hone := hone'.of_concat
        have hbefore : LookupsSafe (enableAll env req db sched).1 := ih.2 hone sched List.prefix_rfl
        exact ⟨hone,
          (lookupsSafe_exec_iff hschema hadm hinv hbefore).2 ((no_row_iff hinv rfl hone).2 hone')⟩

/-- A database with one device and no tunnel. -/
def oneDevice : Store :=
  Store.empty.insertDevice (DeviceService.newDevice (plainEnv migrationSchema) Uuid.nil 0 {})

/-- Two requests to enable the tunnel of that device, on different ports. -/
def onPorts (b : Bool) : EnableRequest where
  deviceId := generateDeviceId Uuid.nil
  nonce := 0
  payload :=
    { localIp := .default, localPort := .app,
      remotePort := some ⟨if b then 17001 else 17000, by cases b <;> decide⟩ }

/-- Both requests look the tunnel row up before either commits. -/
def bothRead : List Bool := [false, false, false, true, true, true, false, true]

theorem lookupsSafe_oneDevice : LookupsSafe oneDevice := lookupsSafe_iff.2 (by decide)

theorem admitted_oneDevice : oneDevice.Admitted (plainEnv migrationSchema).schema := by decide

/-- The first request commits before the second one reads the tunnel row. -/
def oneByOne : List Bool := [false, false, false, false, true, true, true, true]

theorem not_precedes_oneByOne : ¬ Precedes oneByOne true 2 false 4 := by decide

theorem oneEarly_oneByOne : OneEarly (plainEnv migrationSchema) onPorts oneDevice oneByOne := by
  intro device _ _ i j _ _ hi hj
  cases i with
  | false =>
      cases j with
      | false => rfl
      | true => exact absurd (hj.2 false rfl hi.1) not_precedes_oneByOne
  | true =>
      cases j with
      | false => exact absurd (hi.2 false rfl hj.1) not_precedes_oneByOne
      | true => rfl

/-- The one after the other, the two requests keep the lookups safe: only the first one is early,
and the second one finds its row. -/
theorem one_by_one_lookupsSafe :
    Along (Interleavings.exec (enableStep (plainEnv migrationSchema) onPorts))
      (fun c _ => LookupsSafe c.1) (oneDevice, fun _ => .start) oneByOne :=
  (along_lookupsSafe_iff (plainEnv migrationSchema) rfl onPorts oneDevice admitted_oneDevice
    lookupsSafe_oneDevice oneByOne).2 oneEarly_oneByOne

/-- **Both requests insert a row**, and from then on every lookup of the tunnel meets two. -/
theorem two_enables_insert_two_rows :
    LookupsSafe oneDevice ∧
      ¬ LookupsSafe (final (Interleavings.exec (enableStep (plainEnv migrationSchema) onPorts))
        (oneDevice, fun _ => .start) bothRead).1 := by
  refine ⟨lookupsSafe_oneDevice, ?_⟩
  rw [lookupsSafe_iff]
  decide

end SmsForwarder
