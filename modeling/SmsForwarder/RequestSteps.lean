/-
**The steps of a request.**

A request handler runs in a thread of its own, with a session of its own, and the database answers
its queries one by one: it reads the device row, it reads the tunnel row, an `enable` without a
port reads the ports in use, and everything it changed is written in one commit.  This module cuts
`TunnelService.enable`, `TunnelService.disable` and `DeviceService.update` at these points, so that
the steps of several requests can interleave.

Main definitions:

* `SmsForwarder.Request`, `SmsForwarder.Request.call` — a request, and the call it makes;
* `SmsForwarder.Flush`, `SmsForwarder.Stage`, `SmsForwarder.Request.step` — what a session holds at
  its commit, how far a request is, and its next step.

Main results:

* `SmsForwarder.readsFirst_step` — only the last step of a request writes;
* `SmsForwarder.Request.alone_eq_call` — **a request that is alone makes its call.**
-/

import SmsForwarder.Interleavings
import SmsForwarder.TunnelService

set_option relaxedAutoImplicit false
set_option autoImplicit false

namespace SmsForwarder

open Tables Runs TunnelService

/-! ### Requests -/

inductive RequestKind
  | enable (nonce : ℕ) (payload : TunnelEnableIn)
  | disable
  | update (nonce : ℕ) (payload : DeviceUpdate)

/-- A request on a device. -/
structure Request where
  deviceId : String
  kind : RequestKind

variable (env : Env)

/-- The call that handles the request. -/
def Request.call (r : Request) (db : Store) : Except PyError (Store × Unit) :=
  match r.kind with
  | .enable nonce payload =>
      (TunnelService.enable env db r.deviceId nonce payload).map fun p => (p.1, ())
  | .disable => (TunnelService.disable env db r.deviceId).map fun p => (p.1, ())
  | .update nonce payload =>
      (DeviceService.update env db r.deviceId nonce payload).map fun p => (p.1, ())

/-! ### Stages -/

/-- What a session holds when it commits. -/
inductive Flush
  | enable (nonce : ℕ) (payload : TunnelEnableIn) (device : Device) (tunnel : Option DeviceTunnel)
      (port : ℤ)
  | disable (device : Device) (tunnel : DeviceTunnel)
  | update (nonce : ℕ) (payload : DeviceUpdate) (device : Device)

/-- The commit. -/
def Flush.run (deviceId : String) (db : Store) : Flush → Except PyError Store
  | enable nonce payload device tunnel port =>
      flushEnable env deviceId nonce payload port device tunnel db
  | disable device tunnel => flushDisable env device tunnel db
  | update nonce payload device => DeviceService.flushUpdate env nonce payload device db

/-- How far a request is. -/
inductive Stage
  | start
  /-- the device row was read -/
  | device (d : Device)
  /-- an `enable` read the tunnel row too, and it is not enabled -/
  | rows (nonce : ℕ) (payload : TunnelEnableIn) (d : Device) (t : Option DeviceTunnel)
  /-- everything is read and checked -/
  | commit (flush : Flush)
  | done (outcome : Except PyError Unit)

/-- The request was answered. -/
def Stage.Done : Stage → Prop
  | .done _ => True
  | _ => False

/-- The stage after a query: an exception ends the request. -/
def Stage.after {α : Type} (x : Except PyError α) (next : α → Stage) : Stage :=
  match x with
  | .ok a => next a
  | .error e => .done (.error e)

/-- The stage after a commit, and the store it leaves. -/
def Stage.committed (x : Except PyError Store) (db : Store) : Store × Stage :=
  match x with
  | .ok db' => (db', .done (.ok ()))
  | .error e => (db, .done (.error e))

/-- The query of an `enable` for the tunnel row, and the check of that row. -/
def readDisabled (db : Store) (deviceId : String) : Except PyError (Option DeviceTunnel) := do
  let tunnel ← getTunnel db deviceId
  ensureNotEnabled tunnel
  pure tunnel

/-- The stage after the query for the tunnel row. -/
def Request.readTunnel (r : Request) (db : Store) (d : Device) : Stage :=
  match r.kind with
  | .enable nonce payload =>
      .after (readDisabled db r.deviceId) (.rows nonce payload d)
  | .disable => .after (requireTunnel db r.deviceId) fun t => .commit (.disable d t)
  | .update nonce payload =>
      .after (DeviceService.ensureUnmanaged db r.deviceId payload)
        fun _ => .commit (.update nonce payload d)

/-- The next step of a request. -/
def Request.step (r : Request) (db : Store) : Stage → Store × Stage
  | .start => (db, .after (getDevice db r.deviceId) .device)
  | .device d => (db, r.readTunnel db d)
  | .rows nonce payload d t =>
      (db, .after (choosePort env.settings payload.remotePort
        (db.deviceTunnels.map DeviceTunnel.remotePort))
          fun port => .commit (.enable nonce payload d t port))
  | .commit flush => Stage.committed (flush.run env r.deviceId db) db
  | .done outcome => (db, .done outcome)

/-- Only the last step of a request writes. -/
theorem readsFirst_step {ι : Type*} (req : ι → Request) :
    Interleavings.ReadsFirst (fun i => (req i).step env) Stage.Done where
  stutter i db stage h := by
    cases stage with
    | done outcome => rfl
    | start | device | rows | commit => exact absurd h id
  reads i db stage h := by
    cases stage with
    | commit flush =>
        simp only [Request.step, Stage.committed] at h
        split at h <;> exact absurd trivial h
    | start | device | rows | done => rfl

/-- **A request that is alone makes its call.** -/
theorem Request.alone_eq_call {ι : Type*} (req : ι → Request) (i : ι) (db : Store) :
    Interleavings.alone (fun i => (req i).step env) i 4 (db, .start) =
      ((attempt ((req i).call env db) db).2, .done (attempt ((req i).call env db) db).1) := by
  rw [Interleavings.alone_succ, Interleavings.alone_succ, Interleavings.alone_succ,
    Interleavings.alone_succ, Interleavings.alone_zero]
  obtain ⟨deviceId, kind⟩ := req i
  unfold Request.call
  cases kind with
  | enable nonce payload =>
      unfold TunnelService.enable
      simp only [Request.step, Request.readTunnel, readDisabled]
      cases getDevice db deviceId with
      | error e => rfl
      | ok d =>
          cases ht : getTunnel db deviceId with
          | error e => rfl
          | ok t =>
              cases hn : ensureNotEnabled t with
              | error e => simp only [Stage.after, bind, Except.bind, hn, Except.map, attempt]
              | ok u =>
                  simp only [Stage.after, bind, Except.bind, hn, pure, Except.pure]
                  cases hp : choosePort env.settings payload.remotePort
                      (db.deviceTunnels.map DeviceTunnel.remotePort) with
                  | error e => simp only [Except.map, attempt]
                  | ok port =>
                      simp only [Flush.run]
                      cases hf : flushEnable env deviceId nonce payload port d t db <;> rfl
  | disable =>
      unfold TunnelService.disable
      simp only [Request.step, Request.readTunnel]
      cases getDevice db deviceId with
      | error e => rfl
      | ok d =>
          cases ht : requireTunnel db deviceId with
          | error e => rfl
          | ok t =>
              simp only [Stage.after, bind, Except.bind, Flush.run]
              cases hf : flushDisable env d t db <;> rfl
  | update nonce payload =>
      unfold DeviceService.update
      simp only [Request.step, Request.readTunnel, DeviceService.get, getDevice]
      cases requireDevice db deviceId with
      | error e => rfl
      | ok d =>
          cases hu : DeviceService.ensureUnmanaged db deviceId payload with
          | error e => rfl
          | ok u =>
              simp only [Stage.after, bind, Except.bind, Flush.run]
              cases hf : DeviceService.flushUpdate env nonce payload d db <;> rfl

end SmsForwarder
