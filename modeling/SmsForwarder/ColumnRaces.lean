/-
**Two requests on the columns of one device.**

`enable`, `disable` and an update of `base_url` read and write five columns of the rows of a
device.  A session loads them, the device row first, and its commit writes those columns whose
value it changed.  This module looks at these columns alone: what two such requests leave there
and answer, for every interleaving, and when that is what the one after the other would have left
and answered.

Main definitions:

* `SmsForwarder.Columns`, `SmsForwarder.Columns.merge` — the columns, and the commit of a session;
* `SmsForwarder.ColumnRequest`, `SmsForwarder.ColumnRequest.step` — the requests and their steps;
* `SmsForwarder.Anomaly` — the second of two requests had read too much when the first committed;
* `SmsForwarder.Anomalous` — a schedule with an anomaly.

Main results:

* `SmsForwarder.resume_serial_iff` — the second request goes on as if it had come before or after
  the first exactly if there is no anomaly;
* `SmsForwarder.columns_serial_iff` — **two requests are serializable exactly on the schedules
  without an anomaly.**
-/

import SmsForwarder.Interleavings
import SmsForwarder.TunnelService

set_option relaxedAutoImplicit false
set_option autoImplicit false

namespace SmsForwarder

open Runs TunnelService

/-! ### Columns -/

/-- The column `base_url` of a device, and the columns of its tunnel row that are derived from it
or from which it is derived. -/
structure Columns where
  baseUrl : Option String
  enabled : Bool
  remotePort : ℤ
  internalBaseUrl : String
  previousBaseUrl : Option String
  deriving DecidableEq, Repr

/-- The committed columns `cur` after a session that loaded them as `read` flushes them as
`new`. -/
def Columns.merge (read new cur : Columns) : Columns where
  baseUrl := mergeColumn read.baseUrl new.baseUrl cur.baseUrl
  enabled := mergeColumn read.enabled new.enabled cur.enabled
  remotePort := mergeColumn read.remotePort new.remotePort cur.remotePort
  internalBaseUrl := mergeColumn read.internalBaseUrl new.internalBaseUrl cur.internalBaseUrl
  previousBaseUrl := mergeColumn read.previousBaseUrl new.previousBaseUrl cur.previousBaseUrl

@[simp] theorem Columns.merge_self (read new : Columns) : read.merge new read = new := by
  simp [Columns.merge]

/-- How a request was answered. -/
inductive Answer
  | success
  /-- a `ConflictError` -/
  | conflict
  /-- another exception -/
  | failed
  deriving DecidableEq, Repr

/-! ### Requests -/

/-- A request, as far as the columns are concerned. -/
inductive ColumnRequest
  | enable (requested : Option Port) (sync : Bool)
  | disable
  /-- `storable` says whether the database accepts the other columns of the update -/
  | update (baseUrl : Option String) (storable : Bool)

/-- How far a request is. -/
inductive ColumnStage
  | start
  /-- the device row was read -/
  | device (baseUrl : Option String)
  /-- an `enable` read the tunnel row too, and it is not enabled -/
  | rows (requested : Option Port) (sync : Bool) (read : Columns)
  /-- everything is read; `none` is a flush the database refuses -/
  | commit (read : Columns) (new : Option Columns)
  | done (answer : Answer)

/-- The request was answered. -/
def ColumnStage.Done : ColumnStage → Prop
  | .done _ => True
  | _ => False

instance : DecidablePred ColumnStage.Done := fun l => by
  cases l <;> unfold ColumnStage.Done <;> infer_instance

variable (s : Settings) (others : List ℤ)

/-- The columns as `enable` leaves them. -/
def Columns.activated (read : Columns) (port : ℤ) (sync : Bool) : Columns where
  baseUrl := if sync then some (TunnelService.internalBaseUrl s port) else read.baseUrl
  enabled := true
  remotePort := port
  internalBaseUrl := TunnelService.internalBaseUrl s port
  previousBaseUrl := read.baseUrl

/-- The columns as `disable` leaves them. -/
def Columns.deactivated (read : Columns) : Columns :=
  { read with enabled := false, baseUrl := read.previousBaseUrl }

/-- The stage after the query for the tunnel row. -/
def ColumnRequest.readTunnel (read : Columns) : ColumnRequest → ColumnStage
  | enable requested sync => if read.enabled then .done .conflict else .rows requested sync read
  | disable => .commit read (some read.deactivated)
  | update baseUrl storable =>
      if read.enabled then .done .conflict
      else .commit read (if storable then some { read with baseUrl := baseUrl } else none)

/-- The stage after the choice of a port. -/
def Columns.afterPort (read : Columns) (sync : Bool) (port : Except PyError ℤ) : ColumnStage :=
  match port with
  | .ok port => .commit read (some (read.activated s port sync))
  | .error _ => .done .conflict

/-- The commit: no other row may hold the port. -/
def Columns.flush (read : Columns) (new : Option Columns) (cur : Columns) : Columns × Answer :=
  match new with
  | none => (cur, .failed)
  | some new =>
      if (read.merge new cur).remotePort ∈ others then (cur, .conflict)
      else (read.merge new cur, .success)

/-- The next step of a request; `others` are the ports of the other rows. -/
def ColumnRequest.step (r : ColumnRequest) (cur : Columns) : ColumnStage → Columns × ColumnStage
  | .start => (cur, .device cur.baseUrl)
  | .device baseUrl => (cur, r.readTunnel { cur with baseUrl := baseUrl })
  | .rows requested sync read =>
      (cur, read.afterPort s sync (choosePort s requested (cur.remotePort :: others)))
  | .commit read new => ((read.flush others new cur).1, .done (read.flush others new cur).2)
  | .done answer => (cur, .done answer)

/-- The steps of a family of requests. -/
def columnStep {ι : Type*} (r : ι → ColumnRequest) (i : ι) :
    Columns → ColumnStage → Columns × ColumnStage :=
  (r i).step s others

/-- Only the last step of a request writes. -/
theorem readsFirst_columnStep {ι : Type*} (r : ι → ColumnRequest) :
    Interleavings.ReadsFirst (columnStep s others r) ColumnStage.Done where
  stutter i cur stage h := by
    cases stage with
    | done answer => rfl
    | start | device | rows | commit => exact absurd h id
  reads i cur stage h := by
    cases stage with
    | commit read new => exact absurd trivial h
    | start | device | rows | done => rfl

/-! ### The rest of a request -/

/-- The columns and the answer of an `enable` that is alone from the choice of its port on. -/
def Columns.finishPort (read : Columns) (sync : Bool) (port : Except PyError ℤ) (cur : Columns) :
    Columns × Answer :=
  match port with
  | .ok port => read.flush others (some (read.activated s port sync)) cur
  | .error _ => (cur, .conflict)

/-- The columns and the answer of a request that is alone from the query for the tunnel row on. -/
def ColumnRequest.finishFrom (r : ColumnRequest) (read cur : Columns) : Columns × Answer :=
  match r with
  | enable requested sync =>
      if read.enabled then (cur, .conflict)
      else read.finishPort s others sync (choosePort s requested (cur.remotePort :: others)) cur
  | disable => read.flush others (some read.deactivated) cur
  | update url storable =>
      if read.enabled then (cur, .conflict)
      else read.flush others (if storable then some { read with baseUrl := url } else none) cur

/-- The columns and the answer of a request that is alone from a stage on. -/
def ColumnRequest.finish (r : ColumnRequest) (cur : Columns) : ColumnStage → Columns × Answer
  | .start => r.finishFrom s others cur cur
  | .device baseUrl => r.finishFrom s others { cur with baseUrl := baseUrl } cur
  | .rows requested sync read =>
      read.finishPort s others sync (choosePort s requested (cur.remotePort :: others)) cur
  | .commit read new => read.flush others new cur
  | .done answer => (cur, answer)

/-- The columns and the answer of a request that is alone. -/
def ColumnRequest.call (r : ColumnRequest) (c : Columns) : Columns × Answer :=
  r.finishFrom s others c c

/-- The number of steps of a request that commits. -/
def ColumnRequest.steps : ColumnRequest → ℕ
  | enable _ _ => 4
  | disable => 3
  | update _ _ => 3

/-- The number of steps that a request has left, at most. -/
def ColumnStage.left : ColumnStage → ℕ
  | .start => 4
  | .device _ => 3
  | .rows _ _ _ => 2
  | .commit _ _ => 1
  | .done _ => 0

theorem ColumnStage.left_le (stage : ColumnStage) : stage.left ≤ 4 := by
  cases stage <;> simp [ColumnStage.left]

section

variable {s others}

/-- The query for the tunnel row decides between a refusal and the rest of the request. -/
theorem ColumnRequest.finish_readTunnel (r : ColumnRequest) (read cur : Columns) :
    r.finish s others cur (r.readTunnel read) = r.finishFrom s others read cur := by
  by_cases hen : read.enabled = true
  · cases r <;> simp [readTunnel, finish, finishFrom, hen]
  · cases r <;> simp [readTunnel, finish, finishFrom, hen]

theorem ColumnRequest.left_readTunnel (r : ColumnRequest) (read : Columns) :
    (r.readTunnel read).left ≤ 2 := by
  by_cases hen : read.enabled = true
  · cases r <;> simp [readTunnel, hen, ColumnStage.left]
  · cases r <;> simp [readTunnel, hen, ColumnStage.left]

theorem ColumnRequest.finish_afterPort (r : ColumnRequest) (read cur : Columns) (sync : Bool)
    (port : Except PyError ℤ) :
    r.finish s others cur (read.afterPort s sync port) = read.finishPort s others sync port cur := by
  cases port with
  | error e => rfl
  | ok port => rfl

variable (s others) in
/-- A step keeps what the request ends in, and brings it closer. -/
theorem ColumnRequest.finish_step (r : ColumnRequest) (cur : Columns) (stage : ColumnStage) :
    r.finish s others (r.step s others cur stage).1 (r.step s others cur stage).2 =
        r.finish s others cur stage ∧
      (r.step s others cur stage).2.left ≤ stage.left - 1 := by
  cases stage with
  | start => exact ⟨rfl, le_rfl⟩
  | device baseUrl => exact ⟨r.finish_readTunnel _ _, r.left_readTunnel _⟩
  | rows requested sync read =>
      refine ⟨r.finish_afterPort _ _ _ _, ?_⟩
      simp only [step]
      cases choosePort s requested (cur.remotePort :: others) with
      | error e => exact Nat.zero_le _
      | ok port => exact le_rfl
  | commit read new => exact ⟨rfl, le_rfl⟩
  | done answer => exact ⟨rfl, le_rfl⟩

variable (s others) in
/-- **A request that is alone** ends in its `finish`. -/
theorem ColumnRequest.alone_eq_finish {ι : Type*} (r : ι → ColumnRequest) (i : ι) (n : ℕ)
    (cur : Columns) (stage : ColumnStage) (hn : stage.left ≤ n) :
    Interleavings.alone (columnStep s others r) i n (cur, stage) =
      (((r i).finish s others cur stage).1, .done ((r i).finish s others cur stage).2) := by
  induction n generalizing cur stage with
  | zero =>
      cases stage with
      | done answer => rfl
      | start | device | rows | commit => simp [ColumnStage.left] at hn
  | succ n ih =>
      have hstep := (r i).finish_step s others cur stage
      rw [Interleavings.alone_succ]
      show Interleavings.alone (columnStep s others r) i n
        (((r i).step s others cur stage).1, ((r i).step s others cur stage).2) = _
      rw [ih _ _ (by omega), hstep.1]

/-- A request that is alone and was answered ended in its `finish`. -/
theorem ColumnRequest.alone_of_done {ι : Type*} {r : ι → ColumnRequest} {i : ι} {n : ℕ}
    {cur : Columns} {stage : ColumnStage}
    (hdone : (Interleavings.alone (columnStep s others r) i n (cur, stage)).2.Done) :
    Interleavings.alone (columnStep s others r) i n (cur, stage) =
      (((r i).finish s others cur stage).1, .done ((r i).finish s others cur stage).2) := by
  have hfour := ColumnRequest.alone_eq_finish s others r i 4 cur stage stage.left_le
  rw [← hfour]
  refine (readsFirst_columnStep s others r).alone_eq_of_fin hdone ?_
  rw [hfour]
  trivial

end

/-! ### What a request that commits writes -/

/-- The port an `enable` settles on while the rows hold the ports `ports`, if it is allowed and no
other row holds it. -/
def settledPort (requested : Option Port) (ports : List ℤ) : Option ℤ :=
  match choosePort s requested ports with
  | .ok port => if port ∈ others then none else some port
  | .error _ => none

/-- What a request that read the columns `read`, and the ports `ports` if it had to choose one, makes
of them, or its refusal. -/
def ColumnRequest.effect (r : ColumnRequest) (read : Columns) (ports : List ℤ) :
    Except Answer Columns :=
  match r with
  | enable requested sync =>
      if read.enabled then .error .conflict
      else
        match settledPort s others requested ports with
        | some port => .ok (read.activated s port sync)
        | none => .error .conflict
  | disable => .ok read.deactivated
  | update baseUrl storable =>
      if read.enabled then .error .conflict
      else if storable then .ok { read with baseUrl := baseUrl } else .error .failed

/-- The columns and the answer, if the commit finds the columns `cur`. -/
def ColumnRequest.outcome (r : ColumnRequest) (read : Columns) (ports : List ℤ) (cur : Columns) :
    Columns × Answer :=
  match r.effect s others read ports with
  | .ok new => (read.merge new cur, .success)
  | .error answer => (cur, answer)

section

variable {s others} {c read cur : Columns}

theorem Columns.flush_of_free {new : Columns} (hnew : new.remotePort ∉ others)
    (hcur : cur.remotePort ∉ others) :
    read.flush others (some new) cur = (read.merge new cur, .success) :=
  if_neg (mergeColumn_of_both (p := (· ∉ others)) hnew hcur)

/-- A settled port is free. -/
theorem settledPort_eq_some {requested : Option Port} {ports : List ℤ} {port : ℤ}
    (h : settledPort s others requested ports = some port) : port ∉ others := by
  unfold settledPort at h
  split at h
  · split at h
    · simp at h
    · rename_i hfree
      obtain rfl := Option.some.inj h
      exact hfree
  · simp at h

/-- A port was chosen if one was settled on. -/
theorem choosePort_of_settledPort {requested : Option Port} {ports : List ℤ} {port : ℤ}
    (h : settledPort s others requested ports = some port) :
    choosePort s requested ports = .ok port := by
  unfold settledPort at h
  split at h
  · rename_i port' hport
    split at h
    · simp at h
    · rw [hport, Option.some.inj h]
  · simp at h

/-- **What a request that commits makes of the columns**: a `disable` always commits, the others
only if they found the tunnel disabled. -/
theorem effect_eq_ok {r : ColumnRequest} {ports : List ℤ} {new : Columns}
    (h : r.effect s others read ports = .ok new) :
    (r = .disable ∧ new = read.deactivated) ∨
      (∃ baseUrl, r = .update baseUrl true ∧ read.enabled = false ∧
        new = { read with baseUrl := baseUrl }) ∨
      ∃ requested sync port, r = .enable requested sync ∧ read.enabled = false ∧
        settledPort s others requested ports = some port ∧ new = read.activated s port sync := by
  cases r with
  | disable => exact Or.inl ⟨rfl, (Except.ok.inj h).symm⟩
  | update baseUrl storable =>
      simp only [ColumnRequest.effect] at h
      split at h
      · simp at h
      · rename_i hen
        split at h
        · rename_i hstorable
          obtain rfl := hstorable
          exact Or.inr (Or.inl ⟨baseUrl, rfl, by simpa using hen, (Except.ok.inj h).symm⟩)
        · simp at h
  | enable requested sync =>
      simp only [ColumnRequest.effect] at h
      split at h
      · simp at h
      · rename_i hen
        split at h
        · rename_i port hport
          exact Or.inr (Or.inr
            ⟨requested, sync, port, rfl, by simpa using hen, hport, (Except.ok.inj h).symm⟩)
        · simp at h

/-- What a request makes of the columns keeps their port apart from those of the other rows. -/
theorem port_effect {r : ColumnRequest} {ports : List ℤ} {new : Columns}
    (hread : read.remotePort ∉ others) (h : r.effect s others read ports = .ok new) :
    new.remotePort ∉ others := by
  rcases effect_eq_ok h with
    ⟨-, rfl⟩ | ⟨baseUrl, -, -, rfl⟩ | ⟨requested, sync, port, -, -, hport, rfl⟩
  · exact hread
  · exact hread
  · exact settledPort_eq_some hport

/-- An `enable` whose tunnel is disabled commits if it settles on a port. -/
theorem Columns.finishPort_eq (hread : read.remotePort ∉ others) (hcur : cur.remotePort ∉ others)
    (requested : Option Port) (sync : Bool) (ports : List ℤ) :
    read.finishPort s others sync (choosePort s requested ports) cur =
      match settledPort s others requested ports with
      | some port => (read.merge (read.activated s port sync) cur, .success)
      | none => (cur, .conflict) := by
  unfold settledPort
  cases choosePort s requested ports with
  | error e => rfl
  | ok port =>
      simp only [finishPort]
      by_cases htaken : port ∈ others
      · have hne : port ≠ read.remotePort := by
          rintro rfl
          exact hread htaken
        have hmerged : (read.merge (read.activated s port sync) cur).remotePort = port := if_neg hne
        rw [if_pos htaken]
        refine if_pos ?_
        rw [hmerged]
        exact htaken
      · rw [if_neg htaken]
        exact flush_of_free htaken hcur

/-- From the query for the tunnel row on, the effect decides. -/
theorem ColumnRequest.finishFrom_eq_outcome (r : ColumnRequest) (hread : read.remotePort ∉ others)
    (hcur : cur.remotePort ∉ others) :
    r.finishFrom s others read cur = r.outcome s others read (cur.remotePort :: others) cur := by
  cases r with
  | enable requested sync =>
      simp only [finishFrom, outcome, effect]
      rw [Columns.finishPort_eq hread hcur]
      by_cases hen : read.enabled = true
      · rw [if_pos hen, if_pos hen]
      · rw [if_neg hen, if_neg hen]
        cases settledPort s others requested (cur.remotePort :: others) <;> rfl
  | disable => exact Columns.flush_of_free hread hcur
  | update baseUrl storable =>
      simp only [finishFrom, outcome, effect]
      by_cases hen : read.enabled = true
      · rw [if_pos hen, if_pos hen]
      · rw [if_neg hen, if_neg hen]
        cases storable with
        | false => rfl
        | true => exact Columns.flush_of_free hread hcur

/-- A request that is alone installs its effect. -/
theorem ColumnRequest.call_eq_outcome (r : ColumnRequest) (hport : c.remotePort ∉ others) :
    r.call s others c = r.outcome s others c (c.remotePort :: others) c :=
  r.finishFrom_eq_outcome hport hport

end

/-! ### Anomalies -/

/-- Two requests that both commit, `r₁` first, when `r₂` had taken `m` steps: what `r₂` had read by
then makes it leave what no order of the two leaves. -/
def Anomaly (c : Columns) (r₁ r₂ : ColumnRequest) (m : ℕ) : Prop :=
  match r₁, r₂ with
  -- the saved `base_url` is not the one of the update
  | .update baseUrl true, .enable requested _ =>
      c.enabled = false ∧ (settledPort s others requested (c.remotePort :: others)).isSome ∧
        1 ≤ m ∧ baseUrl ≠ c.baseUrl
  -- the saved `base_url` is not the restored one
  | .disable, .enable requested _ =>
      (c.enabled = false ∨ m = 1) ∧
        (settledPort s others requested (c.remotePort :: others)).isSome ∧
        1 ≤ m ∧ c.previousBaseUrl ≠ c.baseUrl
  -- an update to the address the device had while its tunnel was enabled is not written
  | .disable, .update baseUrl true =>
      c.enabled = true ∧ m = 1 ∧ baseUrl = c.baseUrl ∧ c.previousBaseUrl ≠ c.baseUrl
  -- the update overwrites the address of a tunnel it did not see
  | .enable requested _, .update baseUrl true =>
      c.enabled = false ∧ (settledPort s others requested (c.remotePort :: others)).isSome ∧
        2 ≤ m ∧ baseUrl ≠ c.baseUrl
  -- both found the tunnel disabled
  | .enable requested _, .enable requested' _ =>
      c.enabled = false ∧ ∃ port ∈ settledPort s others requested (c.remotePort :: others),
        (m = 2 ∧ (settledPort s others requested' (port :: others)).isSome ∨
          m = 3 ∧ (settledPort s others requested' (c.remotePort :: others)).isSome)
  -- the flag is not reset, or the address is not restored
  | .enable requested sync, .disable =>
      c.enabled = false ∧ ∃ port ∈ settledPort s others requested (c.remotePort :: others),
        (2 ≤ m ∧ c.previousBaseUrl ≠ c.baseUrl ∨
          m = 1 ∧ sync = true ∧ some (TunnelService.internalBaseUrl s port) ≠ c.baseUrl)
  | _, _ => False

/-- What two requests leave and answer, run the one after the other. -/
def oneAfterOther (r₁ r₂ : ColumnRequest) (c : Columns) : Columns × Answer × Answer :=
  ((r₂.call s others (r₁.call s others c).1).1, (r₁.call s others c).2,
    (r₂.call s others (r₁.call s others c).1).2)

/-- Two requests that left the columns `c₂` and answered `a₁` and `a₂` did what the one after the
other would have done, in one of the two orders. -/
def SerialOutcome (r₁ r₂ : ColumnRequest) (c c₂ : Columns) (a₁ a₂ : Answer) : Prop :=
  (c₂, a₁, a₂) = oneAfterOther s others r₁ r₂ c ∨ (c₂, a₂, a₁) = oneAfterOther s others r₂ r₁ c

section

variable {s others} {c c₁ : Columns} {r₁ r₂ : ColumnRequest}

/-- What a request leaves keeps its port apart from those of the other rows. -/
theorem ColumnRequest.port_call (hport : c.remotePort ∉ others) (r : ColumnRequest) :
    (r.call s others c).1.remotePort ∉ others := by
  rw [r.call_eq_outcome hport]
  unfold outcome
  cases heff : r.effect s others c (c.remotePort :: others) with
  | error answer => exact hport
  | ok new =>
      simp only [Columns.merge_self]
      exact port_effect hport heff

/-- The two calls, in terms of their effects. -/
theorem oneAfterOther_eq (hport : c.remotePort ∉ others) (r₁ r₂ : ColumnRequest) :
    oneAfterOther s others r₁ r₂ c =
      let first := r₁.outcome s others c (c.remotePort :: others) c
      let second := r₂.outcome s others first.1 (first.1.remotePort :: others) first.1
      (second.1, first.2, second.2) := by
  unfold oneAfterOther
  rw [r₂.call_eq_outcome (r₁.port_call hport), r₁.call_eq_outcome hport]

/-- The call of a request that commits. -/
theorem call_of_effect (hport : c.remotePort ∉ others)
    (h : r₁.effect s others c (c.remotePort :: others) = .ok c₁) :
    r₁.call s others c = (c₁, .success) := by
  rw [r₁.call_eq_outcome hport]
  unfold ColumnRequest.outcome
  rw [h]
  simp only [Columns.merge_self]

/-- The call of a request that is refused. -/
theorem call_of_refused (hport : c.remotePort ∉ others) {answer : Answer}
    (h : r₁.effect s others c (c.remotePort :: others) = .error answer) :
    r₁.call s others c = (c, answer) := by
  rw [r₁.call_eq_outcome hport]
  unfold ColumnRequest.outcome
  rw [h]

/-- What is left to compare when `r₁` wrote `c₁` and `r₂` went on from `read`. -/
theorem serialOutcome_iff (hport : c.remotePort ∉ others) {o : Columns × Answer} :
    SerialOutcome s others r₁ r₂ c o.1 .success o.2 ↔
      (let first := r₁.outcome s others c (c.remotePort :: others) c
       let second := r₂.outcome s others first.1 (first.1.remotePort :: others) first.1
       o.1 = second.1 ∧ first.2 = .success ∧ o.2 = second.2) ∨
      (let first := r₂.outcome s others c (c.remotePort :: others) c
       let second := r₁.outcome s others first.1 (first.1.remotePort :: others) first.1
       o.1 = second.1 ∧ o.2 = first.2 ∧ second.2 = .success) := by
  unfold SerialOutcome
  rw [oneAfterOther_eq hport, oneAfterOther_eq hport]
  simp only [Prod.mk.injEq, eq_comm (a := Answer.success)]

/-- The second request had read the device row when the first one committed. -/
theorem serial_of_device (hport : c.remotePort ∉ others)
    (h₁ : r₁.effect s others c (c.remotePort :: others) = .ok c₁) (o : Columns × Answer)
    (ho : o = r₂.outcome s others { c₁ with baseUrl := c.baseUrl } (c₁.remotePort :: others) c₁) :
    SerialOutcome s others r₁ r₂ c o.1 .success o.2 ↔ ¬ Anomaly s others c r₁ r₂ 1 := by
  rw [serialOutcome_iff hport, ho]
  clear hport ho
  unfold ColumnRequest.outcome
  rcases effect_eq_ok h₁ with
    ⟨rfl, rfl⟩ | ⟨url, rfl, hen, rfl⟩ | ⟨requested, sync, port, rfl, hen, hp, rfl⟩
  · cases r₂ with
    | disable =>
        simp [ColumnRequest.effect, Columns.deactivated, Columns.merge, mergeColumn, Anomaly]
    | update url storable =>
        cases hen : c.enabled <;> cases storable <;>
          simp [hen, ColumnRequest.effect, Columns.deactivated, Columns.merge, mergeColumn, Anomaly]
        all_goals grind
    | enable requested sync =>
        cases hen : c.enabled <;>
          cases hp : settledPort s others requested (c.remotePort :: others) <;>
            simp [hen, hp, ColumnRequest.effect, Columns.deactivated, Columns.activated,
              Columns.merge, mergeColumn, Anomaly]
        all_goals grind
  · cases r₂ with
    | disable =>
        simp [hen, ColumnRequest.effect, Columns.deactivated, Columns.merge, mergeColumn, Anomaly]
        grind
    | update url' storable =>
        cases storable <;>
          simp [hen, ColumnRequest.effect, Columns.merge, mergeColumn, Anomaly]
        all_goals grind
    | enable requested sync =>
        cases hp : settledPort s others requested (c.remotePort :: others) <;>
          simp [hen, hp, ColumnRequest.effect, Columns.activated, Columns.merge, mergeColumn,
            Anomaly]
        all_goals grind
  · cases r₂ with
    | disable =>
        simp [hen, hp, ColumnRequest.effect, Columns.deactivated, Columns.activated, Columns.merge,
          mergeColumn, Anomaly]
        grind
    | update url storable =>
        cases storable <;>
          simp [hen, hp, ColumnRequest.effect, Columns.activated, Columns.merge, mergeColumn,
            Anomaly]
    | enable requested' sync' =>
        simp [hen, hp, ColumnRequest.effect, Columns.activated, Columns.merge, mergeColumn, Anomaly]

/-- The second request had read both rows when the first one committed. -/
theorem serial_of_rows (hport : c.remotePort ∉ others)
    (h₁ : r₁.effect s others c (c.remotePort :: others) = .ok c₁)
    (hread : r₂ = .disable ∨ c.enabled = false) (o : Columns × Answer)
    (ho : o = r₂.outcome s others c (c₁.remotePort :: others) c₁) :
    SerialOutcome s others r₁ r₂ c o.1 .success o.2 ↔ ¬ Anomaly s others c r₁ r₂ 2 := by
  rw [serialOutcome_iff hport, ho]
  clear hport ho
  unfold ColumnRequest.outcome
  rcases effect_eq_ok h₁ with
    ⟨rfl, rfl⟩ | ⟨url, rfl, hen, rfl⟩ | ⟨requested, sync, port, rfl, hen, hp, rfl⟩
  · cases r₂ with
    | disable =>
        simp [ColumnRequest.effect, Columns.deactivated, Columns.merge, mergeColumn, Anomaly]
    | update url storable =>
        have hen : c.enabled = false := by simpa using hread
        cases storable <;>
          simp [hen, ColumnRequest.effect, Columns.deactivated, Columns.merge, mergeColumn, Anomaly]
        all_goals grind
    | enable requested sync =>
        have hen : c.enabled = false := by simpa using hread
        cases hp : settledPort s others requested (c.remotePort :: others) <;>
          simp [hen, hp, ColumnRequest.effect, Columns.deactivated, Columns.activated,
            Columns.merge, mergeColumn, Anomaly]
        all_goals grind
  · cases r₂ with
    | disable =>
        simp [hen, ColumnRequest.effect, Columns.deactivated, Columns.merge, mergeColumn, Anomaly]
        grind
    | update url' storable =>
        cases storable <;>
          simp [hen, ColumnRequest.effect, Columns.merge, mergeColumn, Anomaly]
        all_goals grind
    | enable requested sync =>
        cases hp : settledPort s others requested (c.remotePort :: others) <;>
          simp [hen, hp, ColumnRequest.effect, Columns.activated, Columns.merge, mergeColumn,
            Anomaly]
        all_goals grind
  · cases r₂ with
    | disable =>
        simp [hen, hp, ColumnRequest.effect, Columns.deactivated, Columns.activated, Columns.merge,
          mergeColumn, Anomaly]
        grind
    | update url storable =>
        cases storable <;>
          simp [hen, hp, ColumnRequest.effect, Columns.activated, Columns.merge, mergeColumn,
            Anomaly]
        grind
    | enable requested' sync' =>
        simp [hen, hp, ColumnRequest.effect, Columns.activated, Columns.merge, mergeColumn, Anomaly]
        grind

/-- The second request, an `enable`, had settled on a port when the first one committed. -/
theorem serial_of_port (hport : c.remotePort ∉ others)
    (h₁ : r₁.effect s others c (c.remotePort :: others) = .ok c₁) {requested : Option Port}
    {sync : Bool} (hen : c.enabled = false) (o : Columns × Answer)
    (ho : o = (ColumnRequest.enable requested sync).outcome s others c (c.remotePort :: others)
      c₁) :
    SerialOutcome s others r₁ (.enable requested sync) c o.1 .success o.2 ↔
      ¬ Anomaly s others c r₁ (.enable requested sync) 3 := by
  rw [serialOutcome_iff hport, ho]
  clear hport ho
  unfold ColumnRequest.outcome
  rcases effect_eq_ok h₁ with
    ⟨rfl, rfl⟩ | ⟨url, rfl, -, rfl⟩ | ⟨requested', sync', port, rfl, -, hp', rfl⟩
  · cases hp : settledPort s others requested (c.remotePort :: others) <;>
      simp [hen, hp, ColumnRequest.effect, Columns.deactivated, Columns.activated, Columns.merge,
        mergeColumn, Anomaly]
    all_goals grind
  · cases hp : settledPort s others requested (c.remotePort :: others) <;>
      simp [hen, hp, ColumnRequest.effect, Columns.activated, Columns.merge, mergeColumn, Anomaly]
    all_goals grind
  · cases hp : settledPort s others requested (c.remotePort :: others) <;>
      simp [hen, hp, hp', ColumnRequest.effect, Columns.activated, Columns.merge, mergeColumn,
        Anomaly]

/-! ### How far a request is after some steps -/

variable {ι : Type*} {r : ι → ColumnRequest} {i : ι} {n : ℕ}

/-- Every request is answered after its number of steps. -/
theorem done_steps :
    (Interleavings.advance (columnStep s others r) i c (r i).steps .start).Done := by
  show ColumnStage.Done ((fun l => ((r i).step s others c l).2)^[(r i).steps] .start)
  cases r i with
  | enable requested sync =>
      simp only [ColumnRequest.steps, Function.iterate_succ_apply, Function.iterate_zero, id,
        ColumnRequest.step, ColumnRequest.readTunnel]
      by_cases hen : c.enabled = true
      · rw [if_pos hen]
        trivial
      · rw [if_neg hen]
        simp only
        cases choosePort s requested (c.remotePort :: others) with
        | error e => trivial
        | ok port => trivial
  | disable => trivial
  | update baseUrl storable =>
      simp only [ColumnRequest.steps, Function.iterate_succ_apply, Function.iterate_zero, id,
        ColumnRequest.step, ColumnRequest.readTunnel]
      by_cases hen : c.enabled = true
      · rw [if_pos hen]
        trivial
      · rw [if_neg hen]
        trivial

/-- A request that commits is not answered before its last step. -/
theorem not_done_of_effect (h : (r i).effect s others c (c.remotePort :: others) = .ok c₁)
    (hn : n < (r i).steps) :
    ¬ (Interleavings.advance (columnStep s others r) i c n .start).Done := by
  intro hdone
  have hlast := (readsFirst_columnStep s others r).fin_advance_mono
    (show n ≤ (r i).steps - 1 by omega) hdone
  revert hlast
  show ¬ ColumnStage.Done ((fun l => ((r i).step s others c l).2)^[(r i).steps - 1] .start)
  rcases effect_eq_ok h with
    ⟨hr, -⟩ | ⟨baseUrl, hr, hen, -⟩ | ⟨requested, sync, port, hr, hen, hport, -⟩
  · rw [hr]
    exact id
  · rw [hr]
    simp only [ColumnRequest.steps, Function.iterate_succ_apply, Function.iterate_zero, id,
      ColumnRequest.step, ColumnRequest.readTunnel, hen, Bool.false_eq_true, if_false]
    exact id
  · rw [hr]
    simp only [ColumnRequest.steps, Function.iterate_succ_apply, Function.iterate_zero, id,
      ColumnRequest.step, ColumnRequest.readTunnel, hen, Bool.false_eq_true, if_false]
    rw [choosePort_of_settledPort hport]
    exact id

/-- An `enable` or an update that is not answered after it read the tunnel row found the tunnel
disabled. -/
theorem enabled_of_not_done {q : ColumnRequest} (h : ¬ (q.readTunnel c).Done) :
    q = .disable ∨ c.enabled = false := by
  by_cases hen : c.enabled = true
  · cases q with
    | disable => exact Or.inl rfl
    | enable requested sync => exact absurd (by simp [ColumnRequest.readTunnel, hen]; trivial) h
    | update baseUrl storable => exact absurd (by simp [ColumnRequest.readTunnel, hen]; trivial) h
  · exact Or.inr (by simpa using hen)

/-- What a request that is not answered after some steps had read. -/
theorem reading_cases
    (h : ¬ (Interleavings.advance (columnStep s others r) i c n .start).Done) :
    n < (r i).steps ∧ (2 ≤ n → r i = .disable ∨ c.enabled = false) := by
  have hmono := readsFirst_columnStep s others r
  constructor
  · by_contra hge
    exact h (hmono.fin_advance_mono (by omega) done_steps)
  · intro hn
    refine enabled_of_not_done fun hdone => h (hmono.fin_advance_mono hn ?_)
    exact hdone

/-- An anomaly needs a request that had read something. -/
theorem one_le_of_anomaly (h : Anomaly s others c r₁ r₂ n) : 1 ≤ n := by
  unfold Anomaly at h
  split at h
  · exact h.2.2.1
  · exact h.2.2.1
  · omega
  · omega
  · obtain ⟨-, port, -, hn⟩ := h
    omega
  · obtain ⟨-, port, -, hn⟩ := h
    omega
  · exact absurd h id

/-- **A request that had read something when another one committed** goes on as in one of the two
orders exactly if there is no anomaly. -/
theorem resume_serial_iff (hport : c.remotePort ∉ others)
    (h₁ : r₁.effect s others c (c.remotePort :: others) = .ok c₁)
    (hn : ¬ (Interleavings.advance (columnStep s others r) i c n .start).Done)
    (o : Columns × Answer)
    (ho : o = (r i).finish s others c₁
      (Interleavings.advance (columnStep s others r) i c n .start)) :
    SerialOutcome s others r₁ (r i) c o.1 .success o.2 ↔ ¬ Anomaly s others c r₁ (r i) n := by
  obtain ⟨hlt, hread⟩ := reading_cases hn
  have hport₁ : c₁.remotePort ∉ others := port_effect hport h₁
  match n with
  | 0 =>
      -- the second request starts after the first one
      have hcall := call_of_effect hport h₁
      refine iff_of_true (Or.inl ?_) fun hanomaly => absurd (one_le_of_anomaly hanomaly) (by simp)
      unfold oneAfterOther
      rw [hcall, ho]
      rfl
  | 1 =>
      refine serial_of_device hport h₁ o (ho.trans ?_)
      exact (r i).finishFrom_eq_outcome hport₁ hport₁
  | 2 =>
      refine serial_of_rows hport h₁ (hread le_rfl) o (ho.trans ?_)
      refine ((r i).finish_readTunnel c c₁).trans ?_
      exact (r i).finishFrom_eq_outcome hport hport₁
  | n + 3 =>
      cases hr : r i with
      | disable =>
          rw [hr] at hlt
          simp [ColumnRequest.steps] at hlt
      | update baseUrl storable =>
          rw [hr] at hlt
          simp [ColumnRequest.steps] at hlt
      | enable requested sync =>
          rw [hr] at hlt
          simp only [ColumnRequest.steps] at hlt
          obtain rfl : n = 0 := by omega
          have hen : c.enabled = false := by simpa [hr] using hread
          refine serial_of_port hport h₁ hen o (ho.trans ?_)
          have hstage : Interleavings.advance (columnStep s others r) i c 3 .start =
              c.afterPort s sync (choosePort s requested (c.remotePort :: others)) := by
            show ((r i).step s others c ((r i).readTunnel c)).2 = _
            simp only [hr, ColumnRequest.readTunnel, hen, Bool.false_eq_true, if_false]
            rfl
          rw [hstage, ColumnRequest.finish_afterPort, Columns.finishPort_eq hport hport₁]
          unfold ColumnRequest.outcome ColumnRequest.effect
          simp only [hen, Bool.false_eq_true, if_false]
          cases settledPort s others requested (c.remotePort :: others) <;> rfl

end

/-! ### Two requests -/

/-- A schedule in which one request commits when what the other had read is an anomaly. -/
def Anomalous (r : Bool → ColumnRequest) (c : Columns) (sched : List Bool) : Prop :=
  ∃ pre i post, sched = pre ++ i :: post ∧ pre.count i + 1 = (r i).steps ∧
    pre.count (!i) < (r (!i)).steps ∧ Anomaly s others c (r i) (r (!i)) (pre.count (!i))

/-- Both requests were answered, and they did what the one after the other would have done. -/
def ColumnsSerial (r : Bool → ColumnRequest) (c : Columns)
    (e : Interleavings.Config Columns Bool ColumnStage) : Prop :=
  ∃ answer : Bool → Answer, (∀ i, e.2 i = .done (answer i)) ∧
    SerialOutcome s others (r false) (r true) c e.1 (answer false) (answer true)

section

variable {s others} {c c₁ : Columns} {r : Bool → ColumnRequest}

/-- The order in which the two requests are named does not matter. -/
theorem columnsSerial_iff {e : Interleavings.Config Columns Bool ColumnStage} {i : Bool}
    {a₁ a₂ : Answer} (h₁ : e.2 i = .done a₁) (h₂ : e.2 (!i) = .done a₂) :
    ColumnsSerial s others r c e ↔ SerialOutcome s others (r i) (r (!i)) c e.1 a₁ a₂ := by
  have hanswer : ∀ answer : Bool → Answer, (∀ k, e.2 k = .done (answer k)) →
      answer i = a₁ ∧ answer (!i) = a₂ := by
    intro answer h
    have hi := (h i).symm.trans h₁
    have hni := (h (!i)).symm.trans h₂
    exact ⟨ColumnStage.done.inj hi, ColumnStage.done.inj hni⟩
  constructor
  · rintro ⟨answer, h, hserial⟩
    obtain ⟨rfl, rfl⟩ := hanswer answer h
    cases i with
    | false => exact hserial
    | true => exact hserial.symm
  · intro hserial
    cases i with
    | false =>
        refine ⟨fun k => if k then a₂ else a₁, fun k => ?_, hserial⟩
        cases k with
        | false => exact h₁
        | true => exact h₂
    | true =>
        refine ⟨fun k => if k then a₁ else a₂, fun k => ?_, hserial.symm⟩
        cases k with
        | false => exact h₂
        | true => exact h₁

/-- The outcome of two requests, from the one that was answered first. -/
theorem final_columns {pre post : List Bool} {i : Bool}
    (hpre : ∀ k, ¬ ((final (Interleavings.exec (columnStep s others r)) (c, fun _ => .start)
      pre).2 k).Done)
    (hi : ((final (Interleavings.exec (columnStep s others r)) (c, fun _ => .start)
      (pre ++ [i])).2 i).Done)
    (hend : ∀ k, ((final (Interleavings.exec (columnStep s others r)) (c, fun _ => .start)
      (pre ++ i :: post)).2 k).Done) :
    let e := final (Interleavings.exec (columnStep s others r)) (c, fun _ => .start)
      (pre ++ i :: post)
    let o := (r (!i)).finish s others ((r i).call s others c).1
      (Interleavings.advance (columnStep s others r) (!i) c (pre.count (!i)) .start)
    e.2 i = .done ((r i).call s others c).2 ∧ e.2 (!i) = .done o.2 ∧ e.1 = o.1 := by
  intro e o
  have hreads := readsFirst_columnStep s others r
  obtain ⟨hdone, -, hfirst, hrest⟩ := Interleavings.final_split hreads hpre hi post
  have hcall : Interleavings.alone (columnStep s others r) i (pre.count i + 1) (c, .start) =
      (((r i).call s others c).1, .done ((r i).call s others c).2) :=
    ColumnRequest.alone_of_done hdone
  simp only [hcall] at hfirst hrest
  have hlast := hend (!i)
  have hfinish : (e.1, e.2 (!i)) = (o.1, .done o.2) := by
    refine hrest.trans (ColumnRequest.alone_of_done ?_)
    rw [← hrest]
    exact hlast
  exact ⟨hfirst, congrArg Prod.snd hfinish, congrArg Prod.fst hfinish⟩

/-- A request that goes on from what it had read on the same columns makes its call. -/
theorem finish_advance {ι : Type*} {r : ι → ColumnRequest} {i : ι} {n : ℕ}
    (hn : ¬ (Interleavings.advance (columnStep s others r) i c n .start).Done) :
    (r i).finish s others c (Interleavings.advance (columnStep s others r) i c n .start) =
      (r i).call s others c := by
  have hreads := readsFirst_columnStep s others r
  induction n with
  | zero => rfl
  | succ n ih =>
      have hprev := ih fun hdone => hn (hreads.fin_advance_mono (Nat.le_succ n) hdone)
      rw [Interleavings.advance_succ] at hn ⊢
      have hstep := ((r i).finish_step s others c
        (Interleavings.advance (columnStep s others r) i c n .start)).1
      -- a step that does not answer the request leaves the columns as they are
      have hsame : ((r i).step s others c
        (Interleavings.advance (columnStep s others r) i c n .start)).1 = c :=
        hreads.reads i c _ hn
      rw [hsame] at hstep
      exact hstep.trans hprev

/-- An `enable` that found the tunnel disabled and a port commits. -/
theorem effect_enable_ok {requested : Option Port} {ports : List ℤ} (sync : Bool)
    (hen : c.enabled = false) (hport : (settledPort s others requested ports).isSome) :
    ∃ c₁, (ColumnRequest.enable requested sync).effect s others c ports = .ok c₁ := by
  obtain ⟨port, hport⟩ := Option.isSome_iff_exists.1 hport
  exact ⟨c.activated s port sync, by simp [ColumnRequest.effect, hen, hport]⟩

/-- A storable update that found the tunnel disabled commits. -/
theorem effect_update_ok {ports : List ℤ} (baseUrl : Option String) (hen : c.enabled = false) :
    (ColumnRequest.update baseUrl true).effect s others c ports =
      .ok { c with baseUrl := baseUrl } := by
  simp [ColumnRequest.effect, hen]

/-- The requests of an anomaly: the first one commits, and the second one either would commit as
well or had read no more than the rows. -/
theorem anomaly_reads {r₁ r₂ : ColumnRequest} {n : ℕ} (h : Anomaly s others c r₁ r₂ n) :
    (∃ c₁, r₁.effect s others c (c.remotePort :: others) = .ok c₁) ∧
      ((∃ c₂, r₂.effect s others c (c.remotePort :: others) = .ok c₂) ∨ n = 1 ∨
        n = 2 ∧ ¬ (r₂.readTunnel c).Done) := by
  unfold Anomaly at h
  split at h
  · obtain ⟨hen, hport, -, -⟩ := h
    exact ⟨⟨_, effect_update_ok _ hen⟩, Or.inl (effect_enable_ok _ hen hport)⟩
  · obtain ⟨hen | rfl, hport, -, -⟩ := h
    · exact ⟨⟨_, rfl⟩, Or.inl (effect_enable_ok _ hen hport)⟩
    · exact ⟨⟨_, rfl⟩, Or.inr (Or.inl rfl)⟩
  · obtain ⟨-, rfl, -, -⟩ := h
    exact ⟨⟨_, rfl⟩, Or.inr (Or.inl rfl)⟩
  · obtain ⟨hen, hport, -, -⟩ := h
    exact ⟨effect_enable_ok _ hen hport, Or.inl ⟨_, effect_update_ok _ hen⟩⟩
  · obtain ⟨hen, port, hport, hn⟩ := h
    refine ⟨effect_enable_ok _ hen (by rw [hport]; rfl), ?_⟩
    rcases hn with ⟨rfl, -⟩ | ⟨rfl, hport'⟩
    · refine Or.inr (Or.inr ⟨rfl, ?_⟩)
      simp [ColumnRequest.readTunnel, hen, ColumnStage.Done]
    · exact Or.inl (effect_enable_ok _ hen hport')
  · obtain ⟨hen, port, hport, -⟩ := h
    exact ⟨effect_enable_ok _ hen (by rw [hport]; rfl), Or.inl ⟨_, rfl⟩⟩
  · exact absurd h id

/-- The second request of an anomaly had not been answered. -/
theorem not_done_of_anomaly {r₁ : ColumnRequest} {i : Bool} {n : ℕ} (hn : n < (r i).steps)
    (h : Anomaly s others c r₁ (r i) n) :
    ¬ (Interleavings.advance (columnStep s others r) i c n .start).Done := by
  rcases (anomaly_reads h).2 with ⟨c₂, h₂⟩ | rfl | ⟨rfl, hnot⟩
  · exact not_done_of_effect h₂ hn
  · exact id
  · exact hnot

/-- **Two requests are serializable exactly on the schedules without an anomaly.** -/
theorem columns_serial_iff (hport : c.remotePort ∉ others) {sched : List Bool}
    (hend : ∀ k, ((final (Interleavings.exec (columnStep s others r)) (c, fun _ => .start)
      sched).2 k).Done) :
    ColumnsSerial s others r c
        (final (Interleavings.exec (columnStep s others r)) (c, fun _ => .start) sched) ↔
      ¬ Anomalous s others r c sched := by
  have hreads := readsFirst_columnStep s others r
  constructor
  · -- an anomaly ends in no serial outcome
    rintro hserial ⟨pre, i, post, rfl, hcount, hlt, hanomaly⟩
    obtain ⟨c₁, h₁⟩ := (anomaly_reads hanomaly).1
    have hnot := not_done_of_anomaly hlt hanomaly
    have hreading : ∀ k, ¬ (Interleavings.advance (columnStep s others r) k c (pre.count k)
        .start).Done := by
      intro k
      by_cases hk : k = i
      · subst hk
        exact not_done_of_effect h₁ (by omega)
      · obtain rfl : k = !i := by cases k <;> cases i <;> simp_all
        exact hnot
    have hpre := Interleavings.not_fin_of_advance hreads (c := (c, fun _ => .start)) hreading
    have hi : ((final (Interleavings.exec (columnStep s others r)) (c, fun _ => .start)
        (pre ++ [i])).2 i).Done := by
      obtain ⟨hs, hl⟩ := Interleavings.final_reading hreads hpre
      rw [final_concat, Interleavings.exec_self, hs, hl i, ← Interleavings.advance_succ, hcount]
      exact done_steps
    obtain ⟨hans₁, hans₂, hcols⟩ := final_columns hpre hi hend
    rw [columnsSerial_iff hans₁ hans₂, hcols, call_of_effect hport h₁] at hserial
    exact (resume_serial_iff hport h₁ hnot _ rfl).1 hserial hanomaly
  · intro hnone
    obtain ⟨pre, i, post, rfl, hpre, hi⟩ := Interleavings.exists_first
      (c := (c, fun _ : Bool => ColumnStage.start)) (fun _ => id) hend
    obtain ⟨hs, hl⟩ := Interleavings.final_reading hreads hpre
    obtain ⟨hans₁, hans₂, hcols⟩ := final_columns hpre hi hend
    have hnot := hpre (!i)
    rw [hl] at hnot
    rw [columnsSerial_iff hans₁ hans₂, hcols]
    cases h₁ : (r i).effect s others c (c.remotePort :: others) with
    | error answer =>
        -- the first request changed nothing
        left
        unfold oneAfterOther
        rw [call_of_refused hport h₁, finish_advance hnot]
    | ok c₁ =>
        rw [call_of_effect hport h₁]
        refine (resume_serial_iff hport h₁ hnot _ rfl).2 fun hanomaly => hnone ?_
        refine ⟨pre, i, post, rfl, ?_, (reading_cases hnot).1, hanomaly⟩
        rw [final_concat, Interleavings.exec_self, hs, hl i, ← Interleavings.advance_succ] at hi
        have hbefore := hpre i
        rw [hl] at hbefore
        have hle := (reading_cases hbefore).1
        by_contra hne
        exact not_done_of_effect h₁ (n := pre.count i + 1) (by omega) hi

end

end SmsForwarder
