/-
**Concurrent rotations.**

A rotation disables the webhook rows it has loaded and adds a new one.  Rotations of one device that
run in parallel load their rows at different times, and a row that one of them commits is disabled
only by those that load their rows afterwards.

Main definitions:

* `SmsForwarder.RotateStage`, `SmsForwarder.rotateStep` — how far a rotation is, and its next step;
* `SmsForwarder.OneTokenLeft` — what rotations are for: of all tokens one is left;
* `SmsForwarder.LateCommit` — a rotation commits when all of them have loaded their rows;
* `SmsForwarder.RotateInvariant` — what holds in the middle of a schedule.

Main results:

* `SmsForwarder.rotate_alone` — a rotation that is alone does what `rotate` does;
* `SmsForwarder.rotateInvariant_concat` — every step keeps the invariant;
* `SmsForwarder.oneTokenLeft_iff` — **one token is left exactly when one rotation commits after all
  of them have loaded their rows**;
* `SmsForwarder.two_rotations_leave_two_tokens` — a schedule in which two do.
-/

import SmsForwarder.Interleavings
import SmsForwarder.WebhookService

set_option relaxedAutoImplicit false
set_option autoImplicit false

namespace SmsForwarder

open Tables Runs WebhookService
open Interleavings (Precedes)

/-! ### The steps of a rotation -/

/-- How far a rotation is. -/
inductive RotateStage
  | start
  /-- the webhook rows were read -/
  | items (items : List DeviceWebhook)
  /-- the device was read -/
  | commit (items : List DeviceWebhook)
  | done (answer : Except PyError IssuedToken)

/-- The stage after the query for the device. -/
def RotateStage.afterDevice (items : List DeviceWebhook) :
    Except PyError Device → RotateStage
  | .ok _ => .commit items
  | .error e => .done (.error e)

variable {ι : Type} (env : Env) (deviceId : String) (secret : ι → String)

/-- The end of a rotation, and the store it leaves. -/
def RotateStage.committed (db : Store) (token : IssuedToken) :
    Except PyError Store → Store × RotateStage
  | .ok db' => (db', .done (.ok token))
  | .error e => (db, .done (.error e))

/-- The next step of a rotation of the device. -/
def rotateStep (i : ι) (db : Store) : RotateStage → Store × RotateStage
  | .start => (db, .items (deviceItems db deviceId))
  | .items items => (db, .afterDevice items (requireDevice db deviceId))
  | .commit items =>
      RotateStage.committed db (issuedToken env (secret i)) (flushRotate env deviceId (secret i) items db)
  | .done answer => (db, .done answer)

/-- **A rotation that is alone does what `rotate` does.** -/
theorem rotate_alone (i : ι) (db : Store) :
    Interleavings.alone (rotateStep env deviceId secret) i 3 (db, .start) =
      ((attempt (rotate env db deviceId (secret i)) db).2,
        .done (attempt (rotate env db deviceId (secret i)) db).1) := by
  rw [Interleavings.alone_succ, Interleavings.alone_succ, Interleavings.alone_succ,
    Interleavings.alone_zero]
  unfold rotate
  simp only [rotateStep]
  cases requireDevice db deviceId with
  | error e => rfl
  | ok device =>
      simp only [RotateStage.afterDevice, bind, Except.bind]
      cases flushRotate env deviceId (secret i) (deviceItems db deviceId) db <;> rfl

/-- The configurations of rotations that run in parallel. -/
abbrev RotateConfig (ι : Type) := Interleavings.Config Store ι RotateStage

/-- The configuration after the steps of a schedule. -/
def rotateAll [DecidableEq ι] (db : Store) (sched : List ι) : RotateConfig ι :=
  final (Interleavings.exec (rotateStep env deviceId secret)) (db, fun _ => .start) sched

/-! ### What rotations are for -/

/-- Of all tokens of the device, those from before and those the rotations returned, one is left. -/
structure OneTokenLeft (before after : Store) : Prop where
  oneWebhook : ∃! w, w ∈ after.deviceWebhooks ∧ w.deviceId = deviceId ∧ w.enabled = true
  oneToken : ∃! i, ∃ w, lookup env after (newToken (secret i)) = .ok w
  oldRejected : ∀ token w, lookup env before token = .ok w → w.deviceId = deviceId →
    lookup env after token = .error (.app (UnauthorizedError "invalid webhook token"))

section

variable [DecidableEq ι]

/-- The rotation commits, with its third step, when all have loaded their rows, with their first. -/
def LateCommit (sched : List ι) (i : ι) : Prop := ∀ j, ¬ Precedes sched i 3 j 1

/-- The row of the rotation was loaded by one that has committed. -/
def Superseded (sched : List ι) (i : ι) : Prop :=
  ∃ j, 3 ≤ sched.count j ∧ Precedes sched i 3 j 1

/-! ### In the middle of a schedule -/

/-- The hash of the token of a rotation. -/
def rotatedHash (i : ι) : String := hashToken env (newToken (secret i))

/-- What the rows that a rotation has loaded say about the ones that are enabled now: those that
were committed since are missing. -/
structure Loaded (sched : List ι) (db : Store) (j : ι) (items : List DeviceWebhook) : Prop where
  known : ∀ item ∈ items, ∃ w ∈ db.deviceWebhooks, w.id = item.id
  disables_iff : ∀ w ∈ db.deviceWebhooks, w.deviceId = deviceId → w.enabled = true →
    (disables items w = true ↔ ∀ i, 3 ≤ sched.count i →
      w.webhookTokenHash = rotatedHash env secret i → Precedes sched i 3 j 1)

/-- What a rotation knows at each stage. -/
def RotateSound (sched : List ι) (db : Store) (j : ι) : RotateStage → Prop
  | .start => sched.count j = 0
  | .items items => sched.count j = 1 ∧ Loaded env deviceId secret sched db j items
  | .commit items => sched.count j = 2 ∧ Loaded env deviceId secret sched db j items
  | .done answer => 3 ≤ sched.count j ∧ ∃ token, answer = .ok token

/-- What holds after the steps of a schedule, if no rotation has failed. -/
structure RotateInvariant (db : Store) (sched : List ι) (c : RotateConfig ι) : Prop where
  admitted : c.1.Admitted env.schema
  stages : ∀ j, RotateSound env deviceId secret sched c.1 j (c.2 j)
  issued : ∀ i, 3 ≤ sched.count i → ∃ w ∈ c.1.deviceWebhooks,
    w.deviceId = deviceId ∧ w.webhookTokenHash = rotatedHash env secret i ∧
      (w.enabled = true ↔ ¬ Superseded sched i)
  enabled : ∀ w ∈ c.1.deviceWebhooks, w.deviceId = deviceId → w.enabled = true →
    (∃ i, 3 ≤ sched.count i ∧ w.webhookTokenHash = rotatedHash env secret i) ∨
      ∀ i, sched.count i < 3
  kept : ∀ w ∈ db.deviceWebhooks, ∃ w' ∈ c.1.deviceWebhooks,
    w'.deviceId = w.deviceId ∧ w'.webhookTokenHash = w.webhookTokenHash
  fresh : ∀ i, 3 ≤ sched.count i → ∀ w ∈ db.deviceWebhooks,
    w.webhookTokenHash ≠ rotatedHash env secret i
  distinct : ∀ i j, 3 ≤ sched.count i → 3 ≤ sched.count j →
    rotatedHash env secret i = rotatedHash env secret j → i = j

variable {env deviceId secret} {db : Store} {sched : List ι} {c : RotateConfig ι} {i : ι}

/-! ### Steps that leave the store alone -/

/-- Only a third step is a commit. -/
theorem committed_concat (h : sched.count i ≠ 2) (k : ι) :
    3 ≤ (sched ++ [i]).count k ↔ 3 ≤ sched.count k := by
  rw [Interleavings.count_concat]
  by_cases hk : i = k
  · subst hk
    rw [if_pos rfl]
    omega
  · rw [if_neg hk]
    omega

theorem superseded_concat (h : sched.count i ≠ 2) (k : ι) :
    Superseded (sched ++ [i]) k ↔ Superseded sched k := by
  unfold Superseded
  refine exists_congr fun j => ?_
  rw [committed_concat h]
  refine and_congr_right fun hj => ?_
  exact Interleavings.precedes_concat_of_le (by omega)

theorem Loaded.concat {j : ι} {items : List DeviceWebhook} (hi : sched.count i ≠ 2)
    (hj : 1 ≤ sched.count j) (h : Loaded env deviceId secret sched db j items) :
    Loaded env deviceId secret (sched ++ [i]) db j items where
  known := h.known
  disables_iff w hw hid hen := by
    rw [h.disables_iff w hw hid hen]
    refine forall_congr' fun k => ?_
    rw [committed_concat hi, Interleavings.precedes_concat_of_le hj]

/-- What a rotation knows survives a step of another one, if what it knows of its rows does. -/
theorem RotateSound.of_ne {j : ι} {db' : Store} {stage : RotateStage} (hj : j ≠ i)
    (hloaded : ∀ items, 1 ≤ sched.count j → Loaded env deviceId secret sched db j items →
      Loaded env deviceId secret (sched ++ [i]) db' j items)
    (h : RotateSound env deviceId secret sched db j stage) :
    RotateSound env deviceId secret (sched ++ [i]) db' j stage := by
  have hcount : (sched ++ [i]).count j = sched.count j := by
    rw [Interleavings.count_concat, if_neg (Ne.symm hj), Nat.add_zero]
  cases stage with
  | start => exact hcount.trans h
  | items items => exact ⟨hcount.trans h.1, hloaded items (by rw [h.1]) h.2⟩
  | commit items => exact ⟨hcount.trans h.1, hloaded items (by rw [h.1]; decide) h.2⟩
  | done answer => exact ⟨by rw [hcount]; exact h.1, h.2⟩

/-- A step that is no commit. -/
theorem RotateInvariant.quiet {stage : RotateStage}
    (h : RotateInvariant env deviceId secret db sched c) (hi : sched.count i ≠ 2)
    (hstage : RotateSound env deviceId secret (sched ++ [i]) c.1 i stage) :
    RotateInvariant env deviceId secret db (sched ++ [i]) (c.1, Function.update c.2 i stage) where
  admitted := h.admitted
  stages := by
    refine (Function.forall_update_iff c.2 fun j stage =>
      RotateSound env deviceId secret (sched ++ [i]) c.1 j stage).2 ⟨hstage, fun j hj => ?_⟩
    exact (h.stages j).of_ne hj fun items hcount hloaded => hloaded.concat hi hcount
  issued k hk := by
    rw [superseded_concat hi]
    exact h.issued k ((committed_concat hi k).1 hk)
  enabled w hw hid hen := by
    rcases h.enabled w hw hid hen with ⟨k, hk, hhash⟩ | hnone
    · exact Or.inl ⟨k, (committed_concat hi k).2 hk, hhash⟩
    · refine Or.inr fun k => ?_
      have hk := hnone k
      rw [← not_le] at hk ⊢
      rwa [committed_concat hi]
  kept := h.kept
  fresh k hk := h.fresh k ((committed_concat hi k).1 hk)
  distinct k k' hk hk' :=
    h.distinct k k' ((committed_concat hi k).1 hk) ((committed_concat hi k').1 hk')

/-- The rows are loaded: all enabled ones of the device. -/
theorem loaded_deviceItems (hi : sched.count i = 0) :
    Loaded env deviceId secret (sched ++ [i]) db i (deviceItems db deviceId) where
  known item hitem := ⟨item, (List.mem_filter.1 hitem).1, rfl⟩
  disables_iff w hw hid hen := by
    refine iff_of_true ?_ fun k hk _ => ?_
    · unfold disables deviceItems
      rw [List.any_eq_true]
      exact ⟨w, List.mem_filter.2 ⟨hw, by simpa using hid⟩, by simp [hen]⟩
    · have hki : k ≠ i := by
        rintro rfl
        rw [Interleavings.count_concat, hi] at hk
        simp at hk
      rw [Interleavings.count_concat, if_neg (Ne.symm hki), Nat.add_zero] at hk
      exact ⟨sched, List.prefix_append _ _, hk, by omega⟩

/-! ### Commits -/

/-- A row after the flush of the loaded rows. -/
def flushedWebhook (items : List DeviceWebhook) (w : DeviceWebhook) : DeviceWebhook :=
  { w with enabled := w.enabled && !disables items w }

theorem enabled_flushedWebhook {items : List DeviceWebhook} {w : DeviceWebhook} :
    (flushedWebhook items w).enabled = true ↔ w.enabled = true ∧ disables items w ≠ true := by
  simp [flushedWebhook]

/-- The row that a rotation adds. -/
def rotatedRow (env : Env) (deviceId secret : String) (items : List DeviceWebhook) (db : Store) :
    DeviceWebhook :=
  { newWebhook env deviceId secret with
    id := nextKey DeviceWebhook.id (db.deviceWebhooks.map (flushedWebhook items)) }

/-- All that the commit of a rotation can do. -/
theorem flushRotate_eq_ok {secret : String} {items : List DeviceWebhook} {db' : Store}
    (h : flushRotate env deviceId secret items db = .ok db') :
    db'.Admitted env.schema ∧ ∀ w, w ∈ db'.deviceWebhooks ↔
      (∃ old ∈ db.deviceWebhooks, flushedWebhook items old = w) ∨
        w = rotatedRow env deviceId secret items db := by
  obtain ⟨rfl, hadm⟩ := commit_eq_ok.1 h
  refine ⟨hadm, fun w => ?_⟩
  rw [writeDisabled_eq]
  simp only [Store.insertWebhook, List.mem_append, List.mem_map, List.mem_singleton]
  exact Iff.rfl

/-- The identifier of the new row is larger than those of the rows there were. -/
theorem id_ne_rotatedRow {secret : String} {items : List DeviceWebhook} {old : DeviceWebhook}
    (h : old ∈ db.deviceWebhooks) : old.id ≠ (rotatedRow env deviceId secret items db).id := by
  have hlt : (flushedWebhook items old).id <
      nextKey DeviceWebhook.id (db.deviceWebhooks.map (flushedWebhook items)) :=
    lt_nextKey (List.mem_map_of_mem h)
  exact Nat.ne_of_lt hlt

/-- The hash of the new token is new. -/
theorem hash_ne_rotatedRow {secret : String} {items : List DeviceWebhook} {db' : Store}
    (h : flushRotate env deviceId secret items db = .ok db') {old : DeviceWebhook}
    (hold : old ∈ db.deviceWebhooks) :
    old.webhookTokenHash ≠ hashToken env (newToken secret) := by
  obtain ⟨hadm, hrows⟩ := flushRotate_eq_ok h
  intro hhash
  have heq : flushedWebhook items old = rotatedRow env deviceId secret items db :=
    hadm.2.2.2.1.2.eq ((hrows _).2 (Or.inl ⟨old, hold, rfl⟩)) ((hrows _).2 (Or.inr rfl)) hhash
  have hid : (flushedWebhook items old).id = (rotatedRow env deviceId secret items db).id :=
    congrArg DeviceWebhook.id heq
  exact id_ne_rotatedRow hold hid

/-- A third step is a commit. -/
theorem committed_commit (hi : sched.count i = 2) (k : ι) :
    3 ≤ (sched ++ [i]).count k ↔ 3 ≤ sched.count k ∨ k = i := by
  rw [Interleavings.count_concat]
  by_cases hk : i = k
  · subst hk
    simp [hi]
  · simp [hk, Ne.symm hk]

/-- A rotation that has committed supersedes those whose rows it had loaded. -/
theorem superseded_commit (hi : sched.count i = 2) (k : ι) :
    Superseded (sched ++ [i]) k ↔ Superseded sched k ∨ Precedes sched k 3 i 1 := by
  have hcount := committed_commit hi
  unfold Superseded
  constructor
  · rintro ⟨j, hj, hprec⟩
    rcases (hcount j).1 hj with hj | rfl
    · rw [Interleavings.precedes_concat_of_le (by omega)] at hprec
      exact Or.inl ⟨j, hj, hprec⟩
    · rw [Interleavings.precedes_concat_of_le (by omega)] at hprec
      exact Or.inr hprec
  · rintro (⟨j, hj, hprec⟩ | hprec)
    · exact ⟨j, (hcount j).2 (Or.inl hj),
        (Interleavings.precedes_concat_of_le (by omega)).2 hprec⟩
    · exact ⟨i, (hcount i).2 (Or.inr rfl),
        (Interleavings.precedes_concat_of_le (by omega)).2 hprec⟩

/-- Another session that has loaded its rows, when a rotation commits. -/
theorem Loaded.commit {j : ι} {items loaded : List DeviceWebhook} {db' : Store}
    (hi : sched.count i = 2) (hj : 1 ≤ sched.count j)
    (hflush : flushRotate env deviceId (secret i) items db = .ok db')
    (h : Loaded env deviceId secret sched db j loaded) :
    Loaded env deviceId secret (sched ++ [i]) db' j loaded := by
  obtain ⟨-, hrows⟩ := flushRotate_eq_ok hflush
  have hcount := committed_commit hi
  refine ⟨fun item hitem => ?_, fun w hw hid hen => ?_⟩
  · obtain ⟨old, hold, hid⟩ := h.known item hitem
    exact ⟨flushedWebhook items old, (hrows _).2 (Or.inl ⟨old, hold, rfl⟩), hid⟩
  · rcases (hrows w).1 hw with ⟨old, hold, rfl⟩ | rfl
    · obtain ⟨hen, -⟩ := enabled_flushedWebhook.1 hen
      have hdis : disables loaded (flushedWebhook items old) = disables loaded old := rfl
      rw [hdis, h.disables_iff old hold hid hen]
      constructor
      · intro hall k hk hhash
        rw [Interleavings.precedes_concat_of_le hj]
        rcases (hcount k).1 hk with hk | rfl
        · exact hall k hk hhash
        · have hne : old.webhookTokenHash ≠ rotatedHash env secret k :=
            hash_ne_rotatedRow hflush hold
          exact absurd hhash hne
      · intro hall k hk hhash
        rw [← Interleavings.precedes_concat_of_le hj]
        exact hall k ((hcount k).2 (Or.inl hk)) hhash
    · refine iff_of_false (fun hdis => ?_) fun hall => ?_
      · unfold disables at hdis
        rw [List.any_eq_true] at hdis
        obtain ⟨item, hitem, hmatch⟩ := hdis
        rw [Bool.and_eq_true, decide_eq_true_eq] at hmatch
        obtain ⟨old, hold, hid⟩ := h.known item hitem
        exact id_ne_rotatedRow hold (hid.trans hmatch.1)
      · have hprec := hall i ((hcount i).2 (Or.inr rfl)) rfl
        rw [Interleavings.precedes_concat_of_le hj] at hprec
        exact Interleavings.not_precedes (by omega) hprec

/-- After the commit, the row of an earlier rotation is enabled exactly if it is not superseded. -/
theorem RotateInvariant.enabled_committed {items : List DeviceWebhook}
    (h : RotateInvariant env deviceId secret db sched c) (hcount : sched.count i = 2)
    (hloaded : Loaded env deviceId secret sched c.1 i items) {k : ι} (hk : 3 ≤ sched.count k)
    {old : DeviceWebhook} (hold : old ∈ c.1.deviceWebhooks) (hid : old.deviceId = deviceId)
    (hhash : old.webhookTokenHash = rotatedHash env secret k)
    (hen : old.enabled = true ↔ ¬ Superseded sched k) :
    (flushedWebhook items old).enabled = true ↔ ¬ Superseded (sched ++ [i]) k := by
  rw [enabled_flushedWebhook, superseded_commit hcount, not_or, ← hen]
  refine and_congr_right fun hon => ?_
  rw [not_iff_not, hloaded.disables_iff old hold hid hon]
  constructor
  · intro hall
    exact hall k hk hhash
  · intro hprec k' hk' hhash'
    rwa [h.distinct k' k hk' hk (hhash'.symm.trans hhash)]

/-- The token of the rotation that commits is none of the earlier ones. -/
theorem RotateInvariant.distinct_committed {items : List DeviceWebhook} {db' : Store}
    (h : RotateInvariant env deviceId secret db sched c) (hcount : sched.count i = 2)
    (hflush : flushRotate env deviceId (secret i) items c.1 = .ok db') {k k' : ι}
    (hk : 3 ≤ (sched ++ [i]).count k) (hk' : 3 ≤ (sched ++ [i]).count k')
    (heq : rotatedHash env secret k = rotatedHash env secret k') : k = k' := by
  have hthree := committed_commit hcount
  have hother : ∀ k, 3 ≤ sched.count k →
      rotatedHash env secret k ≠ rotatedHash env secret i := by
    intro k hk heq
    obtain ⟨old, hold, -, hhash, -⟩ := h.issued k hk
    exact hash_ne_rotatedRow hflush hold (hhash.trans heq)
  rcases (hthree k).1 hk with hold | rfl
  · rcases (hthree k').1 hk' with hold' | rfl
    · exact h.distinct k k' hold hold' heq
    · exact absurd heq (hother k hold)
  · rcases (hthree k').1 hk' with hold' | rfl
    · exact absurd heq.symm (hother k' hold')
    · rfl

/-- The commit of a rotation. -/
theorem RotateInvariant.commit {items : List DeviceWebhook} {db' : Store}
    (h : RotateInvariant env deviceId secret db sched c) (hi : c.2 i = .commit items)
    (hflush : flushRotate env deviceId (secret i) items c.1 = .ok db') :
    RotateInvariant env deviceId secret db (sched ++ [i])
      (db', Function.update c.2 i (.done (.ok (issuedToken env (secret i))))) := by
  have hsound := h.stages i
  rw [hi] at hsound
  obtain ⟨hcount, hloaded⟩ := hsound
  obtain ⟨hadm, hrows⟩ := flushRotate_eq_ok hflush
  have hthree := committed_commit hcount
  have hlate : ¬ Superseded (sched ++ [i]) i := by
    rw [superseded_commit hcount]
    rintro (⟨j, -, hprec⟩ | hprec)
    · exact Interleavings.not_precedes (by omega) hprec
    · exact Interleavings.not_precedes (by omega) hprec
  refine ⟨hadm, ?_, fun k hk => ?_, fun w hw hid hen => ?_, fun w hw => ?_,
    fun k hk w hw => ?_, fun _ _ hk hk' heq => h.distinct_committed hcount hflush hk hk' heq⟩
  · refine (Function.forall_update_iff c.2 fun j stage =>
      RotateSound env deviceId secret (sched ++ [i]) db' j stage).2
        ⟨⟨(hthree i).2 (Or.inr rfl), _, rfl⟩, fun j hj => ?_⟩
    exact (h.stages j).of_ne hj fun items hj hloaded => hloaded.commit hcount hj hflush
  · rcases (hthree k).1 hk with hk | rfl
    · obtain ⟨old, hold, hid, hhash, hen⟩ := h.issued k hk
      exact ⟨flushedWebhook items old, (hrows _).2 (Or.inl ⟨old, hold, rfl⟩), hid, hhash,
        h.enabled_committed hcount hloaded hk hold hid hhash hen⟩
    · exact ⟨_, (hrows _).2 (Or.inr rfl), rfl, rfl, iff_of_true rfl hlate⟩
  · rcases (hrows w).1 hw with ⟨old, hold, rfl⟩ | rfl
    · obtain ⟨hon, hkept⟩ := enabled_flushedWebhook.1 hen
      rcases h.enabled old hold hid hon with ⟨k, hk, hhash⟩ | hnone
      · exact Or.inl ⟨k, (hthree k).2 (Or.inl hk), hhash⟩
      · -- the first commit disables every row from before
        refine absurd ((hloaded.disables_iff old hold hid hon).2 fun k hk _ => ?_) hkept
        have hlt := hnone k
        omega
    · exact Or.inl ⟨i, (hthree i).2 (Or.inr rfl), rfl⟩
  · obtain ⟨old, hold, hid, hhash⟩ := h.kept w hw
    exact ⟨flushedWebhook items old, (hrows _).2 (Or.inl ⟨old, hold, rfl⟩), hid, hhash⟩
  · rcases (hthree k).1 hk with hk | rfl
    · exact h.fresh k hk w hw
    · obtain ⟨old, hold, -, hhash⟩ := h.kept w hw
      rw [← hhash]
      exact hash_ne_rotatedRow hflush hold

/-! ### Whole schedules -/

/-- No rotation has failed. -/
def NoneFailed (c : RotateConfig ι) : Prop := ∀ j e, c.2 j ≠ .done (.error e)

/-- A rotation that has failed stays so. -/
theorem noneFailed_of_exec
    (h : NoneFailed (Interleavings.exec (rotateStep env deviceId secret) c i).2) :
    NoneFailed c := by
  intro j e hj
  refine h j e ?_
  by_cases hij : j = i
  · subst hij
    rw [Interleavings.exec_self, hj]
    rfl
  · rw [Interleavings.exec_of_ne _ hij]
    exact hj

/-- **Every step keeps the invariant**, as long as no rotation fails. -/
theorem rotateInvariant_concat (h : RotateInvariant env deviceId secret db sched c)
    (hok : NoneFailed (Interleavings.exec (rotateStep env deviceId secret) c i).2) :
    RotateInvariant env deviceId secret db (sched ++ [i])
      (Interleavings.exec (rotateStep env deviceId secret) c i).2 := by
  have hsound := h.stages i
  have hfailed := hok i
  rw [Interleavings.exec_self] at hfailed
  unfold Interleavings.exec
  cases hst : c.2 i with
  | start =>
      rw [hst] at hsound
      have hcount : sched.count i = 0 := hsound
      refine h.quiet (by omega) ⟨?_, loaded_deviceItems hcount⟩
      rw [Interleavings.count_concat, if_pos rfl, hcount]
  | items items =>
      rw [hst] at hsound hfailed
      have hcount := hsound.1
      cases hd : requireDevice c.1 deviceId with
      | error e => exact absurd (by simp only [rotateStep, hd, RotateStage.afterDevice]) (hfailed e)
      | ok device =>
          simp only [rotateStep, hd, RotateStage.afterDevice]
          refine h.quiet (by omega) ⟨?_, hsound.2.concat (by omega) (by omega)⟩
          rw [Interleavings.count_concat, if_pos rfl, hcount]
  | commit items =>
      rw [hst] at hfailed
      cases hflush : flushRotate env deviceId (secret i) items c.1 with
      | error e =>
          exact absurd (by simp only [rotateStep, hflush, RotateStage.committed]) (hfailed e)
      | ok db' =>
          simp only [rotateStep, hflush, RotateStage.committed]
          exact h.commit hst hflush
  | done answer =>
      rw [hst] at hsound
      have hcount := hsound.1
      refine h.quiet (by omega) ⟨?_, hsound.2⟩
      rw [Interleavings.count_concat]
      omega

theorem rotateInvariant_start (hadm : db.Admitted env.schema) :
    RotateInvariant env deviceId secret db [] (db, fun _ => .start) where
  admitted := hadm
  stages _ := rfl
  issued i hi := by simp at hi
  enabled _ _ _ _ := Or.inr fun i => by simp
  kept w hw := ⟨w, hw, rfl, rfl⟩
  fresh i hi := by simp at hi
  distinct i _ hi := by simp at hi

/-- The invariant holds after every schedule in which no rotation failed. -/
theorem rotateInvariant_rotateAll (hadm : db.Admitted env.schema) (sched : List ι)
    (hok : NoneFailed (rotateAll env deviceId secret db sched)) :
    RotateInvariant env deviceId secret db sched (rotateAll env deviceId secret db sched) := by
  unfold rotateAll at hok ⊢
  induction sched using List.reverseRecOn with
  | nil => exact rotateInvariant_start hadm
  | append_singleton sched i ih =>
      rw [final_concat] at hok ⊢
      exact rotateInvariant_concat (ih (noneFailed_of_exec hok)) hok

/-! ### Once all have committed -/

/-- Every rotation has committed. -/
def AllCommitted (c : RotateConfig ι) : Prop := ∀ i, ∃ token, c.2 i = .done (.ok token)

theorem AllCommitted.count_le (hall : AllCommitted c)
    (h : RotateInvariant env deviceId secret db sched c) (i : ι) : 3 ≤ sched.count i := by
  have hsound := h.stages i
  obtain ⟨token, htoken⟩ := hall i
  rw [htoken] at hsound
  exact hsound.1

omit [DecidableEq ι] in
theorem AllCommitted.noneFailed (hall : AllCommitted c) : NoneFailed c := by
  intro i e hi
  obtain ⟨token, htoken⟩ := hall i
  rw [htoken] at hi
  simp at hi

/-- When all rotations have committed, the enabled rows of the device are those of the rotations
that committed late. -/
theorem enabled_iff_late [Nonempty ι] (h : RotateInvariant env deviceId secret db sched c)
    (hall : AllCommitted c) {w : DeviceWebhook} (hw : w ∈ c.1.deviceWebhooks) :
    w.deviceId = deviceId ∧ w.enabled = true ↔
      ∃ i, LateCommit sched i ∧ w.webhookTokenHash = rotatedHash env secret i := by
  have hcount := hall.count_le h
  have hlate : ∀ i, LateCommit sched i ↔ ¬ Superseded sched i := by
    intro i
    unfold LateCommit Superseded
    simp [hcount]
  have hu := h.admitted.2.2.2.1.2
  constructor
  · rintro ⟨hid, hen⟩
    rcases h.enabled w hw hid hen with ⟨i, hi, hhash⟩ | hnone
    · obtain ⟨w', hw', -, hhash', hiff⟩ := h.issued i hi
      obtain rfl := hu.eq hw hw' (hhash.trans hhash'.symm)
      exact ⟨i, (hlate i).2 (hiff.1 hen), hhash⟩
    · obtain ⟨i⟩ := ‹Nonempty ι›
      have hlt := hnone i
      have hge := hcount i
      omega
  · rintro ⟨i, hi, hhash⟩
    obtain ⟨w', hw', hid, hhash', hiff⟩ := h.issued i (hcount i)
    obtain rfl := hu.eq hw hw' (hhash.trans hhash'.symm)
    exact ⟨hid, hiff.2 ((hlate i).1 hi)⟩

/-- When all rotations have committed, the tokens of those that committed late are accepted. -/
theorem accepted_iff_late [Nonempty ι] (h : RotateInvariant env deviceId secret db sched c)
    (hall : AllCommitted c) (i : ι) :
    (∃ w, lookup env c.1 (newToken (secret i)) = .ok w) ↔ LateCommit sched i := by
  have hcount := hall.count_le h
  have hu := h.admitted.2.2.2.1.2
  obtain ⟨w, hw, hid, hhash, -⟩ := h.issued i (hcount i)
  constructor
  · rintro ⟨w', hfound⟩
    obtain ⟨hw', hhash', hen⟩ := (lookup_eq_ok hu).1 hfound
    obtain rfl := hu.eq hw' hw (hhash'.trans hhash.symm)
    obtain ⟨k, hk, hkhash⟩ := (enabled_iff_late h hall hw).1 ⟨hid, hen⟩
    rwa [h.distinct i k (hcount i) (hcount k) (hhash.symm.trans hkhash)]
  · intro hi
    have hen := ((enabled_iff_late h hall hw).2 ⟨i, hi, hhash⟩).2
    exact ⟨w, (lookup_eq_ok hu).2 ⟨hw, hhash, hen⟩⟩

/-- When all rotations have committed, no token from before is accepted. -/
theorem old_rejected [Nonempty ι] (hadm : db.Admitted env.schema)
    (h : RotateInvariant env deviceId secret db sched c) (hall : AllCommitted c) {token : String}
    {w : DeviceWebhook} (hw : lookup env db token = .ok w) (hid : w.deviceId = deviceId) :
    lookup env c.1 token = .error (.app (UnauthorizedError "invalid webhook token")) := by
  have hu := h.admitted.2.2.2.1.2
  obtain ⟨hmem, hhash, -⟩ := (lookup_eq_ok hadm.2.2.2.1.2).1 hw
  obtain ⟨w', hw', hid', hhash'⟩ := h.kept w hmem
  rcases lookup_eq hu with ⟨found, hfound, hfhash, hen, -⟩ | ⟨-, herr⟩
  · -- an enabled row of the device has the hash of a new token
    obtain rfl := hu.eq hw' hfound (hhash'.trans (hhash.trans hfhash.symm))
    obtain ⟨k, -, hkhash⟩ := (enabled_iff_late h hall hw').1 ⟨hid'.trans hid, hen⟩
    exact absurd (hhash'.symm.trans hkhash) (h.fresh k (hall.count_le h k) w hmem)
  · exact herr

end

variable [DecidableEq ι]

/-- **Rotations that run in parallel** leave one token exactly when one of them commits after all
have loaded their rows.  Each of the others then has its row loaded, and disabled, by a rotation
that loads its rows after the commit. -/
theorem oneTokenLeft_iff [Nonempty ι] (db : Store) (hadm : db.Admitted env.schema)
    (sched : List ι) (hall : AllCommitted (rotateAll env deviceId secret db sched)) :
    OneTokenLeft env deviceId secret db (rotateAll env deviceId secret db sched).1 ↔
      ∃! i, LateCommit sched i := by
  have h := rotateInvariant_rotateAll hadm sched hall.noneFailed
  have haccepted := accepted_iff_late h hall
  constructor
  · intro hone
    obtain ⟨i, hi, huniq⟩ := hone.oneToken
    exact ⟨i, (haccepted i).1 hi, fun k hk => huniq k ((haccepted k).2 hk)⟩
  · rintro ⟨i, hi, huniq⟩
    refine ⟨?_, ⟨i, (haccepted i).2 hi, fun k hk => huniq k ((haccepted k).1 hk)⟩,
      fun token w hw hid => old_rejected hadm h hall hw hid⟩
    obtain ⟨w, hw, -, hhash, -⟩ := h.issued i (hall.count_le h i)
    refine ⟨w, ⟨hw, (enabled_iff_late h hall hw).2 ⟨i, hi, hhash⟩⟩, ?_⟩
    rintro w' ⟨hw', hon⟩
    obtain ⟨k, hk, hkhash⟩ := (enabled_iff_late h hall hw').1 hon
    obtain rfl := huniq k hk
    exact h.admitted.2.2.2.1.2.eq hw' hw (hkhash.trans hhash.symm)

/-- A device with one webhook. -/
def rotatedDevice : Store :=
  let db := Store.empty.insertDevice (DeviceService.newDevice (plainEnv ormSchema) Uuid.nil 0 {})
  db.insertWebhook (newWebhook (plainEnv ormSchema) (generateDeviceId Uuid.nil) "old")

/-- The random parts of the tokens of two rotations. -/
def twoSecrets (b : Bool) : String := if b then "b" else "a"

/-- The second of two rotations loads its rows when the first one has committed. -/
def rotatedInTurn : List Bool := [false, false, false, true, true, true]

theorem lateCommit_rotatedInTurn : ∃! i, LateCommit rotatedInTurn i := by
  refine ⟨true, fun j => by cases j <;> decide, fun i hi => ?_⟩
  cases i with
  | false => exact absurd (by decide) (hi true)
  | true => rfl

/-- One after the other, two rotations leave one token. -/
theorem one_by_one_oneTokenLeft :
    OneTokenLeft (plainEnv ormSchema) (generateDeviceId Uuid.nil) twoSecrets rotatedDevice
      (rotateAll (plainEnv ormSchema) (generateDeviceId Uuid.nil) twoSecrets rotatedDevice
        rotatedInTurn).1 :=
  (oneTokenLeft_iff (plainEnv ormSchema) (generateDeviceId Uuid.nil) twoSecrets rotatedDevice
    (by decide) rotatedInTurn (by intro i; cases i <;> exact ⟨_, rfl⟩)).2 lateCommit_rotatedInTurn

/-- **Two rotations that load the rows before either commits** leave two webhooks enabled. -/
theorem two_rotations_leave_two_tokens :
    rotatedDevice.Admitted (plainEnv ormSchema).schema ∧
      AllCommitted (rotateAll (plainEnv ormSchema) (generateDeviceId Uuid.nil) twoSecrets
        rotatedDevice [false, false, true, true, false, true]) ∧
      ¬ OneTokenLeft (plainEnv ormSchema) (generateDeviceId Uuid.nil) twoSecrets rotatedDevice
        (rotateAll (plainEnv ormSchema) (generateDeviceId Uuid.nil) twoSecrets rotatedDevice
          [false, false, true, true, false, true]).1 := by
  refine ⟨by decide, by intro i; cases i <;> exact ⟨_, rfl⟩, fun h => ?_⟩
  obtain ⟨i, -, huniq⟩ := h.oneToken
  have hfalse : false = i := huniq false ⟨_, rfl⟩
  have htrue : true = i := huniq true ⟨_, rfl⟩
  exact absurd (hfalse.trans htrue.symm) (by decide)

end SmsForwarder
