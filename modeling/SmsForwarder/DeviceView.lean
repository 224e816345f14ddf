/-
**The store as one device sees it.**

The rows of all devices are in the same tables.  What postings for other devices write, and nothing
else, is taken out of the store: the rows of the other devices and of their webhooks become what
they were before the first posting, their commands what they were before the query, and their events
are left out.  What is left is a store that the database could hold, and a commit succeeds in it if
it does in the whole one.

Main definitions:

* `SmsForwarder.quietDevice`, `SmsForwarder.quietWebhook`, `SmsForwarder.quietLog` — the rows of the
  other devices;
* `SmsForwarder.renumbered`, `SmsForwarder.unnumbered` — events up to their row identifiers;
* `SmsForwarder.seenBy` — the store as a device sees it;
* `SmsForwarder.OthersAdmitted` — the database accepts what is taken out.

Main results:

* `SmsForwarder.commit_seenBy` — **a commit of what the device sees ends as the commit of the
  whole**;
* `SmsForwarder.seenBy_seenBy` — nothing is left to be taken out.
-/

import SmsForwarder.Store

set_option relaxedAutoImplicit false
set_option autoImplicit false

namespace SmsForwarder

open Tables

/-! ### Rows -/

/-- The row of a device; another device is as if no webhook of it had been called. -/
def quietDevice (deviceId : String) (d : Device) : Device :=
  if d.deviceId = deviceId then d
  else
    { d with
      status := "inactive"
      isActive := false
      lastSeenAt := none
      lastWebhookAt := none
      webhookCount := 0 }

/-- The row of a webhook; that of another device is as if it had not been called. -/
def quietWebhook (deviceId : String) (w : DeviceWebhook) : DeviceWebhook :=
  if w.deviceId = deviceId then w else { w with lastCalledAt := none, calledCount := 0 }

/-- The row of a command; that of another device is as it was before the query. -/
def quietLog (deviceId : String) (l : DeviceCommandLog) : DeviceCommandLog :=
  if l.deviceId = deviceId then l
  else
    { l with
      status := "pending"
      responseSummary := .obj []
      errorMsg := none
      completedAt := none }

/-- The event without its row identifier. -/
def unnumbered (e : DeviceEvent) : DeviceEvent := { e with id := 0 }

/-- The events under the row identifiers they would have in a table of their own. -/
def renumbered (rows : List DeviceEvent) : List DeviceEvent :=
  rows.mapIdx fun i e => { e with id := i + 1 }

/-- The events of a device. -/
def ownEvents (deviceId : String) (db : Store) : List DeviceEvent :=
  db.deviceEvents.filter fun e => e.deviceId = deviceId

/-- The store as a device sees it. -/
def seenBy (deviceId : String) (db : Store) : Store where
  devices := db.devices.map (quietDevice deviceId)
  deviceTunnels := db.deviceTunnels
  deviceWebhooks := db.deviceWebhooks.map (quietWebhook deviceId)
  deviceEvents := renumbered (ownEvents deviceId db)
  deviceCommandLogs := db.deviceCommandLogs.map (quietLog deviceId)
  auditLogs := db.auditLogs

section

variable {deviceId : String}

theorem quietDevice_self {d : Device} (h : d.deviceId = deviceId) : quietDevice deviceId d = d :=
  if_pos h

theorem quietWebhook_self {w : DeviceWebhook} (h : w.deviceId = deviceId) :
    quietWebhook deviceId w = w := if_pos h

theorem quietLog_self {l : DeviceCommandLog} (h : l.deviceId = deviceId) :
    quietLog deviceId l = l := if_pos h

@[simp] theorem quietDevice_id (d : Device) : (quietDevice deviceId d).id = d.id := by
  unfold quietDevice
  split <;> rfl

@[simp] theorem quietDevice_deviceId (d : Device) :
    (quietDevice deviceId d).deviceId = d.deviceId := by
  unfold quietDevice
  split <;> rfl

@[simp] theorem quietDevice_channelType (d : Device) :
    (quietDevice deviceId d).channelType = d.channelType := by
  unfold quietDevice
  split <;> rfl

@[simp] theorem quietWebhook_id (w : DeviceWebhook) : (quietWebhook deviceId w).id = w.id := by
  unfold quietWebhook
  split <;> rfl

@[simp] theorem quietWebhook_deviceId (w : DeviceWebhook) :
    (quietWebhook deviceId w).deviceId = w.deviceId := by
  unfold quietWebhook
  split <;> rfl

@[simp] theorem quietWebhook_hash (w : DeviceWebhook) :
    (quietWebhook deviceId w).webhookTokenHash = w.webhookTokenHash := by
  unfold quietWebhook
  split <;> rfl

theorem fits_quietWebhook (w : DeviceWebhook) : (quietWebhook deviceId w).fits = w.fits := by
  unfold quietWebhook
  split <;> rfl

@[simp] theorem quietLog_id (l : DeviceCommandLog) : (quietLog deviceId l).id = l.id := by
  unfold quietLog
  split <;> rfl

@[simp] theorem quietLog_requestId (l : DeviceCommandLog) :
    (quietLog deviceId l).requestId = l.requestId := by
  unfold quietLog
  split <;> rfl

@[simp] theorem quietLog_deviceId (l : DeviceCommandLog) :
    (quietLog deviceId l).deviceId = l.deviceId := by
  unfold quietLog
  split <;> rfl

theorem quietDevice_quietDevice (d : Device) :
    quietDevice deviceId (quietDevice deviceId d) = quietDevice deviceId d := by
  by_cases h : d.deviceId = deviceId
  · rw [quietDevice_self h, quietDevice_self h]
  · simp [quietDevice, h]

theorem quietWebhook_quietWebhook (w : DeviceWebhook) :
    quietWebhook deviceId (quietWebhook deviceId w) = quietWebhook deviceId w := by
  by_cases h : w.deviceId = deviceId
  · rw [quietWebhook_self h, quietWebhook_self h]
  · simp [quietWebhook, h]

theorem quietLog_quietLog (l : DeviceCommandLog) :
    quietLog deviceId (quietLog deviceId l) = quietLog deviceId l := by
  by_cases h : l.deviceId = deviceId
  · rw [quietLog_self h, quietLog_self h]
  · simp [quietLog, h]

/-- The other devices fit as they did before they were called. -/
theorem fits_quietDevice {d : Device} (h : d.deviceId ≠ deviceId → fitsColumn 32 d.status = true) :
    (quietDevice deviceId d).fits = d.fits := by
  by_cases hd : d.deviceId = deviceId
  · rw [quietDevice_self hd]
  · have hinactive : fitsColumn 32 "inactive" = true := by decide
    simp only [quietDevice, if_neg hd, Device.fits, h hd, hinactive]

theorem fits_quietLog {l : DeviceCommandLog}
    (h : l.deviceId ≠ deviceId → fitsColumn 32 l.status = true) :
    (quietLog deviceId l).fits = l.fits := by
  by_cases hl : l.deviceId = deviceId
  · rw [quietLog_self hl]
  · have hpending : fitsColumn 32 "pending" = true := by decide
    simp only [quietLog, if_neg hl, DeviceCommandLog.fits, h hl, hpending]

/-! ### Events up to their row identifiers -/

/-- What does not depend on the row identifiers is the same under the new ones. -/
theorem map_renumbered {β : Type} {f : DeviceEvent → β}
    (hf : ∀ (e : DeviceEvent) (i : ℕ), f { e with id := i } = f e) (rows : List DeviceEvent) :
    (renumbered rows).map f = rows.map f := by
  induction rows using List.reverseRecOn with
  | nil => rfl
  | append_singleton rows e ih =>
      unfold renumbered at ih ⊢
      rw [List.mapIdx_concat, List.map_append, List.map_append, ih, List.map_singleton,
        List.map_singleton, hf]

/-- A condition on the events that does not depend on the row identifiers. -/
theorem forall_mem_renumbered {f : DeviceEvent → Bool}
    (hf : ∀ (e : DeviceEvent) (i : ℕ), f { e with id := i } = f e) (rows : List DeviceEvent) :
    (∀ e ∈ renumbered rows, f e = true) ↔ ∀ e ∈ rows, f e = true := by
  rw [← List.forall_mem_map (f := f) (P := fun b => b = true), map_renumbered hf,
    List.forall_mem_map]

theorem renumbered_concat (rows : List DeviceEvent) (e : DeviceEvent) :
    renumbered (rows ++ [e]) = renumbered rows ++ [{ e with id := rows.length + 1 }] :=
  List.mapIdx_concat

/-- A table of one device is its own. -/
theorem renumbered_ownEvents (db : Store) :
    renumbered ((renumbered (ownEvents deviceId db)).filter fun e => e.deviceId = deviceId) =
      renumbered (ownEvents deviceId db) := by
  have hall : ∀ e ∈ renumbered (ownEvents deviceId db), decide (e.deviceId = deviceId) = true := by
    rw [forall_mem_renumbered (by exact fun _ _ => rfl)]
    exact fun e he => (List.mem_filter.1 he).2
  rw [List.filter_eq_self.2 hall]
  unfold renumbered
  rw [List.mapIdx_mapIdx]
  rfl

/-- What was taken out cannot be taken out again. -/
theorem seenBy_seenBy (db : Store) : seenBy deviceId (seenBy deviceId db) = seenBy deviceId db := by
  have hdevices : quietDevice deviceId ∘ quietDevice deviceId = quietDevice deviceId :=
    funext quietDevice_quietDevice
  have hwebhooks : quietWebhook deviceId ∘ quietWebhook deviceId = quietWebhook deviceId :=
    funext quietWebhook_quietWebhook
  have hlogs : quietLog deviceId ∘ quietLog deviceId = quietLog deviceId :=
    funext quietLog_quietLog
  have hevents : renumbered (ownEvents deviceId (seenBy deviceId db)) =
      renumbered (ownEvents deviceId db) := renumbered_ownEvents db
  unfold seenBy at hevents ⊢
  simp only [List.map_map, hdevices, hwebhooks, hlogs, hevents]

end

/-! ### Commits -/

/-- The database accepts what the device does not see. -/
structure OthersAdmitted (schema : Schema) (deviceId : String) (db : Store) : Prop where
  statuses : schema.enforceLengths = true →
    ∀ d ∈ db.devices, d.deviceId ≠ deviceId → fitsColumn 32 d.status = true
  events : schema.enforceLengths = true →
    ∀ e ∈ db.deviceEvents, e.deviceId ≠ deviceId → e.fits = true
  logs : schema.enforceLengths = true →
    ∀ l ∈ db.deviceCommandLogs, l.deviceId ≠ deviceId → fitsColumn 32 l.status = true
  eventIds : UniqueKey DeviceEvent.id db.deviceEvents
  eventKeys : UniqueKey (fun e => (e.deviceId, e.eventId))
    (db.deviceEvents.filter fun e => !decide (e.deviceId = deviceId))

section

variable {schema : Schema} {deviceId : String} {db : Store}

theorem othersAdmitted_of_admitted (h : db.Admitted schema) :
    OthersAdmitted schema deviceId db := by
  obtain ⟨hfits, -, -, -, ⟨hid, hkey⟩, -⟩ := h
  refine ⟨fun hs d hd _ => ?_, fun hs e he _ => ?_, fun hs l hl _ => ?_, hid, ?_⟩
  · exact (Device.fits_iff.1 ((hfits hs).1 d hd)).status
  · exact (hfits hs).2.2.2.1 e he
  · have hfit := (hfits hs).2.2.2.2.1 l hl
    simp only [DeviceCommandLog.fits, Bool.and_eq_true] at hfit
    exact hfit.2
  · exact hkey.sublist (List.filter_sublist.map _)

theorem OthersAdmitted.of_eq {db' : Store} (h : OthersAdmitted schema deviceId db)
    (hdevices : db'.devices = db.devices) (hevents : db'.deviceEvents = db.deviceEvents)
    (hlogs : db'.deviceCommandLogs = db.deviceCommandLogs) :
    OthersAdmitted schema deviceId db' := by
  obtain ⟨hstatus, hfit, hlog, hid, hkey⟩ := h
  rw [← hdevices] at hstatus
  rw [← hevents] at hfit hid hkey
  rw [← hlogs] at hlog
  exact ⟨hstatus, hfit, hlog, hid, hkey⟩

theorem OthersAdmitted.insertDevice {new : Device} (h : OthersAdmitted schema deviceId db)
    (hnew : fitsColumn 32 new.status = true) :
    OthersAdmitted schema deviceId (db.insertDevice new) where
  statuses hs d hd hdev := by
    rcases List.mem_append.1 hd with hd | hd
    · exact h.statuses hs d hd hdev
    · rw [List.mem_singleton] at hd
      rw [hd]
      exact hnew
  events := h.events
  logs := h.logs
  eventIds := h.eventIds
  eventKeys := h.eventKeys

theorem OthersAdmitted.insertCommandLog {new : DeviceCommandLog}
    (h : OthersAdmitted schema deviceId db) (hnew : fitsColumn 32 new.status = true) :
    OthersAdmitted schema deviceId (db.insertCommandLog new) where
  statuses := h.statuses
  events := h.events
  logs hs l hl hdev := by
    rcases List.mem_append.1 hl with hl | hl
    · exact h.logs hs l hl hdev
    · rw [List.mem_singleton] at hl
      rw [hl]
      exact hnew
  eventIds := h.eventIds
  eventKeys := h.eventKeys

/-- An event of the device is no event of the others. -/
theorem OthersAdmitted.insertEvent {event : DeviceEvent} (h : OthersAdmitted schema deviceId db)
    (hown : event.deviceId = deviceId) :
    OthersAdmitted schema deviceId (db.insertEvent event) where
  statuses := h.statuses
  events hs e he hdev := by
    rcases List.mem_append.1 he with he | he
    · exact h.events hs e he hdev
    · rw [List.mem_singleton] at he
      rw [he] at hdev
      exact absurd hown hdev
  logs := h.logs
  eventIds := uniqueKey_concat_nextKey h.eventIds rfl
  eventKeys := by
    unfold Store.insertEvent
    rw [List.filter_append, List.filter_cons_of_neg (by simpa using hown), List.filter_nil,
      List.append_nil]
    exact h.eventKeys

theorem OthersAdmitted.writeDevice {read new : Device} (h : OthersAdmitted schema deviceId db)
    (hu : UniqueKey Device.id db.devices) (hr : read ∈ db.devices) (hown : read.deviceId = deviceId)
    (hid : new.id = read.id) (hdev : new.deviceId = read.deviceId) :
    OthersAdmitted schema deviceId (db.writeDevice read new) where
  statuses hs d hd hother := by
    rcases (Store.mem_writeDevice hu hr hid).1 hd with rfl | ⟨hd, -⟩
    · exact absurd (hdev.trans hown) hother
    · exact h.statuses hs d hd hother
  events := h.events
  logs := h.logs
  eventIds := h.eventIds
  eventKeys := h.eventKeys

theorem OthersAdmitted.writeCommandLog {read new : DeviceCommandLog}
    (h : OthersAdmitted schema deviceId db) (hnew : new.deviceId = deviceId) :
    OthersAdmitted schema deviceId (db.writeCommandLog read new) where
  statuses := h.statuses
  events := h.events
  logs hs l hl hother := by
    rcases mem_updateKey.1 hl with ⟨-, -, -, rfl⟩ | ⟨hl, -⟩
    · exact absurd hnew hother
    · exact h.logs hs l hl hother
  eventIds := h.eventIds
  eventKeys := h.eventKeys

/-- The texts that the device sees fit if all do. -/
theorem fits_seenBy (h : OthersAdmitted schema deviceId db) (hs : schema.enforceLengths = true) :
    (seenBy deviceId db).Fits ↔ db.Fits := by
  have hdevices : (∀ d ∈ (seenBy deviceId db).devices, d.fits = true) ↔
      ∀ d ∈ db.devices, d.fits = true := by
    refine List.forall_mem_map.trans (forall₂_congr fun d hd => ?_)
    rw [fits_quietDevice (h.statuses hs d hd)]
  have hwebhooks : (∀ w ∈ (seenBy deviceId db).deviceWebhooks, w.fits = true) ↔
      ∀ w ∈ db.deviceWebhooks, w.fits = true := by
    refine List.forall_mem_map.trans (forall₂_congr fun w _ => ?_)
    rw [fits_quietWebhook]
  have hevents : (∀ e ∈ (seenBy deviceId db).deviceEvents, e.fits = true) ↔
      ∀ e ∈ db.deviceEvents, e.fits = true := by
    refine (forall_mem_renumbered (by exact fun _ _ => rfl) _).trans ⟨fun hown e he => ?_, ?_⟩
    · by_cases hdev : e.deviceId = deviceId
      · exact hown e (List.mem_filter.2 ⟨he, by simpa using hdev⟩)
      · exact h.events hs e he hdev
    · exact fun hall e he => hall e (List.mem_of_mem_filter he)
  have hlogs : (∀ l ∈ (seenBy deviceId db).deviceCommandLogs, l.fits = true) ↔
      ∀ l ∈ db.deviceCommandLogs, l.fits = true := by
    refine List.forall_mem_map.trans (forall₂_congr fun l hl => ?_)
    rw [fits_quietLog (h.logs hs l hl)]
  unfold Store.Fits
  rw [hdevices, hwebhooks, hevents, hlogs]
  rfl

/-- The rows that the device sees are unique if all are. -/
theorem unique_seenBy (h : OthersAdmitted schema deviceId db) :
    (seenBy deviceId db).Unique schema ↔ db.Unique schema := by
  have hdevices : UniqueDevices (seenBy deviceId db).devices ↔ UniqueDevices db.devices :=
    and_congr (uniqueKey_map quietDevice_id) (uniqueKey_map quietDevice_deviceId)
  have hwebhooks : UniqueWebhooks (seenBy deviceId db).deviceWebhooks ↔
      UniqueWebhooks db.deviceWebhooks :=
    and_congr (uniqueKey_map quietWebhook_id) (uniqueKey_map quietWebhook_hash)
  have hevents : UniqueEvents (seenBy deviceId db).deviceEvents ↔
      UniqueEvents db.deviceEvents := by
    refine and_congr (iff_of_true (uniqueKey_mapIdx (by exact fun _ _ => rfl) _) h.eventIds) ?_
    unfold seenBy UniqueKey
    rw [map_renumbered (by exact fun _ _ => rfl)]
    refine (uniqueKey_iff_filter (fun e e' hdev => ?_) h.eventKeys).symm
    have hdev' : e.deviceId = e'.deviceId := hdev
    rw [hdev']
  have hlogs : UniqueLogs (seenBy deviceId db).deviceCommandLogs ↔
      UniqueLogs db.deviceCommandLogs :=
    and_congr (uniqueKey_map quietLog_id) (uniqueKey_map quietLog_requestId)
  unfold Store.Unique
  rw [hdevices, hwebhooks, hevents, hlogs]
  rfl

/-- **A commit of what the device sees** ends as the commit of the whole store. -/
theorem commit_seenBy (h : OthersAdmitted schema deviceId db) :
    commit schema (seenBy deviceId db) = (commit schema db).map (seenBy deviceId) := by
  have hfits : schema.enforceLengths = true ∧ ¬ (seenBy deviceId db).Fits ↔
      schema.enforceLengths = true ∧ ¬ db.Fits :=
    and_congr_right fun hs => not_congr (fits_seenBy h hs)
  unfold commit
  by_cases hlong : schema.enforceLengths = true ∧ ¬ db.Fits
  · rw [if_pos hlong, if_pos (hfits.2 hlong)]
    rfl
  · rw [if_neg hlong, if_neg fun hs => hlong (hfits.1 hs)]
    by_cases hunique : db.Unique schema
    · rw [if_pos hunique, if_pos ((unique_seenBy h).2 hunique)]
      rfl
    · rw [if_neg hunique, if_neg fun hs => hunique ((unique_seenBy h).1 hs)]
      rfl

theorem admitted_seenBy (h : db.Admitted schema) : (seenBy deviceId db).Admitted schema := by
  have hcommit : commit schema (seenBy deviceId db) = (commit schema db).map (seenBy deviceId) :=
    commit_seenBy (othersAdmitted_of_admitted h)
  rw [commit_eq_ok.2 ⟨rfl, h⟩] at hcommit
  exact (commit_eq_ok.1 hcommit).2

end

/-! ### Writes -/

section

variable {deviceId : String} {db : Store}

/-- A new row is seen as it is inserted, if it is as before the first posting. -/
theorem seenBy_insertDevice {new : Device}
    (hquiet : ∀ i, quietDevice deviceId { new with id := i } = { new with id := i }) :
    seenBy deviceId (db.insertDevice new) = (seenBy deviceId db).insertDevice new := by
  have hnext : nextKey Device.id (db.devices.map (quietDevice deviceId)) =
      nextKey Device.id db.devices := nextKey_map quietDevice_id db.devices
  unfold seenBy Store.insertDevice
  rw [List.map_append, List.map_singleton, hquiet, hnext]
  rfl

theorem seenBy_insertWebhook {new : DeviceWebhook}
    (hquiet : ∀ i, quietWebhook deviceId { new with id := i } = { new with id := i }) :
    seenBy deviceId (db.insertWebhook new) = (seenBy deviceId db).insertWebhook new := by
  have hnext : nextKey DeviceWebhook.id (db.deviceWebhooks.map (quietWebhook deviceId)) =
      nextKey DeviceWebhook.id db.deviceWebhooks := nextKey_map quietWebhook_id db.deviceWebhooks
  unfold seenBy Store.insertWebhook
  rw [List.map_append, List.map_singleton, hquiet, hnext]
  rfl

theorem seenBy_insertCommandLog {new : DeviceCommandLog}
    (hquiet : ∀ i, quietLog deviceId { new with id := i } = { new with id := i }) :
    seenBy deviceId (db.insertCommandLog new) = (seenBy deviceId db).insertCommandLog new := by
  have hnext : nextKey DeviceCommandLog.id (db.deviceCommandLogs.map (quietLog deviceId)) =
      nextKey DeviceCommandLog.id db.deviceCommandLogs :=
    nextKey_map quietLog_id db.deviceCommandLogs
  unfold seenBy Store.insertCommandLog
  rw [List.map_append, List.map_singleton, hquiet, hnext]
  rfl

/-- An event of the device gets the next row identifier there is in its own table. -/
theorem seenBy_insertEvent {event : DeviceEvent} (hown : event.deviceId = deviceId) :
    seenBy deviceId (db.insertEvent event) = (seenBy deviceId db).insertEvent event := by
  have hnext : nextKey DeviceEvent.id (renumbered (ownEvents deviceId db)) =
      (ownEvents deviceId db).length + 1 := nextKey_mapIdx (by exact fun _ _ => rfl) _
  have hevents : ownEvents deviceId (db.insertEvent event) = ownEvents deviceId db ++
      [{ event with id := nextKey DeviceEvent.id db.deviceEvents }] := by
    unfold ownEvents Store.insertEvent
    rw [List.filter_append, List.filter_cons_of_pos (by simpa using hown), List.filter_nil]
  unfold seenBy
  rw [hevents, renumbered_concat]
  unfold Store.insertEvent
  rw [hnext]

/-- An event of another device is not seen. -/
theorem seenBy_insertEvent_other {event : DeviceEvent} (hother : event.deviceId ≠ deviceId) :
    seenBy deviceId (db.insertEvent event) = seenBy deviceId db := by
  have hevents : ownEvents deviceId (db.insertEvent event) = ownEvents deviceId db := by
    unfold ownEvents Store.insertEvent
    rw [List.filter_append, List.filter_cons_of_neg (by simpa using hother), List.filter_nil,
      List.append_nil]
  unfold seenBy
  rw [hevents]
  rfl

/-- A write to the row of the device is seen. -/
theorem seenBy_writeDevice {read new : Device} (hu : UniqueKey Device.id db.devices)
    (hr : read ∈ db.devices) (hown : read.deviceId = deviceId) (hid : new.id = read.id)
    (hdev : new.deviceId = read.deviceId) :
    seenBy deviceId (db.writeDevice read new) = (seenBy deviceId db).writeDevice read new := by
  have hwrite : ∀ d ∈ db.devices, d.id = read.id →
      quietDevice deviceId (read.merge new d) = read.merge new (quietDevice deviceId d) := by
    intro d hd hk
    obtain rfl := hu.eq hd hr hk
    rw [quietDevice_self hown, Device.merge_self hid, quietDevice_self (hdev.trans hown)]
  unfold seenBy Store.writeDevice
  rw [updateKey_map quietDevice_id hwrite]
  rfl

/-- A write to the row of another device is not seen, if it would not be seen in that row. -/
theorem seenBy_writeDevice_other {read new : Device} (hu : UniqueKey Device.id db.devices)
    (hr : read ∈ db.devices) (hid : new.id = read.id)
    (hquiet : quietDevice deviceId new = quietDevice deviceId read) :
    seenBy deviceId (db.writeDevice read new) = seenBy deviceId db := by
  have hwrite : ∀ d ∈ db.devices, d.id = read.id →
      quietDevice deviceId (read.merge new d) = quietDevice deviceId d := by
    intro d hd hk
    obtain rfl := hu.eq hd hr hk
    rw [Device.merge_self hid, hquiet]
  unfold seenBy Store.writeDevice
  rw [map_updateKey hwrite]
  rfl

/-- A write to the row of a webhook of the device is seen. -/
theorem seenBy_writeWebhook {read new : DeviceWebhook}
    (hu : UniqueKey DeviceWebhook.id db.deviceWebhooks) (hr : read ∈ db.deviceWebhooks)
    (hown : read.deviceId = deviceId) (hid : new.id = read.id)
    (hdev : new.deviceId = read.deviceId) :
    seenBy deviceId (db.writeWebhook read new) = (seenBy deviceId db).writeWebhook read new := by
  have hwrite : ∀ w ∈ db.deviceWebhooks, w.id = read.id →
      quietWebhook deviceId (read.merge new w) = read.merge new (quietWebhook deviceId w) := by
    intro w hw hk
    obtain rfl := hu.eq hw hr hk
    rw [quietWebhook_self hown, DeviceWebhook.merge_self hid, quietWebhook_self (hdev.trans hown)]
  unfold seenBy Store.writeWebhook
  rw [updateKey_map quietWebhook_id hwrite]
  rfl

/-- A write to the row of another device's webhook is not seen, if it would not be seen in that
row. -/
theorem seenBy_writeWebhook_other {read new : DeviceWebhook}
    (hu : UniqueKey DeviceWebhook.id db.deviceWebhooks) (hr : read ∈ db.deviceWebhooks)
    (hid : new.id = read.id)
    (hquiet : quietWebhook deviceId new = quietWebhook deviceId read) :
    seenBy deviceId (db.writeWebhook read new) = seenBy deviceId db := by
  have hwrite : ∀ w ∈ db.deviceWebhooks, w.id = read.id →
      quietWebhook deviceId (read.merge new w) = quietWebhook deviceId w := by
    intro w hw hk
    obtain rfl := hu.eq hw hr hk
    rw [DeviceWebhook.merge_self hid, hquiet]
  unfold seenBy Store.writeWebhook
  rw [map_updateKey hwrite]
  rfl

/-- The end of a command of the device is seen. -/
theorem seenBy_writeCommandLog {read new : DeviceCommandLog}
    (hnew : new.deviceId = deviceId) :
    seenBy deviceId (db.writeCommandLog read new) =
      (seenBy deviceId db).writeCommandLog read new := by
  unfold seenBy Store.writeCommandLog
  rw [updateKey_map quietLog_id (by exact fun _ _ _ => quietLog_self hnew)]
  rfl

/-- The end of a command of another device is not seen. -/
theorem seenBy_writeCommandLog_other {read new : DeviceCommandLog}
    (hu : UniqueKey DeviceCommandLog.id db.deviceCommandLogs) (hr : read ∈ db.deviceCommandLogs)
    (hquiet : quietLog deviceId new = quietLog deviceId read) :
    seenBy deviceId (db.writeCommandLog read new) = seenBy deviceId db := by
  have hwrite : ∀ l ∈ db.deviceCommandLogs, l.id = read.id →
      quietLog deviceId new = quietLog deviceId l := by
    intro l hl hk
    obtain rfl := hu.eq hl hr hk
    exact hquiet
  unfold seenBy Store.writeCommandLog
  rw [map_updateKey hwrite]
  rfl

end

end SmsForwarder
