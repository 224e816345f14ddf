/-
**The tables of the server and their constraints.**

One record per ORM model, the store that holds their tables, and what a commit does: the flush
writes the changed columns of the rows a session loaded and appends the rows it added, and the
database refuses the result if it violates a constraint.  A refused commit leaves the committed
store as it was.

Main definitions:

* `SmsForwarder.Device`, `SmsForwarder.DeviceTunnel`, `SmsForwarder.DeviceWebhook`,
  `SmsForwarder.DeviceEvent`, `SmsForwarder.DeviceCommandLog`, `SmsForwarder.AuditLog` — the rows;
* `SmsForwarder.Store` — the tables;
* `SmsForwarder.mergeColumn`, `SmsForwarder.Device.merge`, `SmsForwarder.DeviceTunnel.merge`,
  `SmsForwarder.DeviceWebhook.merge` — the columns a flush writes are those whose value differs from
  the one loaded;
* `SmsForwarder.Store.Admitted`, `SmsForwarder.commit` — the constraints, and the commit that
  checks them.

Main results:

* `SmsForwarder.commit_eq_ok` — a commit succeeds exactly on the stores that meet the constraints;
* `SmsForwarder.Device.merge_self`, `SmsForwarder.DeviceTunnel.merge_self`,
  `SmsForwarder.DeviceWebhook.merge_self` — with nothing written in between, a flush installs the
  row as the session has it.
-/

import SmsForwarder.Config
import SmsForwarder.Tables

set_option relaxedAutoImplicit false
set_option autoImplicit false

namespace SmsForwarder

open Tables

/-- Points in time, in microseconds since the epoch. -/
abbrev Timestamp := ℤ

/-! ### Rows -/

structure Device where
  id : ℕ
  deviceId : String
  deviceName : Option String
  channelType : String
  baseUrl : Option String
  signSecretEncrypted : Option String
  status : String
  isActive : Bool
  lastSeenAt : Option Timestamp
  lastWebhookAt : Option Timestamp
  webhookCount : ℕ
  deriving DecidableEq, Repr

structure DeviceTunnel where
  id : ℕ
  deviceId : String
  enabled : Bool
  proxyType : String
  proxyName : String
  localIp : String
  localPort : ℤ
  remotePort : ℤ
  authTokenEncrypted : String
  internalBaseUrl : String
  publicBaseUrl : Option String
  previousBaseUrl : Option String
  useEncryption : Bool
  useCompression : Bool
  status : String
  lastConfigGeneratedAt : Option Timestamp
  deriving DecidableEq, Repr

structure DeviceWebhook where
  id : ℕ
  deviceId : String
  webhookTokenHash : String
  webhookTokenPrefix : String
  enabled : Bool
  lastCalledAt : Option Timestamp
  calledCount : ℕ
  deriving DecidableEq, Repr

structure DeviceEvent where
  id : ℕ
  eventId : String
  deviceId : String
  eventType : String
  eventTime : Timestamp
  normalizedPayload : Py.Json
  rawPayload : Py.Json
  sourceIp : Option String
  createdAt : Timestamp

structure DeviceCommandLog where
  id : ℕ
  requestId : String
  deviceId : String
  userId : Option ℤ
  commandType : String
  channelType : String
  status : String
  requestSummary : Py.Json
  responseSummary : Py.Json
  errorMsg : Option String
  completedAt : Option Timestamp

structure AuditLog where
  id : ℕ
  userId : Option ℤ
  action : String
  deviceId : Option String
  result : Option String
  detail : Py.Json

/-- The tables, each in insertion order. -/
structure Store where
  devices : List Device
  deviceTunnels : List DeviceTunnel
  deviceWebhooks : List DeviceWebhook
  deviceEvents : List DeviceEvent
  deviceCommandLogs : List DeviceCommandLog
  auditLogs : List AuditLog

/-- The database right after its tables were created. -/
def Store.empty : Store := ⟨[], [], [], [], [], []⟩

/-! ### Constraints -/

/-- Whether a string fits a `String(n)` column. -/
def fitsColumn (n : ℕ) (s : String) : Bool := s.length ≤ n

def Device.fits (d : Device) : Bool :=
  fitsColumn 128 d.deviceId && d.deviceName.all (fitsColumn 255) && fitsColumn 64 d.channelType &&
    fitsColumn 32 d.status

def DeviceTunnel.fits (t : DeviceTunnel) : Bool :=
  fitsColumn 128 t.deviceId && fitsColumn 16 t.proxyType && fitsColumn 128 t.proxyName &&
    fitsColumn 64 t.localIp && fitsColumn 32 t.status

/-- A device row fits, column by column. -/
structure Device.ColumnsFit (d : Device) : Prop where
  deviceId : fitsColumn 128 d.deviceId = true
  deviceName : d.deviceName.all (fitsColumn 255) = true
  channelType : fitsColumn 64 d.channelType = true
  status : fitsColumn 32 d.status = true

theorem Device.fits_iff {d : Device} : d.fits = true ↔ d.ColumnsFit := by
  simp only [Device.fits, Bool.and_eq_true]
  constructor
  · rintro ⟨⟨⟨hid, hname⟩, hchannel⟩, hstatus⟩
    exact ⟨hid, hname, hchannel, hstatus⟩
  · intro h
    exact ⟨⟨⟨h.deviceId, h.deviceName⟩, h.channelType⟩, h.status⟩

/-- A tunnel row fits, column by column. -/
structure DeviceTunnel.ColumnsFit (t : DeviceTunnel) : Prop where
  deviceId : fitsColumn 128 t.deviceId = true
  proxyType : fitsColumn 16 t.proxyType = true
  proxyName : fitsColumn 128 t.proxyName = true
  localIp : fitsColumn 64 t.localIp = true
  status : fitsColumn 32 t.status = true

theorem DeviceTunnel.fits_iff {t : DeviceTunnel} : t.fits = true ↔ t.ColumnsFit := by
  simp only [DeviceTunnel.fits, Bool.and_eq_true]
  constructor
  · rintro ⟨⟨⟨⟨hid, htype⟩, hname⟩, hip⟩, hstatus⟩
    exact ⟨hid, htype, hname, hip, hstatus⟩
  · intro h
    exact ⟨⟨⟨⟨h.deviceId, h.proxyType⟩, h.proxyName⟩, h.localIp⟩, h.status⟩

def DeviceWebhook.fits (w : DeviceWebhook) : Bool :=
  fitsColumn 255 w.webhookTokenHash && fitsColumn 16 w.webhookTokenPrefix

def DeviceEvent.fits (e : DeviceEvent) : Bool :=
  fitsColumn 255 e.eventId && fitsColumn 128 e.deviceId && fitsColumn 64 e.eventType &&
    e.sourceIp.all (fitsColumn 64)

def DeviceCommandLog.fits (l : DeviceCommandLog) : Bool :=
  fitsColumn 128 l.requestId && fitsColumn 128 l.deviceId && fitsColumn 128 l.commandType &&
    fitsColumn 64 l.channelType && fitsColumn 32 l.status

def AuditLog.fits (a : AuditLog) : Bool :=
  fitsColumn 128 a.action && a.deviceId.all (fitsColumn 128) && a.result.all (fitsColumn 32)

/-- Every string fits its column. -/
def Store.Fits (db : Store) : Prop :=
  (∀ d ∈ db.devices, d.fits) ∧ (∀ t ∈ db.deviceTunnels, t.fits) ∧
    (∀ w ∈ db.deviceWebhooks, w.fits) ∧ (∀ e ∈ db.deviceEvents, e.fits) ∧
    (∀ l ∈ db.deviceCommandLogs, l.fits) ∧ (∀ a ∈ db.auditLogs, a.fits)

instance (db : Store) : Decidable db.Fits := inferInstanceAs (Decidable (_ ∧ _))

/-- The primary keys and the unique columns of `devices`. -/
def UniqueDevices (rows : List Device) : Prop :=
  UniqueKey Device.id rows ∧ UniqueKey Device.deviceId rows

/-- The primary key and the unique columns of `device_tunnels`. -/
def UniqueTunnels (schema : Schema) (rows : List DeviceTunnel) : Prop :=
  UniqueKey DeviceTunnel.id rows ∧ UniqueKey DeviceTunnel.remotePort rows ∧
    (schema.uniqueTunnelDevice = true → UniqueKey DeviceTunnel.deviceId rows)

/-- The primary key and the unique column of `device_webhooks`. -/
def UniqueWebhooks (rows : List DeviceWebhook) : Prop :=
  UniqueKey DeviceWebhook.id rows ∧ UniqueKey DeviceWebhook.webhookTokenHash rows

/-- The primary key of `device_events` and `uq_device_events_device_event`. -/
def UniqueEvents (rows : List DeviceEvent) : Prop :=
  UniqueKey DeviceEvent.id rows ∧ UniqueKey (fun e => (e.deviceId, e.eventId)) rows

/-- The primary key and the unique column of `device_command_logs`. -/
def UniqueLogs (rows : List DeviceCommandLog) : Prop :=
  UniqueKey DeviceCommandLog.id rows ∧ UniqueKey DeviceCommandLog.requestId rows

/-- The uniqueness constraints of all tables. -/
def Store.Unique (schema : Schema) (db : Store) : Prop :=
  UniqueDevices db.devices ∧ UniqueTunnels schema db.deviceTunnels ∧
    UniqueWebhooks db.deviceWebhooks ∧ UniqueEvents db.deviceEvents ∧
    UniqueLogs db.deviceCommandLogs ∧ UniqueKey AuditLog.id db.auditLogs

instance (rows : List Device) : Decidable (UniqueDevices rows) :=
  inferInstanceAs (Decidable (_ ∧ _))

instance (schema : Schema) (rows : List DeviceTunnel) : Decidable (UniqueTunnels schema rows) :=
  inferInstanceAs (Decidable (_ ∧ _ ∧ (_ → _)))

instance (rows : List DeviceWebhook) : Decidable (UniqueWebhooks rows) :=
  inferInstanceAs (Decidable (_ ∧ _))

instance (rows : List DeviceEvent) : Decidable (UniqueEvents rows) :=
  inferInstanceAs (Decidable (_ ∧ _))

instance (rows : List DeviceCommandLog) : Decidable (UniqueLogs rows) :=
  inferInstanceAs (Decidable (_ ∧ _))

instance (schema : Schema) (db : Store) : Decidable (db.Unique schema) :=
  inferInstanceAs (Decidable (_ ∧ _))

/-- The stores the database can hold: lengths are checked where the backend enforces them. -/
def Store.Admitted (schema : Schema) (db : Store) : Prop :=
  (schema.enforceLengths = true → db.Fits) ∧ db.Unique schema

instance (schema : Schema) (db : Store) : Decidable (db.Admitted schema) :=
  inferInstanceAs (Decidable ((_ → _) ∧ _))

theorem Store.Admitted.columnsFit {schema : Schema} {db : Store} {d : Device}
    (h : db.Admitted schema) (he : schema.enforceLengths = true) (hd : d ∈ db.devices) :
    d.ColumnsFit :=
  Device.fits_iff.1 ((h.1 he).1 d hd)

theorem Store.Admitted.tunnelColumnsFit {schema : Schema} {db : Store} {t : DeviceTunnel}
    (h : db.Admitted schema) (he : schema.enforceLengths = true) (ht : t ∈ db.deviceTunnels) :
    t.ColumnsFit :=
  DeviceTunnel.fits_iff.1 ((h.1 he).2.1 t ht)

/-- `db.flush()` and `db.commit()` of a session whose changes turn the committed store into
`db`: a value that is too long is a `DataError`, a violated unique constraint an
`IntegrityError`. -/
def commit (schema : Schema) (db : Store) : Except PyError Store :=
  if schema.enforceLengths = true ∧ ¬ db.Fits then .error .dataError
  else if db.Unique schema then .ok db
  else .error .integrityError

/-- A commit succeeds exactly on the stores that meet the constraints. -/
theorem commit_eq_ok {schema : Schema} {db db' : Store} :
    commit schema db = .ok db' ↔ db' = db ∧ db.Admitted schema := by
  unfold commit Store.Admitted
  by_cases hf : schema.enforceLengths = true ∧ ¬ db.Fits
  · simp only [if_pos hf, reduceCtorEq, false_iff]
    intro h
    exact hf.2 (h.2.1 hf.1)
  · rw [if_neg hf]
    have hfit : schema.enforceLengths = true → db.Fits := by
      intro he
      by_contra hn
      exact hf ⟨he, hn⟩
    by_cases hu : db.Unique schema
    · rw [if_pos hu, Except.ok.injEq]
      exact ⟨fun h => ⟨h.symm, hfit, hu⟩, fun h => h.1.symm⟩
    · simp [hu]

/-- The empty database meets every constraint. -/
theorem Store.admitted_empty (schema : Schema) : Store.empty.Admitted schema := by
  refine ⟨fun _ => by simp [Store.Fits, Store.empty], ?_⟩
  simp [Store.Unique, Store.empty, UniqueDevices, UniqueTunnels, UniqueWebhooks, UniqueEvents,
    UniqueLogs]

/-! ### Writing the changed columns -/

/-- The value of a column after the flush of a session that loaded `read` and holds `new`, when
the committed value is `cur`: a column without a net change is not written. -/
def mergeColumn {α : Type*} [DecidableEq α] (read new cur : α) : α :=
  if new = read then cur else new

@[simp] theorem mergeColumn_self {α : Type*} [DecidableEq α] (read new : α) :
    mergeColumn read new read = new := by
  unfold mergeColumn
  split
  · rename_i h; exact h.symm
  · rfl

@[simp] theorem mergeColumn_unchanged {α : Type*} [DecidableEq α] (read cur : α) :
    mergeColumn read read cur = cur := by simp [mergeColumn]

/-- A merged value is the new one or the committed one. -/
theorem mergeColumn_of_both {α : Type*} [DecidableEq α] {p : α → Prop} {read new cur : α}
    (hnew : p new) (hcur : p cur) : p (mergeColumn read new cur) := by
  unfold mergeColumn
  split
  · exact hcur
  · exact hnew

/-- The row `cur` after a session that loaded the row as `read` flushes it as `new`. -/
def Device.merge (read new cur : Device) : Device where
  id := cur.id
  deviceId := mergeColumn read.deviceId new.deviceId cur.deviceId
  deviceName := mergeColumn read.deviceName new.deviceName cur.deviceName
  channelType := mergeColumn read.channelType new.channelType cur.channelType
  baseUrl := mergeColumn read.baseUrl new.baseUrl cur.baseUrl
  signSecretEncrypted :=
    mergeColumn read.signSecretEncrypted new.signSecretEncrypted cur.signSecretEncrypted
  status := mergeColumn read.status new.status cur.status
  isActive := mergeColumn read.isActive new.isActive cur.isActive
  lastSeenAt := mergeColumn read.lastSeenAt new.lastSeenAt cur.lastSeenAt
  lastWebhookAt := mergeColumn read.lastWebhookAt new.lastWebhookAt cur.lastWebhookAt
  webhookCount := mergeColumn read.webhookCount new.webhookCount cur.webhookCount

/-- The row `cur` after a session that loaded the row as `read` flushes it as `new`. -/
def DeviceTunnel.merge (read new cur : DeviceTunnel) : DeviceTunnel where
  id := cur.id
  deviceId := mergeColumn read.deviceId new.deviceId cur.deviceId
  enabled := mergeColumn read.enabled new.enabled cur.enabled
  proxyType := mergeColumn read.proxyType new.proxyType cur.proxyType
  proxyName := mergeColumn read.proxyName new.proxyName cur.proxyName
  localIp := mergeColumn read.localIp new.localIp cur.localIp
  localPort := mergeColumn read.localPort new.localPort cur.localPort
  remotePort := mergeColumn read.remotePort new.remotePort cur.remotePort
  authTokenEncrypted :=
    mergeColumn read.authTokenEncrypted new.authTokenEncrypted cur.authTokenEncrypted
  internalBaseUrl := mergeColumn read.internalBaseUrl new.internalBaseUrl cur.internalBaseUrl
  publicBaseUrl := mergeColumn read.publicBaseUrl new.publicBaseUrl cur.publicBaseUrl
  previousBaseUrl := mergeColumn read.previousBaseUrl new.previousBaseUrl cur.previousBaseUrl
  useEncryption := mergeColumn read.useEncryption new.useEncryption cur.useEncryption
  useCompression := mergeColumn read.useCompression new.useCompression cur.useCompression
  status := mergeColumn read.status new.status cur.status
  lastConfigGeneratedAt :=
    mergeColumn read.lastConfigGeneratedAt new.lastConfigGeneratedAt cur.lastConfigGeneratedAt

/-- The row `cur` after a session that loaded the row as `read` flushes it as `new`. -/
def DeviceWebhook.merge (read new cur : DeviceWebhook) : DeviceWebhook where
  id := cur.id
  deviceId := mergeColumn read.deviceId new.deviceId cur.deviceId
  webhookTokenHash := mergeColumn read.webhookTokenHash new.webhookTokenHash cur.webhookTokenHash
  webhookTokenPrefix :=
    mergeColumn read.webhookTokenPrefix new.webhookTokenPrefix cur.webhookTokenPrefix
  enabled := mergeColumn read.enabled new.enabled cur.enabled
  lastCalledAt := mergeColumn read.lastCalledAt new.lastCalledAt cur.lastCalledAt
  calledCount := mergeColumn read.calledCount new.calledCount cur.calledCount

/-- With nothing written in between, the flush installs the row as the session has it. -/
theorem Device.merge_self {read new : Device} (h : new.id = read.id) :
    read.merge new read = new := by
  cases new
  simp only [Device.merge, mergeColumn_self, Device.mk.injEq, and_self, and_true]
  exact h.symm

/-- With nothing written in between, the flush installs the row as the session has it. -/
theorem DeviceTunnel.merge_self {read new : DeviceTunnel} (h : new.id = read.id) :
    read.merge new read = new := by
  cases new
  simp only [DeviceTunnel.merge, mergeColumn_self, DeviceTunnel.mk.injEq, and_self, and_true]
  exact h.symm

/-- With nothing written in between, the flush installs the row as the session has it. -/
theorem DeviceWebhook.merge_self {read new : DeviceWebhook} (h : new.id = read.id) :
    read.merge new read = new := by
  cases new
  simp only [DeviceWebhook.merge, mergeColumn_self, DeviceWebhook.mk.injEq, and_self, and_true]
  exact h.symm

/-- A row whose columns are each the committed one or the new one fits as they do. -/
theorem Device.fits_merge {read new cur : Device} (hnew : new.fits = true)
    (hcur : cur.fits = true) : (read.merge new cur).fits = true := by
  rw [Device.fits_iff] at hnew hcur ⊢
  exact {
    deviceId := mergeColumn_of_both (p := fun v => fitsColumn 128 v = true) hnew.deviceId
      hcur.deviceId
    deviceName := mergeColumn_of_both
      (p := fun v : Option String => v.all (fitsColumn 255) = true) hnew.deviceName hcur.deviceName
    channelType := mergeColumn_of_both (p := fun v => fitsColumn 64 v = true) hnew.channelType
      hcur.channelType
    status := mergeColumn_of_both (p := fun v => fitsColumn 32 v = true) hnew.status hcur.status }

/-- A row whose columns are each the committed one or the new one fits as they do. -/
theorem DeviceTunnel.fits_merge {read new cur : DeviceTunnel} (hnew : new.fits = true)
    (hcur : cur.fits = true) : (read.merge new cur).fits = true := by
  rw [DeviceTunnel.fits_iff] at hnew hcur ⊢
  exact {
    deviceId := mergeColumn_of_both (p := fun v => fitsColumn 128 v = true) hnew.deviceId
      hcur.deviceId
    proxyType := mergeColumn_of_both (p := fun v => fitsColumn 16 v = true) hnew.proxyType
      hcur.proxyType
    proxyName := mergeColumn_of_both (p := fun v => fitsColumn 128 v = true) hnew.proxyName
      hcur.proxyName
    localIp := mergeColumn_of_both (p := fun v => fitsColumn 64 v = true) hnew.localIp hcur.localIp
    status := mergeColumn_of_both (p := fun v => fitsColumn 32 v = true) hnew.status hcur.status }

/-- A session that changed nothing but `base_url` leaves the other columns of the row alone. -/
theorem Device.merge_baseUrl (read cur : Device) (url : Option String) :
    read.merge { read with baseUrl := url } cur =
      { cur with baseUrl := mergeColumn read.baseUrl url cur.baseUrl } := by
  simp [Device.merge]

namespace Store

/-- Flush the loaded device row `read`, now held as `new`. -/
def writeDevice (db : Store) (read new : Device) : Store :=
  { db with devices := updateKey Device.id read.id (read.merge new) db.devices }

/-- Flush the loaded tunnel row `read`, now held as `new`. -/
def writeTunnel (db : Store) (read new : DeviceTunnel) : Store :=
  { db with
    deviceTunnels := updateKey DeviceTunnel.id read.id (read.merge new) db.deviceTunnels }

/-- Insert a device row; the database assigns the primary key. -/
def insertDevice (db : Store) (new : Device) : Store :=
  { db with devices := db.devices ++ [{ new with id := nextKey Device.id db.devices }] }

/-- Insert a tunnel row; the database assigns the primary key. -/
def insertTunnel (db : Store) (new : DeviceTunnel) : Store :=
  { db with
    deviceTunnels := db.deviceTunnels ++
      [{ new with id := nextKey DeviceTunnel.id db.deviceTunnels }] }

/-- Flush the loaded webhook row `read`, now held as `new`. -/
def writeWebhook (db : Store) (read new : DeviceWebhook) : Store :=
  { db with
    deviceWebhooks := updateKey DeviceWebhook.id read.id (read.merge new) db.deviceWebhooks }

/-- Insert a webhook row; the database assigns the primary key. -/
def insertWebhook (db : Store) (new : DeviceWebhook) : Store :=
  { db with
    deviceWebhooks := db.deviceWebhooks ++
      [{ new with id := nextKey DeviceWebhook.id db.deviceWebhooks }] }

/-- Insert an event row; the database assigns the primary key. -/
def insertEvent (db : Store) (new : DeviceEvent) : Store :=
  { db with
    deviceEvents := db.deviceEvents ++
      [{ new with id := nextKey DeviceEvent.id db.deviceEvents }] }

/-- Insert a command log row; the database assigns the primary key. -/
def insertCommandLog (db : Store) (new : DeviceCommandLog) : Store :=
  { db with
    deviceCommandLogs := db.deviceCommandLogs ++
      [{ new with id := nextKey DeviceCommandLog.id db.deviceCommandLogs }] }

/-- Flush the command log row `read`, now held as `new`: no other session writes the row of a
command that is running. -/
def writeCommandLog (db : Store) (read new : DeviceCommandLog) : Store :=
  { db with
    deviceCommandLogs := updateKey DeviceCommandLog.id read.id (fun _ => new)
      db.deviceCommandLogs }

/-- Insert an audit row; the database assigns the primary key. -/
def insertAuditLog (db : Store) (new : AuditLog) : Store :=
  { db with auditLogs := db.auditLogs ++ [{ new with id := nextKey AuditLog.id db.auditLogs }] }

/-! ### Writes the database accepts -/

section

variable {schema : Schema} {db : Store}

theorem mem_writeDevice {read new d : Device} (hu : UniqueKey Device.id db.devices)
    (hr : read ∈ db.devices) (hid : new.id = read.id) :
    d ∈ (db.writeDevice read new).devices ↔ d = new ∨ (d ∈ db.devices ∧ d ≠ read) := by
  rw [writeDevice, mem_updateKey_of_uniqueKey hu hr, Device.merge_self hid]

theorem mem_writeTunnel {read new t : DeviceTunnel}
    (hu : UniqueKey DeviceTunnel.id db.deviceTunnels) (hr : read ∈ db.deviceTunnels)
    (hid : new.id = read.id) :
    t ∈ (db.writeTunnel read new).deviceTunnels ↔
      t = new ∨ (t ∈ db.deviceTunnels ∧ t ≠ read) := by
  rw [writeTunnel, mem_updateKey_of_uniqueKey hu hr, DeviceTunnel.merge_self hid]

/-- A write that keeps the keys of a device row is accepted exactly if the row fits. -/
theorem admitted_writeDevice_iff {read new : Device} (h : db.Admitted schema)
    (hr : read ∈ db.devices) (hid : new.id = read.id) (hdev : new.deviceId = read.deviceId) :
    (db.writeDevice read new).Admitted schema ↔
      (schema.enforceLengths = true → new.fits = true) := by
  obtain ⟨hfit, ⟨hi, hd⟩, hrest⟩ := h
  have hmem : ∀ d, d ∈ (db.writeDevice read new).devices ↔ d = new ∨ (d ∈ db.devices ∧ d ≠ read) :=
    fun _ => mem_writeDevice hi hr hid
  constructor
  · intro h' he
    exact (h'.1 he).1 new ((hmem new).2 (Or.inl rfl))
  · intro hfits
    refine ⟨fun he => ?_, ⟨?_, ?_⟩, hrest⟩
    · obtain ⟨hdevices, hothers⟩ := hfit he
      refine ⟨fun d hd' => ?_, hothers⟩
      rcases (hmem d).1 hd' with rfl | ⟨hd', -⟩
      · exact hfits he
      · exact hdevices d hd'
    · exact (uniqueKey_updateKey (by exact fun _ _ _ => rfl)).2 hi
    · refine (uniqueKey_updateKey fun d hd' hk => ?_).2 hd
      rw [hi.eq hd' hr hk, Device.merge_self hid, hdev]

/-- A write that keeps the keys of a device row is accepted if the row still fits. -/
theorem Admitted.writeDevice {read new : Device} (h : db.Admitted schema)
    (hr : read ∈ db.devices) (hid : new.id = read.id) (hdev : new.deviceId = read.deviceId)
    (hfits : read.fits = true → new.fits = true) : (db.writeDevice read new).Admitted schema :=
  (admitted_writeDevice_iff h hr hid hdev).2 fun he => hfits ((h.1 he).1 read hr)

/-- A write that keeps the keys of a webhook row is accepted if the row still fits. -/
theorem Admitted.writeWebhook {read new : DeviceWebhook} (h : db.Admitted schema)
    (hr : read ∈ db.deviceWebhooks) (hid : new.id = read.id)
    (hhash : new.webhookTokenHash = read.webhookTokenHash)
    (hfits : read.fits = true → new.fits = true) :
    (db.writeWebhook read new).Admitted schema := by
  obtain ⟨hfit, hdevices, htunnels, ⟨hi, hh⟩, hrest⟩ := h
  have hmerge : ∀ w ∈ db.deviceWebhooks, w.id = read.id → read.merge new w = new ∧ w = read := by
    intro w hw hk
    obtain rfl := hi.eq hw hr hk
    exact ⟨DeviceWebhook.merge_self hid, rfl⟩
  refine ⟨fun he => ?_, hdevices, htunnels, ⟨?_, ?_⟩, hrest⟩
  · obtain ⟨hfd, hft, hfw, hothers⟩ := hfit he
    refine ⟨hfd, hft, fun w hw => ?_, hothers⟩
    rcases mem_updateKey.1 hw with ⟨old, hold, hk, rfl⟩ | ⟨hw, -⟩
    · rw [(hmerge old hold hk).1]
      exact hfits (hfw read hr)
    · exact hfw w hw
  · exact (uniqueKey_updateKey (by exact fun _ _ _ => rfl)).2 hi
  · refine (uniqueKey_updateKey fun w hw hk => ?_).2 hh
    rw [(hmerge w hw hk).1, hhash, (hmerge w hw hk).2]

/-- With a tunnel row rewritten, the strings still fit if those of the new row do. -/
theorem Fits.writeTunnel {read new : DeviceTunnel} (h : db.Fits)
    (hi : UniqueKey DeviceTunnel.id db.deviceTunnels) (hr : read ∈ db.deviceTunnels)
    (hid : new.id = read.id) (hnew : new.fits = true) : (db.writeTunnel read new).Fits := by
  obtain ⟨hfd, hft, hothers⟩ := h
  refine ⟨hfd, fun t ht => ?_, hothers⟩
  rcases (mem_writeTunnel hi hr hid).1 ht with rfl | ⟨ht, -⟩
  · exact hnew
  · exact hft t ht

/-- With a tunnel row added, the strings still fit if those of the new row do. -/
theorem Fits.insertTunnel {new : DeviceTunnel} (h : db.Fits) (hnew : new.fits = true) :
    (db.insertTunnel new).Fits := by
  obtain ⟨hfd, hft, hothers⟩ := h
  refine ⟨hfd, fun t ht => ?_, hothers⟩
  rcases List.mem_append.1 ht with ht | ht
  · exact hft t ht
  · rw [List.mem_singleton.1 ht]
    exact hnew

/-- A write that moves a tunnel row to a port no other row has is accepted if the row still fits. -/
theorem Admitted.moveTunnel {read new : DeviceTunnel} (h : db.Admitted schema)
    (hr : read ∈ db.deviceTunnels) (hid : new.id = read.id)
    (hdev : new.deviceId = read.deviceId)
    (hport : ∀ t ∈ db.deviceTunnels, t.id ≠ read.id → t.remotePort ≠ new.remotePort)
    (hfits : read.fits = true → new.fits = true) :
    (db.writeTunnel read new).Admitted schema := by
  obtain ⟨hfit, hdevices, ⟨hi, hp, hd⟩, hrest⟩ := h
  refine ⟨fun he => ?_, hdevices, ⟨?_, ?_, fun hs => ?_⟩, hrest⟩
  · exact (hfit he).writeTunnel hi hr hid (hfits ((hfit he).2.1 read hr))
  · exact (uniqueKey_updateKey (by exact fun _ _ _ => rfl)).2 hi
  · refine uniqueKey_updateKey_of_ne hi hp hr fun t ht hk => ?_
    rw [DeviceTunnel.merge_self hid]
    exact hport t ht hk
  · refine (uniqueKey_updateKey fun t ht hk => ?_).2 (hd hs)
    rw [hi.eq ht hr hk, DeviceTunnel.merge_self hid, hdev]

/-- A write that keeps the keys of a tunnel row is accepted if the row still fits. -/
theorem Admitted.writeTunnel {read new : DeviceTunnel} (h : db.Admitted schema)
    (hr : read ∈ db.deviceTunnels) (hid : new.id = read.id)
    (hdev : new.deviceId = read.deviceId) (hport : new.remotePort = read.remotePort)
    (hfits : read.fits = true → new.fits = true) :
    (db.writeTunnel read new).Admitted schema := by
  refine h.moveTunnel hr hid hdev (fun t ht hne heq => hne ?_) hfits
  rw [h.2.2.1.2.1.eq ht hr (heq.trans hport)]

/-- A write of `base_url` alone is accepted, whatever row the session had read. -/
theorem Admitted.writeBaseUrl (h : db.Admitted schema) (read : Device) (url : Option String) :
    (db.writeDevice read { read with baseUrl := url }).Admitted schema := by
  obtain ⟨hfit, ⟨hi, hd⟩, hrest⟩ := h
  unfold Store.writeDevice
  refine ⟨fun he => ?_, ⟨?_, ?_⟩, hrest⟩
  · obtain ⟨hdevices, hothers⟩ := hfit he
    refine ⟨fun d hd' => ?_, hothers⟩
    rcases mem_updateKey.1 hd' with ⟨cur, hcur, -, rfl⟩ | ⟨hd', -⟩
    · rw [Device.merge_baseUrl]
      exact hdevices cur hcur
    · exact hdevices d hd'
  · exact (uniqueKey_updateKey (by exact fun _ _ _ => rfl)).2 hi
  · refine (uniqueKey_updateKey fun cur _ _ => ?_).2 hd
    rw [Device.merge_baseUrl]

/-- A new tunnel row is accepted if it fits and its unique columns are new. -/
theorem Admitted.insertTunnel {new : DeviceTunnel} (h : db.Admitted schema)
    (hfits : schema.enforceLengths = true → new.fits = true)
    (hport : ∀ t ∈ db.deviceTunnels, t.remotePort ≠ new.remotePort)
    (hdevice : schema.uniqueTunnelDevice = true →
      ∀ t ∈ db.deviceTunnels, t.deviceId ≠ new.deviceId) :
    (db.insertTunnel new).Admitted schema := by
  obtain ⟨hfit, hd, ⟨hi, hp, hu⟩, hrest⟩ := h
  exact ⟨fun hs => (hfit hs).insertTunnel (hfits hs), hd,
    ⟨uniqueKey_concat_nextKey hi rfl, uniqueKey_concat.2 ⟨hp, hport⟩,
      fun hs => uniqueKey_concat.2 ⟨hu hs, hdevice hs⟩⟩, hrest⟩

/-- Which event rows make the texts of the table too long. -/
theorem fits_insertEvent {new : DeviceEvent} :
    (db.insertEvent new).Fits ↔ db.Fits ∧ new.fits = true := by
  have hevents : (∀ e ∈ (db.insertEvent new).deviceEvents, e.fits = true) ↔
      (∀ e ∈ db.deviceEvents, e.fits = true) ∧ new.fits = true := by
    unfold insertEvent
    rw [List.forall_mem_append, List.forall_mem_singleton]
    rfl
  constructor
  · rintro ⟨hfd, hft, hfw, hfe, hothers⟩
    obtain ⟨hold, hnew⟩ := hevents.1 hfe
    exact ⟨⟨hfd, hft, hfw, hold, hothers⟩, hnew⟩
  · rintro ⟨⟨hfd, hft, hfw, hfe, hothers⟩, hnew⟩
    exact ⟨hfd, hft, hfw, hevents.2 ⟨hfe, hnew⟩, hothers⟩

/-- A new command log row is accepted if it fits and its request identifier is new. -/
theorem Admitted.insertCommandLog {new : DeviceCommandLog} (h : db.Admitted schema)
    (hfits : schema.enforceLengths = true → new.fits = true)
    (hnew : ∀ l ∈ db.deviceCommandLogs, l.requestId ≠ new.requestId) :
    (db.insertCommandLog new).Admitted schema := by
  obtain ⟨hfit, hd, ht, hw, he, ⟨hi, hr⟩, ha⟩ := h
  refine ⟨fun hs => ?_, hd, ht, hw, he,
    ⟨uniqueKey_concat_nextKey hi rfl, uniqueKey_concat.2 ⟨hr, hnew⟩⟩, ha⟩
  obtain ⟨hfd, hft, hfw, hfe, hfl, hfa⟩ := hfit hs
  refine ⟨hfd, hft, hfw, hfe, fun l hl => ?_, hfa⟩
  rcases List.mem_append.1 hl with hl | hl
  · exact hfl l hl
  · rw [List.mem_singleton] at hl
    rw [hl]
    exact hfits hs

/-- A command log row may be rewritten under its request identifier. -/
theorem Admitted.writeCommandLog {read new : DeviceCommandLog} (h : db.Admitted schema)
    (hr : read ∈ db.deviceCommandLogs) (hid : new.id = read.id)
    (hreq : new.requestId = read.requestId) (hfits : read.fits = true → new.fits = true) :
    (db.writeCommandLog read new).Admitted schema := by
  obtain ⟨hfit, hd, ht, hw, he, ⟨hi, hu⟩, ha⟩ := h
  have hself : ∀ l ∈ db.deviceCommandLogs, l.id = read.id → l = read :=
    fun l hl hk => hi.eq hl hr hk
  refine ⟨fun hs => ?_, hd, ht, hw, he, ⟨?_, ?_⟩, ha⟩
  · obtain ⟨hfd, hft, hfw, hfe, hfl, hfa⟩ := hfit hs
    refine ⟨hfd, hft, hfw, hfe, fun l hl => ?_, hfa⟩
    rcases mem_updateKey.1 hl with ⟨old, hold, hk, rfl⟩ | ⟨hl, -⟩
    · exact hfits (hfl read hr)
    · exact hfl l hl
  · refine (uniqueKey_updateKey fun l hl hk => ?_).2 hi
    rw [hself l hl hk, hid]
  · refine (uniqueKey_updateKey fun l hl hk => ?_).2 hu
    rw [hself l hl hk, hreq]

/-- An audit row that fits is always accepted. -/
theorem Admitted.insertAuditLog {new : AuditLog} (h : db.Admitted schema)
    (hfits : schema.enforceLengths = true → new.fits = true) :
    (db.insertAuditLog new).Admitted schema := by
  obtain ⟨hfit, hd, ht, hw, he, hl, ha⟩ := h
  refine ⟨fun hs => ?_, hd, ht, hw, he, hl, uniqueKey_concat_nextKey ha rfl⟩
  obtain ⟨hfd, hft, hfw, hfe, hfl, hfa⟩ := hfit hs
  refine ⟨hfd, hft, hfw, hfe, hfl, fun a ha' => ?_⟩
  rcases List.mem_append.1 ha' with ha' | ha'
  · exact hfa a ha'
  · rw [List.mem_singleton] at ha'
    rw [ha']
    exact hfits hs

end

end Store

end SmsForwarder
