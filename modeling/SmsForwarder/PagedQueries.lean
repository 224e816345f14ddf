/-
**Paged queries and 64-bit offsets.**

A request for a page says which page it wants and how large a page is.  The schema bounds the size
of a page from both sides, and the number of the page only from below; the number is an integer of
any size.  The database skips `(page_num - 1) * page_size` rows and takes that number as a signed
integer of 64 bits, so the last pages that can be asked for are not the last ones the schema admits.

Main definitions:

* `SmsForwarder.PagedQueryRequest` — the request, with the checks of the schema;
* `SmsForwarder.CommandService.PageServed` — the query is answered with the page and logged so;
* `SmsForwarder.CommandService.PageRefused` — it fails like a device that cannot be reached;
* `SmsForwarder.CommandService.RejectsWide` — a driver that takes no wider integer.

Main results:

* `SmsForwarder.CommandService.pageServed_iff` — **a page is served exactly if its offset has 64
  bits**, and `SmsForwarder.CommandService.wide_page_refused` is a request whose offset has more.
-/

import SmsForwarder.DispatchEffects

set_option relaxedAutoImplicit false
set_option autoImplicit false

namespace SmsForwarder

open Py Tables

/-! ### The request -/

/-- `Literal["realtime", "cache"]`. -/
inductive QueryMode
  | realtime
  | cache

def QueryMode.text : QueryMode → String
  | .realtime => "realtime"
  | .cache => "cache"

/-- `PagedQueryRequest`; the fields of its subclasses, such as `keyword`, come after its own. -/
structure PagedQueryRequest where
  mode : QueryMode := .realtime
  pageNum : ℤ := 1
  pageSize : ℤ := 10
  fields : List (Str × Json) := []
  pageNum_ge : 1 ≤ pageNum := by decide
  pageSize_ge : 1 ≤ pageSize := by decide
  pageSize_le : pageSize ≤ 100 := by decide

namespace PagedQueryRequest

/-- `payload.model_dump()`. -/
def modelDump (req : PagedQueryRequest) : List (Str × Json) :=
  (py "mode", .str (py req.mode.text)) :: (py "page_num", .num (.int req.pageNum)) ::
    (py "page_size", .num (.int req.pageSize)) :: req.fields

/-- The rows in front of the page. -/
def offset (req : PagedQueryRequest) : ℤ := (req.pageNum - 1) * req.pageSize

theorem offset_nonneg (req : PagedQueryRequest) : 0 ≤ req.offset := by
  have hnum := req.pageNum_ge
  have hsize := req.pageSize_ge
  exact mul_nonneg (by omega) (by omega)

/-- The offset has 64 bits exactly up to a page that depends on the size. -/
theorem offset_lt_iff (req : PagedQueryRequest) :
    req.offset < 2 ^ 63 ↔ req.pageNum ≤ (2 ^ 63 - 1) / req.pageSize + 1 := by
  have hsize : 0 < req.pageSize := lt_of_lt_of_le one_pos req.pageSize_ge
  rw [← sub_le_iff_le_add, Int.le_ediv_iff_mul_le hsize]
  unfold offset
  omega

end PagedQueryRequest

namespace CommandService

/-! ### Served and refused pages -/

/-- The driver takes no integer of more than 64 bits with the sign, in a table that holds fewer rows
than that. -/
def RejectsWide (driver : Driver) : Prop :=
  ∀ (α : Type) (offset limit : ℤ) (rows : List α), 2 ^ 63 ≤ offset → (rows.length : ℤ) < 2 ^ 63 →
    driver.slice offset limit rows = none

section

variable (env : Env) (d : DispatchCall) (db : Store) (deviceId commandType eventType : String)
  (req : PagedQueryRequest) (userId : Option ℤ)

/-- The page is served: its offset is a signed integer of 64 bits, the answer has the rows of the
page and the number of all rows, with no rows beyond the end, and the log says that it succeeded. -/
structure PageServed : Prop where
  inRange : -2 ^ 63 ≤ req.offset ∧ req.offset < 2 ^ 63
  answered : ∃ page : CachePage,
    (dispatch env d db deviceId commandType req.modelDump userId).1 = .ok
        { requestId := generateRequestId d.uuid, mode := py "cache", result := page.data } ∧
      page.rows = ((d.order.sort (matchingEvents db deviceId eventType)).drop
        req.offset.toNat).take req.pageSize.toNat ∧
      page.total = (matchingEvents db deviceId eventType).length ∧
      (((matchingEvents db deviceId eventType).length : ℤ) ≤ req.offset → page.rows = [])
  logged : ∃ row, (dispatch env d db deviceId commandType req.modelDump userId).2 =
      { db with deviceCommandLogs := db.deviceCommandLogs ++ [row] } ∧ row.status = "success"

/-- The page is refused like a device that cannot be reached, and the log says that it failed. -/
structure PageRefused : Prop where
  answered : (dispatch env d db deviceId commandType req.modelDump userId).1 =
    .error (.app (DeviceChannelError "command dispatch failed"))
  logged : ∃ row, (dispatch env d db deviceId commandType req.modelDump userId).2 =
      { db with deviceCommandLogs := db.deviceCommandLogs ++ [row] } ∧ row.status = "failed"

end

section

variable {env : Env} {d : DispatchCall} {db : Store} {deviceId commandType eventType : String}
  {req : PagedQueryRequest} {userId : Option ℤ} {device : Device}

/-- A request in cache mode asks for a page of the cache, counted from one. -/
theorem cacheRequest_modelDump (hmode : req.mode = .cache) :
    CacheRequest env req.modelDump ((req.pageNum - 1).toNat + 1) req.pageSize.toNat := by
  have hnum := req.pageNum_ge
  have hsize := req.pageSize_ge
  have hnum' : (((req.pageNum - 1).toNat + 1 : ℕ) : ℤ) = req.pageNum := by omega
  have hsize' : (req.pageSize.toNat : ℤ) = req.pageSize := by omega
  refine ⟨?_, ?_, ?_⟩
  · unfold PagedQueryRequest.modelDump
    rw [hmode]
    rfl
  · rw [hnum']
    rfl
  · rw [hsize']
    rfl

/-- The log row that is inserted first does not change what the query finds. -/
theorem matchingEvents_of_createLog {db' : Store} {log : DeviceCommandLog}
    {payload : List (Str × Json)}
    (h : createLog env d db device commandType payload userId = .ok (db', log)) :
    matchingEvents db' deviceId eventType = matchingEvents db deviceId eventType := by
  obtain ⟨_, -, h⟩ := bind_eq_ok.1 h
  obtain ⟨inserted, hinsert, h⟩ := bind_eq_ok.1 h
  obtain ⟨rfl, -⟩ := commit_eq_ok.1 hinsert
  cases h
  rfl

/-- With a 64-bit offset the query returns the page. -/
theorem query_of_offset_lt (env : Env) (d : DispatchCall) (db' : Store) (device : Device)
    (deviceId : String) (hcommand : ofCommand EVENT_TYPES commandType = some eventType)
    (hmode : req.mode = .cache) (hoffset : req.offset < 2 ^ 63) :
    ∃ page : CachePage,
      query env d db' device deviceId commandType req.modelDump = .ok page.data ∧
        page.rows = ((d.order.sort (matchingEvents db' deviceId eventType)).drop
          req.offset.toNat).take req.pageSize.toNat ∧
        page.total = (matchingEvents db' deviceId eventType).length := by
  have hreq : CacheRequest env req.modelDump ((req.pageNum - 1).toNat + 1) req.pageSize.toNat :=
    cacheRequest_modelDump hmode
  have hnum := req.pageNum_ge
  have hsize := req.pageSize_ge
  have hmax := req.pageSize_le
  -- the pages of a table are counted from zero, those of a request from one
  have hcast : (((req.pageNum - 1).toNat * req.pageSize.toNat : ℕ) : ℤ) = req.offset := by
    rw [Nat.cast_mul, Int.toNat_of_nonneg (by omega), Int.toNat_of_nonneg (by omega)]
    rfl
  have hoffset' : (req.pageNum - 1).toNat * req.pageSize.toNat < 2 ^ 63 := by
    rw [← hcast] at hoffset
    exact_mod_cast hoffset
  have htoNat : req.offset.toNat = (req.pageNum - 1).toNat * req.pageSize.toNat := by
    rw [← hcast, Int.toNat_natCast]
  obtain ⟨page, hpage, hrows, htotal⟩ : ∃ page : CachePage,
      queryCache env d db' deviceId commandType req.modelDump = .ok page ∧
        page.rows = Tables.page req.pageSize.toNat (req.pageNum - 1).toNat
          (d.order.sort (matchingEvents db' deviceId eventType)) ∧
        page.total = (matchingEvents db' deviceId eventType).length :=
    ⟨_, queryCache_of_request hcommand hreq (Or.inl hoffset') (by omega), rfl, rfl⟩
  refine ⟨page, ?_, ?_, htotal⟩
  · unfold query
    rw [if_pos hreq.mode, hpage]
    rfl
  · rw [hrows, htoNat]
    rfl

/-- With a wider one the driver raises. -/
theorem query_of_offset_ge (d : DispatchCall) (db' : Store) (device : Device) (deviceId : String)
    (hrejects : RejectsWide env.driver)
    (hrows : ((matchingEvents db' deviceId eventType).length : ℤ) < 2 ^ 63)
    (hcommand : ofCommand EVENT_TYPES commandType = some eventType) (hmode : req.mode = .cache)
    (hoffset : 2 ^ 63 ≤ req.offset) :
    query env d db' device deviceId commandType req.modelDump = .error .dataError := by
  have hreq : CacheRequest env req.modelDump ((req.pageNum - 1).toNat + 1) req.pageSize.toNat :=
    cacheRequest_modelDump hmode
  have hnum : intOf env (Json.getD req.modelDump (py "page_num") (.num (.int 1))) =
      .ok req.pageNum := rfl
  have hsize : intOf env (Json.getD req.modelDump (py "page_size") (.num (.int 10))) =
      .ok req.pageSize := rfl
  have hlen := (d.order.perm (matchingEvents db' deviceId eventType)).length_eq
  have hslice : env.driver.slice ((req.pageNum - 1) * req.pageSize) req.pageSize
      (d.order.sort (matchingEvents db' deviceId eventType)) = none :=
    hrejects _ _ _ _ hoffset (by rw [hlen]; exact hrows)
  have hfetch : fetchPage env d (matchingEvents db' deviceId eventType) req.pageNum req.pageSize =
      .error .dataError := by
    unfold fetchPage
    rw [hslice]
  have htype : cachedType commandType = .ok eventType := by
    unfold cachedType
    rw [hcommand]
  unfold query
  rw [if_pos hreq.mode]
  unfold queryCache
  simp only [htype, hnum, hsize, hfetch, bind, Except.bind, Except.map]

theorem pageServed_of_offset_lt (hadm : db.Admitted env.schema) (hd : device ∈ db.devices)
    (hcommand : ofCommand EVENT_TYPES commandType = some eventType) (hmode : req.mode = .cache)
    (hlog : LogStatementsSucceed env d db device.deviceId commandType req.modelDump userId)
    (hoffset : req.offset < 2 ^ 63) :
    PageServed env d db device.deviceId commandType eventType req userId := by
  have hdevice := requireDevice_of_mem hadm.2.1.2 hd
  obtain ⟨db', log, db'', hcreate, hconclude⟩ := hlog device hdevice
  obtain ⟨page, hquery, hrows, htotal⟩ :=
    query_of_offset_lt env d db' device device.deviceId hcommand hmode hoffset
  -- the query runs on the store that has the log row already
  rw [matchingEvents_of_createLog hcreate] at hrows htotal
  obtain ⟨hstore, hanswer⟩ := dispatch_of_statements hdevice hcreate hconclude
  rw [hquery] at hanswer
  unfold concludeLog at hconclude
  rw [hquery] at hconclude
  obtain ⟨rfl, hdb⟩ := rows_of_statements hcreate hconclude
  have hnonneg := req.offset_nonneg
  refine ⟨⟨by omega, hoffset⟩, ⟨page, ?_, hrows, htotal, fun hend => ?_⟩,
    ⟨_, hstore.trans hdb, rfl⟩⟩
  · rw [hanswer, (cacheRequest_modelDump hmode).mode]
    rfl
  · rw [hrows, List.drop_of_length_le, List.take_nil]
    rw [(d.order.perm _).length_eq]
    omega

theorem pageRefused_of_offset_ge (hadm : db.Admitted env.schema) (hd : device ∈ db.devices)
    (hcommand : ofCommand EVENT_TYPES commandType = some eventType) (hmode : req.mode = .cache)
    (hlog : LogStatementsSucceed env d db device.deviceId commandType req.modelDump userId)
    (hrejects : RejectsWide env.driver)
    (hrows : ((matchingEvents db device.deviceId eventType).length : ℤ) < 2 ^ 63)
    (hoffset : 2 ^ 63 ≤ req.offset) :
    PageRefused env d db device.deviceId commandType req userId := by
  have hdevice := requireDevice_of_mem hadm.2.1.2 hd
  obtain ⟨db', log, db'', hcreate, hconclude⟩ := hlog device hdevice
  rw [← matchingEvents_of_createLog hcreate] at hrows
  have hquery := query_of_offset_ge d db' device device.deviceId hrejects hrows hcommand hmode
    hoffset
  obtain ⟨hstore, hanswer⟩ := dispatch_of_statements hdevice hcreate hconclude
  rw [hquery] at hanswer
  unfold concludeLog at hconclude
  rw [hquery] at hconclude
  obtain ⟨rfl, hdb⟩ := rows_of_statements hcreate hconclude
  exact ⟨hanswer, _, hstore.trans hdb, rfl⟩

end

/-- **A page is served exactly if its offset has 64 bits**, that is, up to a page whose number
depends on the size of the pages.  Beyond that a driver that takes no wider integer makes the query
fail like one to a device that cannot be reached. -/
theorem pageServed_iff (env : Env) (d : DispatchCall) (db : Store) (hadm : db.Admitted env.schema)
    (device : Device) (hd : device ∈ db.devices) (commandType eventType : String)
    (hcommand : ofCommand EVENT_TYPES commandType = some eventType) (req : PagedQueryRequest)
    (hmode : req.mode = .cache) (userId : Option ℤ)
    (hlog : LogStatementsSucceed env d db device.deviceId commandType req.modelDump userId) :
    (PageServed env d db device.deviceId commandType eventType req userId ↔
        req.pageNum ≤ (2 ^ 63 - 1) / req.pageSize + 1) ∧
      (RejectsWide env.driver →
        ((matchingEvents db device.deviceId eventType).length : ℤ) < 2 ^ 63 →
          ¬ req.pageNum ≤ (2 ^ 63 - 1) / req.pageSize + 1 →
            PageRefused env d db device.deviceId commandType req userId) := by
  rw [← req.offset_lt_iff]
  refine ⟨⟨fun hserved => hserved.inRange.2,
    pageServed_of_offset_lt hadm hd hcommand hmode hlog⟩, fun hrejects hrows hoffset => ?_⟩
  exact pageRefused_of_offset_ge hadm hd hcommand hmode hlog hrejects hrows (not_lt.1 hoffset)

/-! ### The first and the last page -/

theorem plainDriver_rejectsWide : RejectsWide plainDriver := by
  intro α offset limit rows hoffset hrows
  unfold plainDriver
  exact if_neg (by omega)

/-- The device of `reachedStore`. -/
def reachedDevice : Device :=
  { DeviceService.newDevice (plainEnv ormSchema) Uuid.nil 0 {} with
    id := 1
    baseUrl := some "http://10.0.0.7:5000" }

def firstPage : PagedQueryRequest := { mode := .cache }

/-- A page behind `2 ^ 63` pages of one row. -/
def widePage : PagedQueryRequest := { mode := .cache, pageNum := 2 ^ 63 + 1, pageSize := 1 }

theorem firstPage_served :
    (PageServed (plainEnv ormSchema) silentCall reachedStore reachedDevice.deviceId "sms.query" "sms"
        firstPage none ↔ firstPage.pageNum ≤ (2 ^ 63 - 1) / firstPage.pageSize + 1) ∧
      (RejectsWide (plainEnv ormSchema).driver →
        ((matchingEvents reachedStore reachedDevice.deviceId "sms").length : ℤ) < 2 ^ 63 →
          ¬ firstPage.pageNum ≤ (2 ^ 63 - 1) / firstPage.pageSize + 1 →
            PageRefused (plainEnv ormSchema) silentCall reachedStore reachedDevice.deviceId
              "sms.query" firstPage none) := by
  refine pageServed_iff (plainEnv ormSchema) silentCall reachedStore (by decide) reachedDevice
    (by decide) "sms.query" "sms" (by decide) firstPage rfl none fun device hdevice => ?_
  cases hdevice
  exact ⟨_, _, _, rfl, rfl⟩

/-- **A request that the schema admits is refused** as if the device could not be reached, and its
log row says that it failed. -/
theorem wide_page_refused :
    PageRefused (plainEnv ormSchema) silentCall reachedStore reachedDevice.deviceId "sms.query"
        widePage none ∧
      ¬ PageServed (plainEnv ormSchema) silentCall reachedStore reachedDevice.deviceId "sms.query"
        "sms" widePage none := by
  have hlog : LogStatementsSucceed (plainEnv ormSchema) silentCall reachedStore
      reachedDevice.deviceId "sms.query" widePage.modelDump none := by
    intro device hdevice
    cases hdevice
    exact ⟨_, _, _, rfl, rfl⟩
  have hcommand : ofCommand EVENT_TYPES "sms.query" = some "sms" := by decide
  have hrows : ((matchingEvents reachedStore reachedDevice.deviceId "sms").length : ℤ) < 2 ^ 63 := by
    decide
  refine ⟨pageRefused_of_offset_ge (by decide) (by decide) hcommand rfl hlog
    plainDriver_rejectsWide hrows (by decide), fun hserved => ?_⟩
  exact absurd hserved.inRange.2 (by decide)

end CommandService

end SmsForwarder
