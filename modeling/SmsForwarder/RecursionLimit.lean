/-
**Masking under the recursion limit.**

`scrub` calls itself for every level of a value, and the interpreter ends a chain of calls that is
too long with a `RecursionError`.  A dispatch scrubs the request before it has a row in the log, and
the answer of the device after its query, outside the `try` block: an answer that nests too deep
leaves the row pending, and the caller with an exception that is no application error.

Main definitions:

* `SmsForwarder.StackLimit`, `SmsForwarder.scrubWithin` — the frames that are left, and `scrub` with
  no more than these;
* `SmsForwarder.scrubFrames` — the frames that `scrub` takes;
* `SmsForwarder.CommandService.limitedDispatch` — a dispatch under the limit;
* `SmsForwarder.CommandService.Shallow` — what it scrubs nests within the limit.

Main results:

* `SmsForwarder.scrubWithin_eq` — the limit only matters for values that nest too deep;
* `SmsForwarder.CommandService.limitedDispatch_of_shallow` — a dispatch that scrubs none is not
  limited;
* `SmsForwarder.CommandService.dispatchSound_iff` — **a dispatch is logged as it should exactly when
  what it scrubs nests within the limit**;
* `SmsForwarder.CommandService.deep_answer_pending` — a dispatch that is not.
-/

import SmsForwarder.DispatchEffects

set_option relaxedAutoImplicit false
set_option autoImplicit false

namespace SmsForwarder

open Py Tables Effects

/-! ### Calls of `scrub` -/

/-- What the interpreter allows. -/
structure StackLimit where
  /-- the frames that the recursion limit leaves to the calls of `scrub`, besides the one that each
  of them takes for a while: `mask_phone` for a text, `isinstance` of an abstract class otherwise -/
  frames : ℕ
  /-- the frames of a list comprehension: one before Python 3.12, none since -/
  comprehension : ℕ

/-- A call that takes `cost` of the frames. -/
def enterFrames {α : Type} (cost frames : ℕ) (body : ℕ → Except PyError α) : Except PyError α :=
  if cost ≤ frames then body (frames - cost) else .error .recursionError

section

variable (rt : Runtime) (comprehension : ℕ)

mutual

/-- `scrub` with so many frames. -/
def scrubWithin : Json → ℕ → Except PyError Json
  | .str s, frames => enterFrames 1 frames fun _ => .ok (.str (maskPhone rt s))
  | .obj kvs, frames => enterFrames 1 frames fun left => (scrubFieldsWithin kvs left).map .obj
  | .arr xs, frames =>
      enterFrames (1 + comprehension) frames fun left => (scrubItemsWithin xs left).map .arr
  | v, frames => enterFrames 1 frames fun _ => .ok v

def scrubItemsWithin : List Json → ℕ → Except PyError (List Json)
  | [], _ => .ok []
  | x :: xs, frames => do
      let item ← scrubWithin x frames
      let items ← scrubItemsWithin xs frames
      pure (item :: items)

def scrubFieldsWithin : List (Str × Json) → ℕ → Except PyError (List (Str × Json))
  | [], _ => .ok []
  | (key, item) :: kvs, frames => do
      let cleaned ←
        if isSensitive rt key then .ok (.str stars)
        else if isContent rt key && item.isStr then .ok (contentLength (strLen item))
        else scrubWithin item frames
      let rest ← scrubFieldsWithin kvs frames
      pure ((key, cleaned) :: rest)

end

mutual

/-- The frames that `scrub` takes: a level of the value takes one, and those of the comprehension if
it is a list. -/
def scrubFrames : Json → ℕ
  | .obj kvs => 1 + fieldsFrames kvs
  | .arr xs => 1 + comprehension + itemsFrames xs
  | _ => 1

def itemsFrames : List Json → ℕ
  | [] => 0
  | x :: xs => max (scrubFrames x) (itemsFrames xs)

def fieldsFrames : List (Str × Json) → ℕ
  | [] => 0
  | (key, item) :: kvs =>
      max (if isSensitive rt key || isContent rt key && item.isStr then 0 else scrubFrames item)
        (fieldsFrames kvs)

end

variable {rt comprehension}

theorem scrubItemsWithin_eq {xs : List Json} (frames : ℕ)
    (h : ∀ x ∈ xs, scrubWithin rt comprehension x frames =
      if scrubFrames rt comprehension x ≤ frames then .ok (scrub rt x) else .error .recursionError) :
    scrubItemsWithin rt comprehension xs frames =
      if itemsFrames rt comprehension xs ≤ frames then .ok (scrubItems rt xs)
      else .error .recursionError := by
  induction xs with
  | nil => simp [scrubItemsWithin, itemsFrames, scrubItems]
  | cons x xs ih =>
      rw [scrubItemsWithin, itemsFrames, scrubItems, h x List.mem_cons_self,
        ih fun y hy => h y (List.mem_cons_of_mem x hy)]
      by_cases hx : scrubFrames rt comprehension x ≤ frames
      · by_cases hxs : itemsFrames rt comprehension xs ≤ frames
        · simp [hx, hxs, bind, Except.bind, pure, Except.pure]
        · simp [hx, hxs, bind, Except.bind]
      · simp [hx, bind, Except.bind]

theorem scrubFieldsWithin_eq {kvs : List (Str × Json)} (frames : ℕ)
    (h : ∀ kv ∈ kvs, scrubWithin rt comprehension kv.2 frames =
      if scrubFrames rt comprehension kv.2 ≤ frames then .ok (scrub rt kv.2)
      else .error .recursionError) :
    scrubFieldsWithin rt comprehension kvs frames =
      if fieldsFrames rt comprehension kvs ≤ frames then .ok (scrubFields rt kvs)
      else .error .recursionError := by
  induction kvs with
  | nil => simp [scrubFieldsWithin, fieldsFrames, scrubFields]
  | cons kv kvs ih =>
      obtain ⟨key, item⟩ := kv
      rw [scrubFieldsWithin, fieldsFrames, scrubFields, h (key, item) List.mem_cons_self,
        ih fun kv hkv => h kv (List.mem_cons_of_mem _ hkv)]
      by_cases hrest : fieldsFrames rt comprehension kvs ≤ frames
      · cases hs : isSensitive rt key with
        | true => simp [hrest, bind, Except.bind, pure, Except.pure]
        | false =>
            cases hc : isContent rt key && item.isStr with
            | true => simp [hrest, bind, Except.bind, pure, Except.pure]
            | false =>
                by_cases hitem : scrubFrames rt comprehension item ≤ frames
                · simp [hrest, hitem, bind, Except.bind, pure, Except.pure]
                · simp [hitem, bind, Except.bind]
      · cases hs : isSensitive rt key with
        | true => simp [hrest, bind, Except.bind]
        | false =>
            cases hc : isContent rt key && item.isStr with
            | true => simp [hrest, bind, Except.bind]
            | false =>
                by_cases hitem : scrubFrames rt comprehension item ≤ frames
                · simp [hrest, hitem, bind, Except.bind]
                · simp [hitem, bind, Except.bind]

/-- **The limit only matters for values that nest too deep.** -/
theorem scrubWithin_eq (v : Json) (frames : ℕ) :
    scrubWithin rt comprehension v frames =
      if scrubFrames rt comprehension v ≤ frames then .ok (scrub rt v)
      else .error .recursionError := by
  induction v using Json.ind generalizing frames with
  | null | bool | num | str => rfl
  | arr xs ih =>
      rw [scrubWithin, scrubFrames, scrub, enterFrames, scrubItemsWithin_eq _ fun x hx => ih x hx _]
      by_cases hcost : 1 + comprehension ≤ frames
      · rw [if_pos hcost]
        by_cases hitems : itemsFrames rt comprehension xs ≤ frames - (1 + comprehension)
        · rw [if_pos hitems, if_pos (by omega)]
          rfl
        · rw [if_neg hitems, if_neg (by omega)]
          rfl
      · rw [if_neg hcost, if_neg (by omega)]
  | obj kvs ih =>
      rw [scrubWithin, scrubFrames, scrub, enterFrames,
        scrubFieldsWithin_eq _ fun kv hkv => ih kv hkv _]
      by_cases hcost : 1 ≤ frames
      · rw [if_pos hcost]
        by_cases hfields : fieldsFrames rt comprehension kvs ≤ frames - 1
        · rw [if_pos hfields, if_pos (by omega)]
          rfl
        · rw [if_neg hfields, if_neg (by omega)]
          rfl
      · rw [if_neg hcost, if_neg (by omega)]

/-- The test on a key in ASCII. -/
theorem isSensitive_ascii {key : Str} (h : isAscii key = true) :
    isSensitive rt key = (decide (key.map asciiLower ∈ SENSITIVE_KEYS) ||
      (py "_secret").isSuffixOf (key.map asciiLower)) := by
  unfold isSensitive
  rw [rt.lower_ascii key h]

end

namespace CommandService

open SmsForwarderHttpAdapter

section

variable (env : Env) (limit : StackLimit)

/-! ### A dispatch under the limit -/

/-- The frames that `scrub` takes for a dictionary. -/
def dictFrames (kvs : List (Str × Json)) : ℕ :=
  scrubFrames env.runtime limit.comprehension (.obj kvs)

/-- `scrub` of a dictionary. -/
def limitedScrub (kvs : List (Str × Json)) : Except PyError Json :=
  scrubWithin env.runtime limit.comprehension (.obj kvs) limit.frames

/-- `CommandService._create_log`: the request is scrubbed before the row is added. -/
def limitedCreateLog (d : DispatchCall) (db : Store) (device : Device) (commandType : String)
    (payload : List (Str × Json)) (userId : Option ℤ) :
    Except PyError (Store × DeviceCommandLog) := do
  let _ ← limitedScrub env limit payload
  createLog env d db device commandType payload userId

/-- The dictionary that `_finish_log` scrubs. -/
def summarized : Except PyError (List (Str × Json)) → List (Str × Json)
  | .ok data => data
  | .error _ => []

/-- `CommandService._finish_log` at the end of a dispatch: the answer of the query is scrubbed before
the commit, and nothing catches what `scrub` raises. -/
def limitedConclude (d : DispatchCall) (db : Store) (log : DeviceCommandLog)
    (outcome : Except PyError (List (Str × Json))) : Except PyError Store := do
  let _ ← limitedScrub env limit (summarized outcome)
  concludeLog env d db log outcome

/-- The end of a dispatch. -/
def limitedFinish (d : DispatchCall) (db : Store) (log : DeviceCommandLog) (mode : Str)
    (outcome : Except PyError (List (Str × Json))) : Except PyError DispatchAnswer × Store :=
  match limitedScrub env limit (summarized outcome) with
  | .ok _ => finish env d db log mode outcome
  | .error e => (.error e, db)

/-- `CommandService.dispatch` under the limit, with its record. -/
def limitedDispatch (d : DispatchCall) (db : Store) (deviceId commandType : String)
    (payload : List (Str × Json)) (userId : Option ℤ) : DispatchRun :=
  match requireDevice db deviceId with
  | .error e => ((.error e, db), [])
  | .ok device =>
      match limitedCreateLog env limit d db device commandType payload userId with
      | .error e => ((.error e, db), [])
      | .ok (db', log) =>
          let outcome := tracedQuery env d db' device deviceId commandType payload
          (limitedFinish env limit d db' log (modeOf env payload) outcome.result, outcome.effects)

/-- What a dispatch scrubs nests within the limit: its request, the page that a cache query reads,
and the object that the device answers to the message of a realtime query. -/
structure Shallow (d : DispatchCall) (db : Store) (deviceId commandType : String)
    (payload : List (Str × Json)) (device : Device) : Prop where
  request : dictFrames env limit payload ≤ limit.frames
  page : modeOf env payload = py "cache" → ∀ eventType pageNum pageSize rows,
    cachedType commandType = .ok eventType →
    intOf env (Json.getD payload (py "page_num") (.num (.int 1))) = .ok pageNum →
    intOf env (Json.getD payload (py "page_size") (.num (.int 10))) = .ok pageSize →
    fetchPage env d (matchingEvents db deviceId eventType) pageNum pageSize = .ok rows →
      1 + scrubFrames env.runtime limit.comprehension
        (.arr (rows.map DeviceEvent.normalizedPayload)) ≤ limit.frames
  answer : modeOf env payload = py "realtime" → ∀ baseUrl path secret data,
    reachableUrl device = .ok baseUrl → commandPath commandType = .ok path →
    signSecret env device = .ok secret → baseUrl ≠ "" →
    d.post (requestUrl baseUrl path)
        (requestBody d (payload.filter fun kv => kv.1 ≠ py "mode") secret) =
      .response (.obj data) →
      dictFrames env limit data ≤ limit.frames

end

/-! ### When the limit matters -/

section

variable {env : Env} {limit : StackLimit} {d : DispatchCall} {db db' : Store} {device : Device}
  {deviceId commandType : String} {payload : List (Str × Json)} {userId : Option ℤ}
  {log : DeviceCommandLog}

theorem limitedScrub_eq (kvs : List (Str × Json)) :
    limitedScrub env limit kvs =
      if dictFrames env limit kvs ≤ limit.frames then .ok (scrub env.runtime (.obj kvs))
      else .error .recursionError :=
  scrubWithin_eq _ _

theorem one_le_dictFrames (kvs : List (Str × Json)) : 1 ≤ dictFrames env limit kvs := by
  unfold dictFrames
  rw [scrubFrames]
  omega

/-- An empty dictionary takes no more than any other. -/
theorem dictFrames_nil : dictFrames env limit [] = 1 := by
  unfold dictFrames
  rw [scrubFrames, fieldsFrames]

/-- The page of a cache query nests one level deeper than its rows. -/
theorem dictFrames_page (page : CachePage) :
    dictFrames env limit page.data = 1 + scrubFrames env.runtime limit.comprehension
      (.arr (page.rows.map DeviceEvent.normalizedPayload)) := by
  have hkeys : ∀ key ∈ [py "items", py "total", py "page_num", py "page_size"],
      isSensitive env.runtime key = false := by
    intro key hkey
    have hascii : ∀ key ∈ [py "items", py "total", py "page_num", py "page_size"],
        isAscii key = true ∧ (decide (key.map asciiLower ∈ SENSITIVE_KEYS) ||
          (py "_secret").isSuffixOf (key.map asciiLower)) = false := by decide
    rw [isSensitive_ascii (hascii key hkey).1, (hascii key hkey).2]
  simp only [List.forall_mem_cons] at hkeys
  obtain ⟨hitems, htotal, hnum, hsize, -⟩ := hkeys
  unfold dictFrames CachePage.data
  simp only [scrubFrames, fieldsFrames, hitems, htotal, hnum, hsize, Json.isStr, Bool.and_false,
    Bool.or_false, Bool.false_eq_true, if_false]
  omega

/-- What a cache query returns, by its steps. -/
theorem queryCache_eq_ok_iff {page : CachePage} :
    queryCache env d db deviceId commandType payload = .ok page ↔
      ∃ eventType, cachedType commandType = .ok eventType ∧
        intOf env (Json.getD payload (py "page_num") (.num (.int 1))) = .ok page.pageNum ∧
        intOf env (Json.getD payload (py "page_size") (.num (.int 10))) = .ok page.pageSize ∧
        fetchPage env d (matchingEvents db deviceId eventType) page.pageNum page.pageSize =
          .ok page.rows ∧
        page.total = (matchingEvents db deviceId eventType).length := by
  unfold queryCache
  constructor
  · intro h
    obtain ⟨eventType, htype, h⟩ := bind_eq_ok.1 h
    obtain ⟨pageNum, hnum, h⟩ := bind_eq_ok.1 h
    obtain ⟨pageSize, hsize, h⟩ := bind_eq_ok.1 h
    obtain ⟨rows, hrows, h⟩ := bind_eq_ok.1 h
    obtain rfl := Except.ok.inj h
    exact ⟨eventType, htype, hnum, hsize, hrows, rfl⟩
  · rintro ⟨eventType, htype, hnum, hsize, hrows, htotal⟩
    simp only [htype, hnum, hsize, hrows, ← htotal, bind, Except.bind, pure, Except.pure]

/-- What a request to the device returns. -/
theorem request_eq_ok_iff {baseUrl path : String} {body : List (Str × Json)}
    {secret : Option String} {data : List (Str × Json)} :
    request d baseUrl path body secret = .ok data ↔
      baseUrl ≠ "" ∧
        d.post (requestUrl baseUrl path) (requestBody d body secret) = .response (.obj data) := by
  unfold request
  by_cases hurl : baseUrl = ""
  · simp [hurl]
  · rw [if_neg hurl]
    split <;> simp_all

/-- **What a query returns nests within the limit** exactly if the page does that it reads, or the
answer of the device. -/
theorem shallow_query_iff :
    (∀ data, query env d db device deviceId commandType payload = .ok data →
        dictFrames env limit data ≤ limit.frames) ∧
      dictFrames env limit payload ≤ limit.frames ↔
    Shallow env limit d db deviceId commandType payload device := by
  unfold query
  constructor
  · rintro ⟨hdata, hrequest⟩
    refine ⟨hrequest, fun hmode eventType pageNum pageSize rows htype hnum hsize hrows => ?_,
      fun hmode baseUrl path secret data hurl hpath hsecret hne hpost => ?_⟩
    · have hpage : queryCache env d db deviceId commandType payload =
          .ok ⟨rows, (matchingEvents db deviceId eventType).length, pageNum, pageSize⟩ :=
        queryCache_eq_ok_iff.2 ⟨eventType, htype, hnum, hsize, hrows, rfl⟩
      rw [if_pos hmode, hpage] at hdata
      have hle := hdata _ rfl
      rwa [dictFrames_page] at hle
    · have hrealtime : py "realtime" ≠ py "cache" := by decide
      rw [if_neg (by rw [hmode]; exact hrealtime), if_pos hmode] at hdata
      refine hdata data ?_
      unfold queryRealtime
      simp only [hurl, hpath, hsecret, bind, Except.bind]
      exact request_eq_ok_iff.2 ⟨hne, hpost⟩
  · intro h
    refine ⟨fun data hdata => ?_, h.request⟩
    split at hdata
    · rename_i hmode
      cases hcache : queryCache env d db deviceId commandType payload with
      | error e => simp [hcache, Except.map] at hdata
      | ok page =>
          rw [hcache] at hdata
          obtain rfl : page.data = data := Except.ok.inj hdata
          obtain ⟨eventType, htype, hnum, hsize, hrows, -⟩ := queryCache_eq_ok_iff.1 hcache
          rw [dictFrames_page]
          exact h.page hmode eventType page.pageNum page.pageSize page.rows htype hnum hsize hrows
    · split at hdata
      · rename_i hmode
        obtain ⟨baseUrl, hurl, hdata⟩ := bind_eq_ok.1 hdata
        obtain ⟨path, hpath, hdata⟩ := bind_eq_ok.1 hdata
        obtain ⟨secret, hsecret, hdata⟩ := bind_eq_ok.1 hdata
        obtain ⟨hne, hpost⟩ := request_eq_ok_iff.1 hdata
        exact h.answer hmode baseUrl path secret data hurl hpath hsecret hne hpost
      · simp at hdata

/-- The insertion of the log row changes nothing that a query reads. -/
theorem query_of_createLog
    (h : createLog env d db device commandType payload userId = .ok (db', log)) :
    query env d db' device deviceId commandType payload =
      query env d db device deviceId commandType payload := by
  obtain ⟨_, -, h⟩ := bind_eq_ok.1 h
  obtain ⟨inserted, hinsert, h⟩ := bind_eq_ok.1 h
  obtain ⟨rfl, -⟩ := commit_eq_ok.1 hinsert
  cases h
  rfl

/-- The first commit of a dispatch whose request does not nest too deep. -/
theorem limitedCreateLog_eq (h : dictFrames env limit payload ≤ limit.frames) :
    limitedCreateLog env limit d db device commandType payload userId =
      createLog env d db device commandType payload userId := by
  unfold limitedCreateLog
  rw [limitedScrub_eq, if_pos h]
  rfl

/-- The limit leaves the statements as they are. -/
theorem createLog_of_limited
    (h : limitedCreateLog env limit d db device commandType payload userId = .ok (db', log)) :
    createLog env d db device commandType payload userId = .ok (db', log) := by
  obtain ⟨_, -, h⟩ := bind_eq_ok.1 h
  exact h

theorem concludeLog_of_limited {outcome : Except PyError (List (Str × Json))}
    (h : limitedConclude env limit d db log outcome = .ok db') :
    concludeLog env d db log outcome = .ok db' := by
  obtain ⟨_, -, h⟩ := bind_eq_ok.1 h
  exact h

/-- **A dispatch that scrubs nothing too deep is not limited.** -/
theorem limitedDispatch_of_shallow (hdevice : requireDevice db deviceId = .ok device)
    (h : Shallow env limit d db deviceId commandType payload device) :
    limitedDispatch env limit d db deviceId commandType payload userId =
      tracedDispatch env d db deviceId commandType payload userId := by
  obtain ⟨hdata, -⟩ := shallow_query_iff.2 h
  unfold limitedDispatch tracedDispatch
  simp only [hdevice, limitedCreateLog_eq h.request]
  cases hcreate : createLog env d db device commandType payload userId with
  | error e => rfl
  | ok created =>
      obtain ⟨db', log⟩ := created
      simp only
      have hsummary : dictFrames env limit
          (summarized (tracedQuery env d db' device deviceId commandType payload).result) ≤
            limit.frames := by
        rw [tracedQuery_result, query_of_createLog hcreate]
        cases hquery : query env d db device deviceId commandType payload with
        | ok data => exact hdata data hquery
        | error e =>
            rw [summarized, dictFrames_nil]
            exact (one_le_dictFrames payload).trans h.request
      unfold limitedFinish
      rw [limitedScrub_eq, if_pos hsummary]

/-- **A dispatch that scrubs something too deep** ends in a `RecursionError`: before it is logged, or
with its row pending. -/
theorem limitedDispatch_of_deep (hdevice : requireDevice db deviceId = .ok device)
    (hcreate : createLog env d db device commandType payload userId = .ok (db', log))
    (h : ¬ Shallow env limit d db deviceId commandType payload device) :
    (limitedDispatch env limit d db deviceId commandType payload userId).1 =
      (.error .recursionError,
        if dictFrames env limit payload ≤ limit.frames then db' else db) := by
  unfold limitedDispatch
  simp only [hdevice]
  by_cases hrequest : dictFrames env limit payload ≤ limit.frames
  · have hdata : ¬ ∀ data, query env d db device deviceId commandType payload = .ok data →
        dictFrames env limit data ≤ limit.frames :=
      fun hall => h (shallow_query_iff.1 ⟨hall, hrequest⟩)
    push Not at hdata
    obtain ⟨data, hquery, hdeep⟩ := hdata
    rw [if_pos hrequest]
    simp only [limitedCreateLog_eq hrequest, hcreate]
    unfold limitedFinish
    rw [tracedQuery_result, query_of_createLog hcreate, hquery]
    simp only [summarized]
    rw [limitedScrub_eq, if_neg (by omega)]
  · rw [if_neg hrequest]
    unfold limitedCreateLog
    rw [limitedScrub_eq, if_neg hrequest]
    rfl

end

/-- **A dispatch is logged as it should exactly when what it scrubs nests within the limit.**  With
the statements for the log succeeding, a dispatch on a device completes one row of the log, as its
answer says, raises application errors only, and calls the adapter at most once, where it may,
exactly if its request, the page it reads and the answer of the device nest within the recursion
limit; on an unknown device it does nothing. -/
theorem dispatchSound_iff (env : Env) (limit : StackLimit) (d : DispatchCall) (db : Store)
    (hadm : db.Admitted env.schema) (deviceId commandType : String) (payload : List (Str × Json))
    (userId : Option ℤ) (hlog : LogStatementsSucceed env d db deviceId commandType payload userId) :
    DispatchSound env db deviceId commandType payload
        (limitedDispatch env limit d db deviceId commandType payload userId) ↔
      ∀ device ∈ db.devices, device.deviceId = deviceId →
        Shallow env limit d db deviceId commandType payload device := by
  constructor
  · intro hsound device hmem hid
    have hdevice : requireDevice db deviceId = .ok device := by
      rw [← hid]
      exact requireDevice_of_mem hadm.2.1.2 hmem
    obtain ⟨db', log, -, hcreate, -⟩ := hlog device hdevice
    by_contra hdeep
    obtain ⟨appError, happ⟩ := (hsound.onDevice device hmem hid).errors .recursionError
      (congrArg Prod.fst (limitedDispatch_of_deep hdevice hcreate hdeep))
    cases happ
  · intro hshallow
    have htraced := dispatchSound_traced hadm hlog
    by_cases hknown : ∃ device ∈ db.devices, device.deviceId = deviceId
    · obtain ⟨device, hmem, hid⟩ := hknown
      have hdevice : requireDevice db deviceId = .ok device := by
        rw [← hid]
        exact requireDevice_of_mem hadm.2.1.2 hmem
      rw [limitedDispatch_of_shallow hdevice (hshallow device hmem hid)]
      exact htraced
    · push Not at hknown
      refine ⟨fun device hmem hid => absurd hid (hknown device hmem), fun _ => ?_⟩
      unfold limitedDispatch
      rw [requireDevice_of_unknown hknown]

/-- Lists in lists. -/
def nested : ℕ → Json
  | 0 => .arr []
  | n + 1 => .arr [nested n]

theorem scrubFrames_nested (rt : Runtime) (n : ℕ) : scrubFrames rt 0 (nested n) = n + 1 := by
  induction n with
  | zero => simp [nested, scrubFrames, itemsFrames]
  | succ n ih =>
      rw [nested, scrubFrames, itemsFrames, itemsFrames, ih]
      omega

/-- The default limit of the interpreter, as if no other call were on the stack. -/
def defaultLimit : StackLimit := ⟨1000, 0⟩

/-- A query to a device that answers with lists in lists. -/
def nestedCall (n : ℕ) : DispatchCall :=
  { silentCall with post := fun _ _ => .response (.obj [(py "data", nested n)]) }

theorem dictFrames_nested (n : ℕ) :
    dictFrames (plainEnv ormSchema) defaultLimit [(py "data", nested n)] = n + 2 := by
  have hkey : isSensitive (plainEnv ormSchema).runtime (py "data") = false := by decide
  have hstr : (nested n).isStr = false := by cases n <;> rfl
  unfold dictFrames
  rw [scrubFrames, fieldsFrames, fieldsFrames, hkey, hstr]
  simp only [Bool.and_false, Bool.or_false, Bool.false_eq_true, if_false]
  rw [show defaultLimit.comprehension = 0 from rfl, scrubFrames_nested]
  omega

theorem logStatementsSucceed_nestedCall (n : ℕ) :
    LogStatementsSucceed (plainEnv ormSchema) (nestedCall n) reachedStore
      (generateDeviceId Uuid.nil) "battery.query" [] none := by
  intro device hdevice
  cases hdevice
  exact ⟨_, _, _, rfl, rfl⟩

/-- An answer of some levels is logged. -/
theorem answered_query_logged :
    DispatchSound (plainEnv ormSchema) reachedStore (generateDeviceId Uuid.nil) "battery.query" []
      (limitedDispatch (plainEnv ormSchema) defaultLimit (nestedCall 3) reachedStore
        (generateDeviceId Uuid.nil) "battery.query" [] none) := by
  refine (dispatchSound_iff (plainEnv ormSchema) defaultLimit (nestedCall 3) reachedStore
    (by decide) (generateDeviceId Uuid.nil) "battery.query" [] none
    (logStatementsSucceed_nestedCall 3)).2 fun device _ _ => ?_
  refine ⟨by decide, fun hmode => absurd hmode (by decide), ?_⟩
  intro _ baseUrl path secret data _ _ _ _ hpost
  obtain rfl : [(py "data", nested 3)] = data := Json.obj.inj (PostOutcome.response.inj hpost)
  rw [dictFrames_nested]
  decide

/-- **An answer of a thousand levels leaves the row pending**, and the caller with a
`RecursionError`, although every statement of the database succeeds. -/
theorem deep_answer_pending :
    LogStatementsSucceed (plainEnv ormSchema) (nestedCall 1000) reachedStore
        (generateDeviceId Uuid.nil) "battery.query" [] none ∧
      ¬ DispatchSound (plainEnv ormSchema) reachedStore (generateDeviceId Uuid.nil) "battery.query"
        [] (limitedDispatch (plainEnv ormSchema) defaultLimit (nestedCall 1000) reachedStore
          (generateDeviceId Uuid.nil) "battery.query" [] none) ∧
      (limitedDispatch (plainEnv ormSchema) defaultLimit (nestedCall 1000) reachedStore
          (generateDeviceId Uuid.nil) "battery.query" [] none).1.1 = .error .recursionError ∧
      (limitedDispatch (plainEnv ormSchema) defaultLimit (nestedCall 1000) reachedStore
          (generateDeviceId Uuid.nil) "battery.query" [] none).1.2.deviceCommandLogs.map
        (fun row => (row.status, row.completedAt)) = [("pending", none)] := by
  obtain ⟨device, hdevice⟩ :
      ∃ device, requireDevice reachedStore (generateDeviceId Uuid.nil) = .ok device := ⟨_, rfl⟩
  have hlog := logStatementsSucceed_nestedCall 1000
  obtain ⟨db', log, -, hcreate, -⟩ := hlog device hdevice
  have hdeep : ¬ Shallow (plainEnv ormSchema) defaultLimit (nestedCall 1000) reachedStore
      (generateDeviceId Uuid.nil) "battery.query" [] device := by
    intro hshallow
    cases hdevice
    have hle := hshallow.answer (by decide) _ _ _ _ rfl rfl rfl (by decide) rfl
    rw [dictFrames_nested] at hle
    exact absurd hle (by decide)
  have hrun := limitedDispatch_of_deep hdevice hcreate hdeep
  have hstore : (createLog (plainEnv ormSchema) (nestedCall 1000) reachedStore device
      "battery.query" [] none).map (fun created => created.1.deviceCommandLogs.map
        fun row => (row.status, row.completedAt)) = .ok [("pending", none)] := by
    cases hdevice
    rfl
  rw [hcreate] at hstore
  rw [hrun]
  refine ⟨hlog, fun hsound => ?_, rfl, ?_⟩
  · obtain ⟨hmem, hid⟩ := requireDevice_eq_ok hdevice
    obtain ⟨appError, happ⟩ := (hsound.onDevice device hmem hid).errors .recursionError
      (congrArg Prod.fst hrun)
    cases happ
  · rw [if_pos (by decide)]
    exact Except.ok.inj hstore

end CommandService

end SmsForwarder
