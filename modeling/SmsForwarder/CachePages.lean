/-
**The pages of the cache.**

A cache query returns one page of the events it counts, sorted by `created_at` alone.  SQL leaves the
order of events with equal times to the database, for every query anew, so the pages of a table that
nobody writes need not fit together.

Main definitions:

* `SmsForwarder.PagesListed` — the pages make up the events, whatever the database does;
* `SmsForwarder.pagePayload` — the payload of a paged query.

Main results:

* `SmsForwarder.exists_rowOrder` — the database may return any sorted list of the rows;
* `SmsForwarder.pagesListed_iff` — **the pages make up the events exactly if no events with equal
  times lie on both sides of a page boundary.**
-/

import SmsForwarder.CommandService
import SmsForwarder.Paging

set_option relaxedAutoImplicit false
set_option autoImplicit false

namespace SmsForwarder

open Py Tables CommandService Paging

/-! ### Orders of the database -/

/-- The database may return any list of the rows that is sorted by time. -/
theorem exists_rowOrder {rows l : List DeviceEvent} (hperm : l.Perm rows)
    (hdesc : Descending DeviceEvent.createdAt l) : ∃ order : RowOrder, order.sort rows = l := by
  classical
  refine ⟨{ sort := fun rows' => if rows' = rows then l else insertionOrder.sort rows'
            perm := fun rows' => ?_
            newestFirst := fun rows' => ?_ }, if_pos rfl⟩
  · by_cases h : rows' = rows
    · rw [if_pos h, h]
      exact hperm
    · rw [if_neg h]
      exact insertionOrder.perm rows'
  · by_cases h : rows' = rows
    · rw [if_pos h]
      exact hdesc
    · rw [if_neg h]
      exact insertionOrder.newestFirst rows'

/-- A dispatch that asks no device, on a database with this order. -/
def cacheCall (order : RowOrder) : DispatchCall where
  uuid := Uuid.nil
  order := order
  timestamp := "0"
  hmac _ message := message
  post _ _ := .timeout
  exceptionText _ := ""
  completedAt := 0

/-! ### Pages -/

/-- The payload of a paged query in cache mode. -/
def pagePayload (pageNum pageSize : ℕ) : List (Str × Json) :=
  [(py "mode", .str (py "cache")), (py "page_num", .num (.int pageNum)),
    (py "page_size", .num (.int pageSize))]

theorem cacheRequest_pagePayload (env : Env) (pageNum pageSize : ℕ) :
    CacheRequest env (pagePayload pageNum pageSize) pageNum pageSize where
  mode := rfl
  pageNum := rfl
  pageSize := rfl

/-- The pages of `n` events each make up the events of the device that the command looks for: one
after the other they list every event once, the newest first, each page says how many events there
are, and what comes after them is empty.  The order of the database may change with every query. -/
structure PagesListed (env : Env) (db : Store) (deviceId commandType eventType : String)
    (n : ℕ) : Prop where
  listed : ∀ (calls : ℕ → DispatchCall) (payloads : ℕ → List (Str × Json)),
    (∀ k, CacheRequest env (payloads k) (k + 1) n) →
    ∃ results : ℕ → CachePage,
      (∀ k < pageCount n (matchingEvents db deviceId eventType).length,
        queryCache env (calls k) db deviceId commandType (payloads k) = .ok (results k) ∧
          (results k).total = (matchingEvents db deviceId eventType).length) ∧
      ((List.range (pageCount n (matchingEvents db deviceId eventType).length)).flatMap fun k =>
        (results k).rows).Perm (matchingEvents db deviceId eventType) ∧
      Descending DeviceEvent.createdAt
        ((List.range (pageCount n (matchingEvents db deviceId eventType).length)).flatMap fun k =>
          (results k).rows)
  /-- with an offset that the database takes -/
  later : ∀ d payload k, pageCount n (matchingEvents db deviceId eventType).length ≤ k →
    k * n < 2 ^ 63 → CacheRequest env payload (k + 1) n →
    ∃ page, queryCache env d db deviceId commandType payload = .ok page ∧ page.rows = [] ∧
      page.total = (matchingEvents db deviceId eventType).length

section

variable {env : Env} {db : Store} {deviceId commandType eventType : String} {n : ℕ}

/-- The page of a query, as the database returns it. -/
def resultPage (d : DispatchCall) (rows : List DeviceEvent) (n k : ℕ) : CachePage where
  rows := page n k (d.order.sort rows)
  total := rows.length
  pageNum := ((k + 1 : ℕ) : ℤ)
  pageSize := n

/-- What comes after the pages is empty. -/
theorem later_page (hcommand : ofCommand EVENT_TYPES commandType = some eventType) (hn : 1 ≤ n)
    (hlimit : n < 2 ^ 63) {d : DispatchCall} {payload : List (Str × Json)} {k : ℕ}
    (hk : pageCount n (matchingEvents db deviceId eventType).length ≤ k) (hoffset : k * n < 2 ^ 63)
    (hreq : CacheRequest env payload (k + 1) n) :
    ∃ page, queryCache env d db deviceId commandType payload = .ok page ∧ page.rows = [] ∧
      page.total = (matchingEvents db deviceId eventType).length := by
  refine ⟨_, queryCache_of_request hcommand hreq (Or.inl hoffset) hlimit, ?_, rfl⟩
  have hpast : (matchingEvents db deviceId eventType).length ≤ k * n := by
    rw [← not_lt, ← lt_pageCount_iff hn, not_lt]
    exact hk
  unfold page
  rw [List.drop_of_length_le, List.take_nil]
  rw [(d.order.perm _).length_eq]
  exact hpast

/-- If no events with equal times straddle a boundary, the pages make up the events. -/
theorem pagesListed_of_not_straddles
    (hcommand : ofCommand EVENT_TYPES commandType = some eventType) (hn : 1 ≤ n)
    (hlimit : n < 2 ^ 63)
    (h : ∀ k, ¬ Straddles DeviceEvent.createdAt (matchingEvents db deviceId eventType) (k * n)) :
    PagesListed env db deviceId commandType eventType n where
  listed calls payloads hreq := by
    refine ⟨fun k => resultPage (calls k) (matchingEvents db deviceId eventType) n k,
      fun k hk => ⟨?_, rfl⟩,
      pages_perm_and_descending hn (fun k => ⟨(calls k).order.perm _,
        (calls k).order.newestFirst _⟩) h⟩
    rw [lt_pageCount_iff hn] at hk
    exact queryCache_of_request hcommand (hreq k) (Or.inr hk.le) hlimit
  later _ _ _ hk hoffset hreq := later_page hcommand hn hlimit hk hoffset hreq

/-- If events with equal times straddle a boundary, the database can repeat one of them. -/
theorem not_pagesListed_of_straddles (hadm : db.Admitted env.schema)
    (hcommand : ofCommand EVENT_TYPES commandType = some eventType) (hn : 1 ≤ n)
    (hlimit : n < 2 ^ 63) {k : ℕ}
    (h : Straddles DeviceEvent.createdAt (matchingEvents db deviceId eventType) (k * n)) :
    ¬ PagesListed env db deviceId commandType eventType n := by
  intro hpages
  have hnodup : (matchingEvents db deviceId eventType).Nodup :=
    hadm.2.2.2.2.1.1.of_map.filter _
  obtain ⟨l, l', ⟨hperm, hdesc⟩, ⟨hperm', hdesc'⟩, hrepeated⟩ := exists_repeated hn hnodup h
  obtain ⟨order, horder⟩ := exists_rowOrder hperm hdesc
  obtain ⟨order', horder'⟩ := exists_rowOrder hperm' hdesc'
  obtain ⟨results, hresults, hall, -⟩ := hpages.listed
    (fun i => cacheCall (if i = k then order' else order)) (fun i => pagePayload (i + 1) n)
    (fun i => cacheRequest_pagePayload env (i + 1) n)
  have hrows : ((List.range (pageCount n (matchingEvents db deviceId eventType).length)).flatMap
      fun i => (results i).rows) =
      pages n (pageCount n (matchingEvents db deviceId eventType).length)
        (fun i => if i = k then l' else l) := by
    refine List.flatMap_congr fun i hi => ?_
    rw [List.mem_range] at hi
    have hquery := (hresults i hi).1
    rw [lt_pageCount_iff hn] at hi
    rw [queryCache_of_request hcommand (cacheRequest_pagePayload env (i + 1) n) (Or.inr hi.le)
      hlimit] at hquery
    rw [← Except.ok.inj hquery]
    by_cases hik : i = k
    · simp only [hik, if_true, cacheCall, horder']
    · simp only [hik, if_false, cacheCall, horder]
  rw [hrows] at hall
  exact hrepeated hall

end

/-- **The pages of the cache** list every event once, the newest first, exactly if no events with
equal times lie on both sides of a page boundary. -/
theorem pagesListed_iff (env : Env) (db : Store) (hadm : db.Admitted env.schema)
    (deviceId commandType eventType : String)
    (hcommand : ofCommand EVENT_TYPES commandType = some eventType) (n : ℕ) (hn : 1 ≤ n)
    (hmax : n ≤ 100) :
    PagesListed env db deviceId commandType eventType n ↔
      ∀ k, ¬ Straddles DeviceEvent.createdAt (matchingEvents db deviceId eventType) (k * n) := by
  have hlimit : n < 2 ^ 63 := lt_of_le_of_lt hmax (by decide)
  constructor
  · exact fun hpages k hstraddle =>
      not_pagesListed_of_straddles hadm hcommand hn hlimit hstraddle hpages
  · exact pagesListed_of_not_straddles hcommand hn hlimit

/-- An event of a device at this time. -/
def plainEvent (id : ℕ) (eventId : String) (createdAt : Timestamp) : DeviceEvent where
  id := id
  eventId := eventId
  deviceId := "d"
  eventType := "sms"
  eventTime := 0
  normalizedPayload := .obj []
  rawPayload := .obj []
  sourceIp := none
  createdAt := createdAt

/-- Three events at different times. -/
def threeEvents : Store :=
  { Store.empty with
    deviceEvents := [plainEvent 1 "a" 20, plainEvent 2 "b" 10, plainEvent 3 "c" 30] }

/-- Three events at different times are listed on two pages of two. -/
theorem three_events_listed :
    pageCount 2 (matchingEvents threeEvents "d" "sms").length = 2 ∧
      PagesListed (plainEnv ormSchema) threeEvents "d" "sms.query" "sms" 2 :=
  ⟨by decide, (pagesListed_iff (plainEnv ormSchema) threeEvents (by decide) "d" "sms.query" "sms"
    (by decide) 2 (by decide) (by decide)).2 fun k => not_straddles_of_nodup (by decide) (k * 2)⟩

/-- Two events at the same time. -/
def twoEvents : Store :=
  { Store.empty with deviceEvents := [plainEvent 1 "a" 0, plainEvent 2 "b" 0] }

/-- **Two events at the same time** do not fit on two pages: the database can return the same one on
both. -/
theorem two_events_not_listed :
    ¬ PagesListed (plainEnv ormSchema) twoEvents "d" "sms.query" "sms" 1 := by
  have hstraddle : Straddles DeviceEvent.createdAt (matchingEvents twoEvents "d" "sms") (1 * 1) :=
    ⟨0, by decide, by decide⟩
  exact not_pagesListed_of_straddles (by decide) (by decide) le_rfl (by decide) hstraddle

end SmsForwarder
