/-
**The rate limiter.**

A table counts the requests for a resource in every clock minute.  A call reads the row of the
current minute, refuses the request if the row has reached the limit, and otherwise commits a new row
or the count it has read plus one.  A refusal advises the client how many seconds to wait.

Main definitions:

* `SmsForwarder.RateLimit`, `SmsForwarder.RateLimit.window` — the rows, by resource and minute;
* `SmsForwarder.readWindow`, `SmsForwarder.ensureBelow`, `SmsForwarder.flushWindow`,
  `SmsForwarder.checkRateLimit` — a call and its parts;
* `SmsForwarder.countOf` — the count of a window;
* `SmsForwarder.RetrySound` — what the advice of a refusal is for.

Main results:

* `SmsForwarder.flushWindow_of_current` — a commit that finds the window as it was read counts one
  request more;
* `SmsForwarder.checkRateLimit_cases` — all that a call can do;
* `SmsForwarder.checkRateLimit_of_long` — a key that is too long for its column;
* `SmsForwarder.retrySound_iff` — **the advised delay ends in a later minute exactly for refusals on a
  whole second or in the last second of the minute.**
-/

import SmsForwarder.Store

set_option relaxedAutoImplicit false
set_option autoImplicit false

namespace SmsForwarder

open Tables

/-! ### Windows -/

/-- `timedelta(seconds=n)`. -/
def seconds (n : ℤ) : ℤ := n * 1000000

/-- `now.replace(second=0, microsecond=0)`. -/
def windowStart (now : Timestamp) : Timestamp := now - now % seconds 60

theorem windowStart_eq (now : Timestamp) : windowStart now = now - now % 60000000 := rfl

structure RateLimit where
  id : ℕ
  resourceKey : String
  windowStart : Timestamp
  requestCount : ℕ
  deriving DecidableEq, Repr

/-- The columns of `uq_rate_limit_window`. -/
def RateLimit.window (r : RateLimit) : String × Timestamp := (r.resourceKey, r.windowStart)

def RateLimit.fits (r : RateLimit) : Bool := fitsColumn 255 r.resourceKey

/-- The primary key of `rate_limits` and `uq_rate_limit_window`. -/
def UniqueRateLimits (rows : List RateLimit) : Prop :=
  UniqueKey RateLimit.id rows ∧ UniqueKey RateLimit.window rows

instance (rows : List RateLimit) : Decidable (UniqueRateLimits rows) :=
  inferInstanceAs (Decidable (_ ∧ _))

/-- The tables the database can hold. -/
def AdmittedRateLimits (schema : Schema) (rows : List RateLimit) : Prop :=
  (schema.enforceLengths = true → ∀ r ∈ rows, r.fits = true) ∧ UniqueRateLimits rows

/-- The commit of a session that changed this table alone. -/
def commitRateLimits (schema : Schema) (rows : List RateLimit) : Except PyError (List RateLimit) :=
  if schema.enforceLengths = true ∧ ¬ ∀ r ∈ rows, r.fits = true then .error .dataError
  else if UniqueRateLimits rows then .ok rows
  else .error .integrityError

/-- The database accepts the table as it was created. -/
theorem admittedRateLimits_nil (schema : Schema) : AdmittedRateLimits schema [] :=
  ⟨fun _ => by simp, uniqueKey_nil _, uniqueKey_nil _⟩

theorem commitRateLimits_of_admitted {schema : Schema} {rows : List RateLimit}
    (h : AdmittedRateLimits schema rows) : commitRateLimits schema rows = .ok rows := by
  obtain ⟨hfits, hunique⟩ := h
  unfold commitRateLimits
  rw [if_neg, if_pos hunique]
  rintro ⟨he, hlong⟩
  exact hlong (hfits he)

/-! ### `check_rate_limit` -/

/-- `int((window_start + timedelta(seconds=window_seconds) - now).total_seconds())`, at least 1. -/
def retryAfter (now : Timestamp) (windowSeconds : ℤ) : ℤ :=
  max ((windowStart now + seconds windowSeconds - now).tdiv (seconds 1)) 1

/-- The row of the window, if there is one. -/
def readWindow (rows : List RateLimit) (resourceKey : String) (start : Timestamp) :
    Except PyError (Option RateLimit) :=
  match oneOrNone (fun r => r.window = (resourceKey, start)) rows with
  | none => .error .multipleResultsFound
  | some record => .ok record

/-- `record.request_count >= limit` is refused. -/
def ensureBelow (limit : ℤ) (windowSeconds : ℤ) (now : Timestamp) (record : Option RateLimit) :
    Except PyError Unit :=
  match record with
  | none => .ok ()
  | some record =>
      if limit ≤ record.requestCount then
        .error (.app (RateLimitError (retryAfter now windowSeconds)))
      else .ok ()

/-- The count a call commits, from the row it has read. -/
def nextCount : Option RateLimit → ℕ
  | none => 1
  | some record => record.requestCount + 1

/-- The row a call adds to the session if it has read none. -/
def newWindow (rows : List RateLimit) (resourceKey : String) (start : Timestamp) : RateLimit where
  id := nextKey RateLimit.id rows
  resourceKey := resourceKey
  windowStart := start
  requestCount := 1

/-- The table after the session is flushed: the new count is written as an absolute value. -/
def writeWindow (rows : List RateLimit) (resourceKey : String) (start : Timestamp)
    (record : Option RateLimit) : List RateLimit :=
  match record with
  | none => rows ++ [newWindow rows resourceKey start]
  | some read =>
      updateKey RateLimit.id read.id (fun r => { r with requestCount := read.requestCount + 1 }) rows

/-- The commit of a call that has read the row `record`. -/
def flushWindow (env : Env) (rows : List RateLimit) (resourceKey : String) (start : Timestamp)
    (record : Option RateLimit) : Except PyError (List RateLimit) :=
  commitRateLimits env.schema (writeWindow rows resourceKey start record)

/-- `check_rate_limit`. -/
def checkRateLimit (env : Env) (rows : List RateLimit) (resourceKey : String) (limit : ℤ)
    (windowSeconds : ℤ) (now : Timestamp) : Except PyError (List RateLimit) := do
  let record ← readWindow rows resourceKey (windowStart now)
  let _ ← ensureBelow limit windowSeconds now record
  flushWindow env rows resourceKey (windowStart now) record

/-- The `Retry-After` header that `app_error_handler` sends. -/
def retryAfterHeader (e : AppError) : Option ℤ :=
  if e.code = .rateLimited then some ((e.details.lookup "retry_after").getD 60) else none

@[simp] theorem retryAfterHeader_rateLimitError (r : ℤ) :
    retryAfterHeader (RateLimitError r) = some r := by
  simp [retryAfterHeader, RateLimitError]

/-! ### What a call can do -/

/-- The count of a window, if it has a row. -/
def countOf (rows : List RateLimit) (window : String × Timestamp) : Option ℕ :=
  (lookup RateLimit.window window rows).map RateLimit.requestCount

/-- The count of a window after one request more. -/
def succCount : Option ℕ → ℕ
  | none => 1
  | some n => n + 1

theorem succCount_map (record : Option RateLimit) :
    succCount (record.map RateLimit.requestCount) = nextCount record := by
  cases record <;> rfl

section

variable {env : Env} {rows : List RateLimit} {resourceKey : String} {start now : Timestamp}
  {limit windowSeconds : ℤ} {record : Option RateLimit}

/-- With the windows unique, the read finds the row there is. -/
theorem readWindow_eq (hu : UniqueKey RateLimit.window rows) (resourceKey : String)
    (start : Timestamp) :
    readWindow rows resourceKey start = .ok (lookup RateLimit.window (resourceKey, start) rows) := by
  unfold readWindow
  rw [oneOrNone_eq_lookup hu]

theorem window_of_readWindow {r : RateLimit}
    (h : readWindow rows resourceKey start = .ok (some r)) : r.window = (resourceKey, start) := by
  unfold readWindow at h
  split at h
  · simp at h
  · rename_i found hfound
    obtain rfl := Except.ok.inj h
    simpa using (mem_of_oneOrNone hfound).2

/-- A request is refused exactly when the row it has read has reached the limit. -/
theorem ensureBelow_eq_ok :
    ensureBelow limit windowSeconds now record = .ok () ↔
      ∀ r, record = some r → (r.requestCount : ℤ) < limit := by
  cases record with
  | none => simp [ensureBelow]
  | some r =>
      unfold ensureBelow
      by_cases h : limit ≤ r.requestCount
      · simp [h]
      · simp [h, lt_of_not_ge h]

theorem ensureBelow_eq_error {e : PyError}
    (h : ensureBelow limit windowSeconds now record = .error e) :
    e = .app (RateLimitError (retryAfter now windowSeconds)) ∧
      ∃ r, record = some r ∧ limit ≤ r.requestCount := by
  unfold ensureBelow at h
  split at h
  · simp at h
  · rename_i r
    split at h
    · rename_i hle
      exact ⟨(Except.error.inj h).symm, r, rfl, hle⟩
    · simp at h

/-- A table in which the window has no row takes one. -/
theorem admitted_newWindow (hadm : AdmittedRateLimits env.schema rows)
    (hkey : env.schema.enforceLengths = true → fitsColumn 255 resourceKey = true)
    (hnone : lookup RateLimit.window (resourceKey, start) rows = none) :
    AdmittedRateLimits env.schema (rows ++ [newWindow rows resourceKey start]) := by
  obtain ⟨hfits, hid, hwindow⟩ := hadm
  have hnew : ∀ r ∈ rows, r.window ≠ (newWindow rows resourceKey start).window :=
    lookup_eq_none_iff.1 hnone
  refine ⟨fun he => ?_, uniqueKey_concat_nextKey hid rfl, uniqueKey_concat.2 ⟨hwindow, hnew⟩⟩
  rw [List.forall_mem_append, List.forall_mem_singleton]
  exact ⟨hfits he, hkey he⟩

/-- Writing a count keeps the constraints. -/
theorem admitted_writeCount (hadm : AdmittedRateLimits env.schema rows) (id count : ℕ) :
    AdmittedRateLimits env.schema
      (updateKey RateLimit.id id (fun r => { r with requestCount := count }) rows) := by
  obtain ⟨hfits, hid, hwindow⟩ := hadm
  refine ⟨fun he r hr => ?_, (uniqueKey_updateKey (by exact fun _ _ _ => rfl)).2 hid,
    (uniqueKey_updateKey (by exact fun _ _ _ => rfl)).2 hwindow⟩
  rcases mem_updateKey.1 hr with ⟨old, hold, -, rfl⟩ | ⟨hold, -⟩
  · exact hfits he old hold
  · exact hfits he r hold

/-- The write puts the counted row in the place of the row that was read, and leaves the other
windows alone. -/
theorem lookup_writeWindow (hu : UniqueRateLimits rows)
    (hrecord : lookup RateLimit.window (resourceKey, start) rows = record) :
    ∃ row : RateLimit, row.requestCount = nextCount record ∧
      (fun w => lookup RateLimit.window w (writeWindow rows resourceKey start record)) =
        Function.update (fun w => lookup RateLimit.window w rows) (resourceKey, start)
          (some row) := by
  obtain ⟨hid, hwindow⟩ := hu
  cases record with
  | none =>
      refine ⟨newWindow rows resourceKey start, rfl, funext fun w => ?_⟩
      have hlookup : lookup RateLimit.window w (writeWindow rows resourceKey start none) =
          if (newWindow rows resourceKey start).window = w then
            some (newWindow rows resourceKey start) else lookup RateLimit.window w rows :=
        lookup_concat (uniqueKey_concat.2 ⟨hwindow, lookup_eq_none_iff.1 hrecord⟩)
      rw [hlookup]
      by_cases hw : w = (resourceKey, start)
      · rw [hw, Function.update_self, if_pos (by rfl)]
      · rw [Function.update_of_ne hw, if_neg (fun h => hw h.symm)]
  | some read =>
      refine ⟨{ read with requestCount := read.requestCount + 1 }, rfl, funext fun w => ?_⟩
      obtain ⟨hmem, hread⟩ := (lookup_eq_some_iff hwindow).1 hrecord
      have hlookup : lookup RateLimit.window w (writeWindow rows resourceKey start (some read)) =
          if read.window = w then some { read with requestCount := read.requestCount + 1 }
          else lookup RateLimit.window w rows :=
        lookup_updateKey hid hwindow hmem (by rfl)
      rw [hlookup, hread]
      by_cases hw : w = (resourceKey, start)
      · rw [hw, Function.update_self, if_pos rfl]
      · rw [Function.update_of_ne hw, if_neg (Ne.symm hw)]

/-- **A commit that finds the window as it was read** counts one request more. -/
theorem flushWindow_of_current (hadm : AdmittedRateLimits env.schema rows)
    (hkey : env.schema.enforceLengths = true → fitsColumn 255 resourceKey = true)
    (hrecord : lookup RateLimit.window (resourceKey, start) rows = record) :
    ∃ rows', flushWindow env rows resourceKey start record = .ok rows' ∧
      AdmittedRateLimits env.schema rows' ∧
      countOf rows' = Function.update (countOf rows) (resourceKey, start)
        (some (nextCount record)) := by
  have hadm' : AdmittedRateLimits env.schema (writeWindow rows resourceKey start record) := by
    cases record with
    | none => exact admitted_newWindow hadm hkey hrecord
    | some read => exact admitted_writeCount hadm read.id (read.requestCount + 1)
  obtain ⟨row, hcount, hlookup⟩ := lookup_writeWindow hadm.2 hrecord
  refine ⟨_, commitRateLimits_of_admitted hadm', hadm', funext fun w => ?_⟩
  unfold countOf
  rw [congrFun hlookup w]
  by_cases hw : w = (resourceKey, start)
  · rw [hw, Function.update_self, Function.update_self, ← hcount]
    rfl
  · rw [Function.update_of_ne hw, Function.update_of_ne hw]

/-- **All that a call can do**: refuse the request in a window that has reached the limit, or count
it. -/
theorem checkRateLimit_cases (hadm : AdmittedRateLimits env.schema rows)
    (hkey : env.schema.enforceLengths = true → fitsColumn 255 resourceKey = true)
    (limit windowSeconds : ℤ) (now : Timestamp) :
    (∃ n, countOf rows (resourceKey, windowStart now) = some n ∧ limit ≤ n ∧
        checkRateLimit env rows resourceKey limit windowSeconds now =
          .error (.app (RateLimitError (retryAfter now windowSeconds)))) ∨
      ((∀ n, countOf rows (resourceKey, windowStart now) = some n → (n : ℤ) < limit) ∧
        ∃ rows', checkRateLimit env rows resourceKey limit windowSeconds now = .ok rows' ∧
          AdmittedRateLimits env.schema rows' ∧
          countOf rows' = Function.update (countOf rows) (resourceKey, windowStart now)
            (some (succCount (countOf rows (resourceKey, windowStart now))))) := by
  have hread := readWindow_eq hadm.2.2 resourceKey (windowStart now)
  unfold checkRateLimit
  rw [hread]
  cases hbelow : ensureBelow limit windowSeconds now
      (lookup RateLimit.window (resourceKey, windowStart now) rows) with
  | error e =>
      obtain ⟨rfl, r, hr, hle⟩ := ensureBelow_eq_error hbelow
      refine Or.inl ⟨r.requestCount, ?_, hle, ?_⟩
      · unfold countOf
        rw [hr]
        rfl
      · simp only [bind, Except.bind, hbelow]
  | ok u =>
      obtain ⟨rows', hflush, hadm', hcount⟩ := flushWindow_of_current hadm hkey rfl
      refine Or.inr ⟨fun n hn => ?_, rows', ?_, hadm', ?_⟩
      · obtain ⟨r, hr, rfl⟩ := Option.map_eq_some_iff.1 hn
        exact ensureBelow_eq_ok.1 hbelow r hr
      · simp only [bind, Except.bind, hbelow]
        exact hflush
      · rw [hcount, ← succCount_map]
        rfl

/-- A call that returns has written what it counted. -/
theorem rows_of_checkRateLimit {rows' : List RateLimit} (hu : UniqueKey RateLimit.window rows)
    (h : checkRateLimit env rows resourceKey limit windowSeconds now = .ok rows') :
    rows' = writeWindow rows resourceKey (windowStart now)
      (lookup RateLimit.window (resourceKey, windowStart now) rows) := by
  unfold checkRateLimit at h
  rw [readWindow_eq hu] at h
  obtain ⟨record, hread, h⟩ := bind_eq_ok.1 h
  obtain ⟨_, -, h⟩ := bind_eq_ok.1 h
  obtain rfl := Except.ok.inj hread
  unfold flushWindow commitRateLimits at h
  split_ifs at h
  exact (Except.ok.inj h).symm

/-- **A key that is too long for its column** is refused by the database. -/
theorem checkRateLimit_of_long (hadm : AdmittedRateLimits env.schema rows)
    (he : env.schema.enforceLengths = true) (hlong : fitsColumn 255 resourceKey = false)
    (limit windowSeconds : ℤ) (now : Timestamp) :
    checkRateLimit env rows resourceKey limit windowSeconds now = .error .dataError := by
  -- the rows there are have keys that fit, so none of them is in the way of the insertion
  have hnone : lookup RateLimit.window (resourceKey, windowStart now) rows = none := by
    rw [lookup_eq_none_iff]
    intro r hr hwindow
    have hfits : fitsColumn 255 r.resourceKey = true := hadm.1 he r hr
    have hkey : r.resourceKey = resourceKey := congrArg Prod.fst hwindow
    rw [hkey, hlong] at hfits
    simp at hfits
  have hnew : ¬ ∀ r ∈ writeWindow rows resourceKey (windowStart now) none, r.fits = true := by
    intro hall
    have hfits : fitsColumn 255 resourceKey = true :=
      hall _ (List.mem_append_right _ (List.mem_singleton_self _))
    rw [hlong] at hfits
    simp at hfits
  unfold checkRateLimit
  rw [readWindow_eq hadm.2.2, hnone]
  exact if_pos ⟨he, hnew⟩

end

/-! ### The advised delay -/

/-- What the advice to wait `r` seconds is for: it is a time within a window's length, after which
the window that was full is over. -/
structure RetrySound (resourceKey : String) (now : Timestamp) (r : ℤ) : Prop where
  positive : 1 ≤ r
  withinWindow : r ≤ 60
  laterWindow : windowStart now < windowStart (now + seconds r)
  /-- whatever row a retry reads, it is not the one that was full -/
  otherWindow : ∀ rows record,
    readWindow rows resourceKey (windowStart (now + seconds r)) = .ok (some record) →
      record.windowStart ≠ windowStart now

/-- The delay in seconds, from the time left in the minute. -/
theorem retryAfter_sixty (now : Timestamp) :
    retryAfter now 60 = max ((60000000 - now % 60000000) / 1000000) 1 := by
  have hmod : now % 60000000 < 60000000 := Int.emod_lt_of_pos now (by omega)
  have hleft : windowStart now + seconds 60 - now = 60000000 - now % 60000000 := by
    have hminute : seconds 60 = 60000000 := rfl
    rw [windowStart_eq, hminute]
    unfold Timestamp at *
    omega
  unfold retryAfter
  rw [hleft, Int.tdiv_eq_ediv_of_nonneg (by omega)]
  rfl

/-- The delay ends in a later minute exactly if it is not shorter than the time left. -/
theorem windowStart_lt_iff {now : Timestamp} {r : ℤ} :
    windowStart now < windowStart (now + seconds r) ↔
      60000000 ≤ now % 60000000 + r * 1000000 := by
  rw [windowStart_eq, windowStart_eq]
  unfold seconds Timestamp at *
  omega

theorem windowStart_of_readWindow {rows : List RateLimit} {resourceKey : String}
    {start : Timestamp} {record : RateLimit}
    (h : readWindow rows resourceKey start = .ok (some record)) : record.windowStart = start :=
  congrArg Prod.snd (window_of_readWindow h)

/-- A call refuses a request with nothing but the advised delay. -/
theorem retryAfterHeader_of_checkRateLimit {env : Env} {rows : List RateLimit}
    {resourceKey : String} {limit windowSeconds : ℤ} {now : Timestamp} {e : AppError}
    (h : checkRateLimit env rows resourceKey limit windowSeconds now = .error (.app e)) :
    retryAfterHeader e = some (retryAfter now windowSeconds) := by
  unfold checkRateLimit at h
  unfold readWindow at h
  split at h
  · simp [bind, Except.bind] at h
  · rename_i record _
    cases hbelow : ensureBelow limit windowSeconds now record with
    | error e' =>
        obtain ⟨rfl, -⟩ := ensureBelow_eq_error hbelow
        simp only [bind, Except.bind, hbelow, Except.error.injEq, PyError.app.injEq] at h
        rw [← h, retryAfterHeader_rateLimitError]
    | ok u =>
        simp only [bind, Except.bind, hbelow] at h
        unfold flushWindow commitRateLimits at h
        split at h
        · simp at h
        · split at h <;> simp at h

/-- **The advised delay.**  A client that is refused and waits as long as it is told to is past the
full window exactly if it was refused on a whole second or in the last second of the minute. -/
theorem retrySound_iff (env : Env) (rows : List RateLimit) (resourceKey : String) (limit : ℤ)
    (now : Timestamp) (e : AppError)
    (h : checkRateLimit env rows resourceKey limit 60 now = .error (.app e)) (r : ℤ)
    (hr : retryAfterHeader e = some r) :
    RetrySound resourceKey now r ↔ now % seconds 1 = 0 ∨ seconds 59 ≤ now % seconds 60 := by
  obtain rfl : r = retryAfter now 60 := by
    rw [retryAfterHeader_of_checkRateLimit h] at hr
    exact (Option.some.inj hr).symm
  have hsecond : seconds 1 = 1000000 := rfl
  have hlast : seconds 59 = 59000000 := rfl
  have hminute : seconds 60 = 60000000 := rfl
  have hbounds : 1 ≤ retryAfter now 60 ∧ retryAfter now 60 ≤ 60 := by
    rw [retryAfter_sixty]
    omega
  have hlater : windowStart now < windowStart (now + seconds (retryAfter now 60)) ↔
      now % seconds 1 = 0 ∨ seconds 59 ≤ now % seconds 60 := by
    rw [windowStart_lt_iff, retryAfter_sixty, hsecond, hlast, hminute]
    unfold Timestamp at *
    omega
  rw [← hlater]
  constructor
  · exact fun hsound => hsound.laterWindow
  · intro hlt
    refine ⟨hbounds.1, hbounds.2, hlt, fun rows record hread heq => ?_⟩
    rw [windowStart_of_readWindow hread] at heq
    exact hlt.ne heq.symm

/-- The table after one request for `r` in the first minute. -/
def fullWindow : List RateLimit :=
  [{ id := 1, resourceKey := "r", windowStart := 0, requestCount := 1 }]

/-- A refusal on a whole second: half a minute is left, and advised. -/
theorem refused_on_second :
    checkRateLimit (plainEnv ormSchema) fullWindow "r" 1 60 (seconds 30) =
        .error (.app (RateLimitError 30)) ∧
      (RetrySound "r" (seconds 30) 30 ↔
        seconds 30 % seconds 1 = 0 ∨ seconds 59 ≤ seconds 30 % seconds 60) :=
  ⟨rfl, retrySound_iff (plainEnv ormSchema) fullWindow "r" 1 (seconds 30) (RateLimitError 30) rfl 30
    rfl⟩

/-- **Half a second too early**: with 29.5 seconds left, 29 are advised, and the retry is refused on
account of the same window. -/
theorem refused_half_a_second_later :
    checkRateLimit (plainEnv ormSchema) fullWindow "r" 1 60 30500000 =
        .error (.app (RateLimitError 29)) ∧
      checkRateLimit (plainEnv ormSchema) fullWindow "r" 1 60 (30500000 + seconds 29) =
        .error (.app (RateLimitError 1)) ∧
      ¬ RetrySound "r" 30500000 29 := by
  refine ⟨rfl, rfl, fun h => ?_⟩
  have hlater := h.laterWindow
  have hsame : windowStart (30500000 + seconds 29) = windowStart 30500000 := rfl
  rw [hsame] at hlater
  exact lt_irrefl _ hlater

end SmsForwarder
