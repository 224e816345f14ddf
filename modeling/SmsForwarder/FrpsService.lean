/-
**The frps dashboard.**

The service asks the dashboard of frps for its tcp proxies and reads each one with a chain of
optional lookups and conversions.  The request itself is guarded: whatever goes wrong there is a
`DeviceChannelError`.  The conversions come after that guard, and each of them catches the
exceptions its author thought of.  `int` of an infinity raises one that is not among them, and
`json.loads` reads an infinity from `Infinity` or from `1e400`.

Main definitions:

* `SmsForwarder.FrpsService.FrpsProxy`, `SmsForwarder.FrpsService.DashboardAnswer` — a proxy, and
  what the request can end in;
* `SmsForwarder.FrpsService.parseProxy`, `SmsForwarder.FrpsService.fetchTcpProxies` — the reading of
  one proxy and of the answer;
* `SmsForwarder.FrpsService.FetchSound` — one proxy for each object, or a `DeviceChannelError`;
* `SmsForwarder.FrpsService.InfinitePort` — some object has an infinity for its port.

Main results:

* `SmsForwarder.FrpsService.parseProxy_eq_error` — a proxy is unreadable only for its port;
* `SmsForwarder.FrpsService.fetchSound_iff` — **the dashboard is read soundly exactly when no port
  is infinite**, and `SmsForwarder.FrpsService.infinite_port_escapes` is an answer that has one.
-/

import SmsForwarder.CommandService

set_option relaxedAutoImplicit false
set_option autoImplicit false

namespace SmsForwarder

open Py

namespace FrpsService

/-! ### The conversions -/

/-- `datetime.fromisoformat`, which refuses a text with a `ValueError`. -/
structure IsoFormat where
  Datetime : Type
  fromisoformat : Str → Except PyError Datetime
  error_eq : ∀ s e, fromisoformat s = .error e → e = .valueError

/-- `try: return f(value)`, `except caught: return None`. -/
def orNone {α : Type} (caught : List PyError) (x : Except PyError α) :
    Except PyError (Option α) :=
  match x with
  | .ok a => .ok (some a)
  | .error e => if e ∈ caught then .ok none else .error e

variable (env : Env) (iso : IsoFormat)

/-- `FrpsService._optional_str`. -/
def optionalStr (value : Json) : Option Str :=
  match value with
  | .null => none
  | value => some (env.runtime.str value)

/-- `FrpsService._optional_int`. -/
def optionalInt (value : Json) : Except PyError (Option ℤ) :=
  match value with
  | .null => .ok none
  | value => orNone [.typeError, .valueError] (CommandService.intOf env value)

/-- `value.replace("Z", "+00:00")`. -/
def replaceZ (value : Str) : Str :=
  value.flatMap fun c => if c = ofChar 'Z' then py "+00:00" else [c]

/-- `FrpsService._optional_datetime`. -/
def optionalDatetime (value : Json) : Except PyError (Option iso.Datetime) :=
  match value with
  | .str s => if s.isEmpty then .ok none else orNone [.valueError] (iso.fromisoformat (replaceZ s))
  | _ => .ok none

/-! ### Proxies -/

/-- A proxy as frps reports it. -/
structure FrpsProxy where
  name : Str
  status : Str
  remotePort : Option ℤ
  clientVersion : Option Str
  todayTrafficIn : Option Str
  todayTrafficOut : Option Str
  lastStartTime : Option iso.Datetime

/-- The configuration of a proxy: `raw_conf if isinstance(raw_conf, dict) else {}`. -/
def confOf (proxy : List (Str × Json)) : List (Str × Json) :=
  match Json.get proxy (py "conf") with
  | .obj conf => conf
  | _ => []

/-- `conf.get("remote_port") or proxy.get("remote_port")`. -/
def portOf (proxy : List (Str × Json)) : Json :=
  (Json.get (confOf proxy) (py "remote_port")).orElse (Json.get proxy (py "remote_port"))

/-- `FrpsService._parse_proxy`. -/
def parseProxy (proxy : List (Str × Json)) : Except PyError (FrpsProxy iso) := do
  let name := env.runtime.str
    ((Json.get proxy (py "name")).orElse ((Json.get (confOf proxy) (py "name")).orElse (.str [])))
  let status := env.runtime.str ((Json.get proxy (py "status")).orElse (.str (py "unknown")))
  let remotePort ← optionalInt env (portOf proxy)
  let lastStartTime ← optionalDatetime iso (Json.get proxy (py "last_start_time"))
  pure
    { name, status, remotePort
      clientVersion := optionalStr env (Json.get proxy (py "client_version"))
      todayTrafficIn := optionalStr env (Json.get proxy (py "today_traffic_in"))
      todayTrafficOut := optionalStr env (Json.get proxy (py "today_traffic_out"))
      lastStartTime }

/-! ### The answer of the dashboard -/

/-- What the request to the dashboard ends in: an `httpx.HTTPError` (a status other than 200 is one),
a body that is no JSON, or a JSON value. -/
inductive DashboardAnswer
  | httpError
  | notJson
  | json (payload : Json)

/-- The elements of a list that are objects. -/
def objects (raw : List Json) : List (List (Str × Json)) :=
  raw.filterMap fun
    | .obj proxy => some proxy
    | _ => none

/-- `FrpsService._fetch_tcp_proxies`. -/
def fetchTcpProxies (answer : DashboardAnswer) : Except PyError (List (FrpsProxy iso)) :=
  match answer with
  | .httpError | .notJson => .error (.app (DeviceChannelError "frps dashboard unavailable"))
  | .json (.obj payload) =>
      match Json.getD payload (py "proxies") (.arr []) with
      | .arr raw => (objects raw).mapM (parseProxy env iso)
      | _ => .error (.app (DeviceChannelError "invalid frps dashboard response"))
  | .json _ => .error (.app (DeviceChannelError "invalid frps dashboard response"))

/-- The list under the key `proxies`. -/
def proxiesIn (payload : Json) : Option (List Json) :=
  match payload with
  | .obj kvs =>
      match Json.getD kvs (py "proxies") (.arr []) with
      | .arr raw => some raw
      | _ => none
  | _ => none

/-- The value is an infinity. -/
def isInfinite : Json → Bool
  | .num (.float (.inf _)) => true
  | _ => false

/-- Some object in the list of proxies has an infinity for its port. -/
def InfinitePort (payload : Json) : Prop :=
  ∃ raw, proxiesIn payload = some raw ∧ ∃ proxy ∈ objects raw, isInfinite (portOf proxy) = true

/-! ### What can go wrong -/

variable {env iso}

theorem orNone_eq_error {α : Type} {caught : List PyError} {x : Except PyError α} {e : PyError} :
    orNone caught x = .error e ↔ x = .error e ∧ e ∉ caught := by
  unfold orNone
  cases x with
  | ok a => simp
  | error e' =>
      dsimp only
      split
      · rename_i hmem
        simp only [reduceCtorEq, Except.error.injEq, false_iff, not_and, not_not]
        rintro rfl
        exact hmem
      · rename_i hmem
        simp only [Except.error.injEq, iff_self_and]
        rintro rfl
        exact hmem

/-- `int` overflows on the infinities only. -/
theorem intOf_eq_error {v : Json} {e : PyError} (h : CommandService.intOf env v = .error e) :
    (e = .overflowError ∧ isInfinite v = true) ∨
      (e ∈ [PyError.typeError, .valueError] ∧ isInfinite v = false) := by
  unfold CommandService.intOf at h
  split at h
  · simp at h
  · simp at h
  · exact Or.inr ⟨by simp [← Except.error.inj h], rfl⟩
  · exact Or.inl ⟨(Except.error.inj h).symm, rfl⟩
  · simp at h
  · split at h
    · simp at h
    · exact Or.inr ⟨by simp [← Except.error.inj h], rfl⟩
  · exact Or.inr ⟨by simp [← Except.error.inj h], rfl⟩
  · exact Or.inr ⟨by simp [← Except.error.inj h], rfl⟩
  · exact Or.inr ⟨by simp [← Except.error.inj h], rfl⟩

/-- An infinity is the one value that `_optional_int` fails on. -/
theorem optionalInt_eq_error {v : Json} {e : PyError} :
    optionalInt env v = .error e ↔ e = .overflowError ∧ isInfinite v = true := by
  constructor
  · intro h
    unfold optionalInt at h
    split at h
    · simp at h
    · obtain ⟨hint, huncaught⟩ := orNone_eq_error.1 h
      rcases intOf_eq_error hint with hinf | ⟨hcaught, -⟩
      · exact hinf
      · exact absurd hcaught huncaught
  · rintro ⟨rfl, hinf⟩
    unfold isInfinite at hinf
    split at hinf
    · rfl
    · simp at hinf

/-- `_optional_datetime` fails on nothing. -/
theorem optionalDatetime_ne_error {v : Json} {e : PyError} :
    optionalDatetime iso v ≠ .error e := by
  intro h
  unfold optionalDatetime at h
  split at h
  · split at h
    · simp at h
    · obtain ⟨hiso, huncaught⟩ := orNone_eq_error.1 h
      rw [iso.error_eq _ _ hiso] at huncaught
      exact huncaught (by simp)
  · simp at h

/-- **A proxy is unreadable only for its port.** -/
theorem parseProxy_eq_error {proxy : List (Str × Json)} {e : PyError} :
    parseProxy env iso proxy = .error e ↔ e = .overflowError ∧ isInfinite (portOf proxy) = true := by
  have hport : optionalInt env (portOf proxy) = .error e ↔
      e = .overflowError ∧ isInfinite (portOf proxy) = true := optionalInt_eq_error
  rw [← hport]
  unfold parseProxy
  -- the port is converted first, and the time after it fails on nothing
  rw [bind_eq_error]
  constructor
  · rintro (h | ⟨port, -, h⟩)
    · exact h
    · rcases bind_eq_error.1 h with h | ⟨time, -, h⟩
      · exact absurd h optionalDatetime_ne_error
      · simp [pure, Except.pure] at h
  · exact Or.inl

/-- An `Except` loop succeeds with the results of the items, in order. -/
theorem forall₂_of_mapM {α β : Type} {f : α → Except PyError β} {xs : List α} {ys : List β}
    (h : xs.mapM f = .ok ys) : List.Forall₂ (fun x y => f x = .ok y) xs ys := by
  induction xs generalizing ys with
  | nil =>
      obtain rfl : [] = ys := by simpa [pure, Except.pure] using h
      exact .nil
  | cons x xs ih =>
      rw [List.mapM_cons] at h
      obtain ⟨y, hy, h⟩ := bind_eq_ok.1 h
      obtain ⟨ys', hys, h⟩ := bind_eq_ok.1 h
      obtain rfl : y :: ys' = ys := by simpa [pure, Except.pure] using h
      exact .cons hy (ih hys)

/-- It fails with the exception of one of them. -/
theorem exists_of_mapM_eq_error {α β : Type} {f : α → Except PyError β} {xs : List α} {e : PyError}
    (h : xs.mapM f = .error e) : ∃ x ∈ xs, f x = .error e := by
  induction xs with
  | nil => simp [pure, Except.pure] at h
  | cons x xs ih =>
      rw [List.mapM_cons] at h
      rcases bind_eq_error.1 h with hx | ⟨y, -, h⟩
      · exact ⟨x, List.mem_cons_self, hx⟩
      · rcases bind_eq_error.1 h with hxs | ⟨ys, -, h⟩
        · obtain ⟨x', hx', hfail⟩ := ih hxs
          exact ⟨x', List.mem_cons_of_mem _ hx', hfail⟩
        · simp [pure, Except.pure] at h

/-! ### The answer as a whole -/

/-- What the dashboard sent is read soundly: there is one proxy for each object in the list, in
order, or the call ends in a `DeviceChannelError`. -/
structure FetchSound (env : Env) (iso : IsoFormat) (payload : Json) : Prop where
  proxies : ∀ proxies, fetchTcpProxies env iso (.json payload) = .ok proxies →
    ∃ raw, proxiesIn payload = some raw ∧
      List.Forall₂ (fun object proxy => parseProxy env iso object = .ok proxy) (objects raw) proxies
  errors : ∀ e, fetchTcpProxies env iso (.json payload) = .error e →
    ∃ message, e = .app (DeviceChannelError message)

/-- An answer with a list of proxies is read object by object, any other is refused. -/
theorem fetchTcpProxies_json (env : Env) (iso : IsoFormat) (payload : Json) :
    (∃ raw, proxiesIn payload = some raw ∧
        fetchTcpProxies env iso (.json payload) = (objects raw).mapM (parseProxy env iso)) ∨
      (proxiesIn payload = none ∧ fetchTcpProxies env iso (.json payload) =
        .error (.app (DeviceChannelError "invalid frps dashboard response"))) := by
  cases payload with
  | obj kvs =>
      cases hraw : Json.getD kvs (py "proxies") (.arr []) with
      | arr raw => exact Or.inl ⟨raw, by simp [proxiesIn, hraw], by simp [fetchTcpProxies, hraw]⟩
      | null | bool | num | str | obj =>
          exact Or.inr ⟨by simp [proxiesIn, hraw], by simp [fetchTcpProxies, hraw]⟩
  | null | bool | num | str | arr => exact Or.inr ⟨rfl, rfl⟩

/-- **The dashboard is read soundly exactly when no port is infinite.** -/
theorem fetchSound_iff (env : Env) (iso : IsoFormat) (payload : Json) :
    FetchSound env iso payload ↔ ¬ InfinitePort payload := by
  rcases fetchTcpProxies_json env iso payload with
    ⟨raw, hraw, hfetch⟩ | ⟨hraw, hfetch⟩
  · have hport : InfinitePort payload ↔ ∃ proxy ∈ objects raw, isInfinite (portOf proxy) = true := by
      unfold InfinitePort
      simp [hraw]
    rw [hport]
    constructor
    · rintro hsound ⟨proxy, hproxy, hinf⟩
      -- the object is not read, so the call fails, and not with a `DeviceChannelError`
      cases hcall : (objects raw).mapM (parseProxy env iso) with
      | ok proxies =>
          have hread := List.forall₂_iff_get.1 (forall₂_of_mapM hcall)
          obtain ⟨i, hi, rfl⟩ := List.mem_iff_getElem.1 hproxy
          have hok := hread.2 i hi (hread.1 ▸ hi)
          have herr : parseProxy env iso (objects raw)[i] = .error .overflowError :=
            parseProxy_eq_error.2 ⟨rfl, hinf⟩
          simp [herr] at hok
      | error e =>
          obtain ⟨object, -, hfail⟩ := exists_of_mapM_eq_error hcall
          obtain ⟨rfl, -⟩ := parseProxy_eq_error.1 hfail
          obtain ⟨message, hmessage⟩ := hsound.errors _ (hfetch.trans hcall)
          simp at hmessage
    · intro hfinite
      refine ⟨fun proxies hok => ⟨raw, hraw, forall₂_of_mapM (hfetch ▸ hok)⟩, fun e hfail => ?_⟩
      obtain ⟨object, hobject, hparse⟩ := exists_of_mapM_eq_error (hfetch ▸ hfail)
      exact absurd ⟨object, hobject, (parseProxy_eq_error.1 hparse).2⟩ hfinite
  · refine iff_of_true ⟨fun proxies hok => ?_, fun e hfail => ?_⟩ fun ⟨raw, hsome, _⟩ => ?_
    · simp [hfetch] at hok
    · rw [hfetch] at hfail
      exact ⟨_, (Except.error.inj hfail).symm⟩
    · simp [hraw] at hsome

/-- An ISO parser that knows no text. -/
def noIso : IsoFormat where
  Datetime := Unit
  fromisoformat _ := .error .valueError
  error_eq _ _ h := (Except.error.inj h).symm

/-- A dashboard with one proxy whose port is `1e400`. -/
def infinitePort : Json :=
  .obj [(py "proxies", .arr [.obj [(py "name", .str (py "smsf-dev_1")),
    (py "conf", .obj [(py "remote_port", .num (.float (.inf false)))])]])]

/-- **The exception of an infinite port escapes.** -/
theorem infinite_port_escapes : ¬ FetchSound (plainEnv ormSchema) noIso infinitePort := by
  intro hsound
  obtain ⟨message, hmessage⟩ := hsound.errors .overflowError rfl
  simp at hmessage

end FrpsService

end SmsForwarder
