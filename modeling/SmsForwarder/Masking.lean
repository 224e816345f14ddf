/-
**Masking of what is written to logs.**

`app.utils.masking` rewrites a value before it is stored in a command log, an audit row or a log
line: phone numbers lose their middle, secrets are replaced, message texts are reduced to their
length.  This module translates it, and records what `scrub` does to the parts of a value.

Main definitions:

* `SmsForwarder.maskPhone` — the substitution of `PHONE_RE`;
* `SmsForwarder.isSensitive`, `SmsForwarder.isContent` — the two tests on keys;
* `SmsForwarder.scrub` — the rewriting;
* `SmsForwarder.AuditService.record` — the audit row of an action.

Main results:

* `SmsForwarder.scrub_arr`, `SmsForwarder.scrub_obj` — `scrub` acts item by item, and on each
  field by its key;
* `SmsForwarder.maskPhone_eq_stars` — the mask produces `***` from `***` only.
-/

import SmsForwarder.DigitRuns
import SmsForwarder.Store

set_option relaxedAutoImplicit false
set_option autoImplicit false

namespace SmsForwarder

open Py

/-! ### The rewriting -/

def SENSITIVE_KEYS : List Str :=
  ["token", "webhook_token", "sign", "secret", "password", "authorization"].map py

def CONTENT_KEYS : List Str := ["content", "sms_content", "message", "body"].map py

/-- The replacement of a secret. -/
def stars : Str := py "***"

variable (rt : Runtime)

/-- `mask_phone`: `PHONE_RE.sub(r"\1****\2", value)`. -/
def maskPhone (value : Str) : Str := DigitRuns.sub rt.isDigit (ofChar '*') value

/-- `lowered in SENSITIVE_KEYS or lowered.endswith("_secret")`. -/
def isSensitive (key : Str) : Bool :=
  let lowered := rt.lower key
  lowered ∈ SENSITIVE_KEYS || (py "_secret").isSuffixOf lowered

/-- `lowered in CONTENT_KEYS`. -/
def isContent (key : Str) : Bool := rt.lower key ∈ CONTENT_KEYS

/-- `len(item)` of a text. -/
def strLen : Json → ℕ
  | .str s => s.length
  | _ => 0

/-- `{"content_length": n}`. -/
def contentLength (n : ℕ) : Json := .obj [(py "content_length", .num (.int n))]

mutual

/-- `scrub`, with room for as many nested calls as it makes.  The interpreter allows about a
thousand, and a value that nests deeper ends in a `RecursionError`: see `scrubWithin`.  What is
said about a dispatch is said of values within that limit, where it takes no limit of its own. -/
def scrub : Json → Json
  | .str s => .str (maskPhone rt s)
  | .obj kvs => .obj (scrubFields kvs)
  | .arr xs => .arr (scrubItems xs)
  | v => v

/-- `[scrub(item) for item in value]`. -/
def scrubItems : List Json → List Json
  | [] => []
  | x :: xs => scrub x :: scrubItems xs

/-- The loop over `value.items()`. -/
def scrubFields : List (Str × Json) → List (Str × Json)
  | [] => []
  | (key, item) :: kvs =>
      (key,
        if isSensitive rt key then .str stars
        else if isContent rt key && item.isStr then contentLength (strLen item)
        else scrub item) :: scrubFields kvs

end

/-- What the value of a field becomes. -/
def scrubField (key : Str) (item : Json) : Json :=
  if isSensitive rt key then .str stars
  else if isContent rt key && item.isStr then contentLength (strLen item)
  else scrub rt item

theorem scrub_arr (xs : List Json) : scrub rt (.arr xs) = .arr (xs.map (scrub rt)) := by
  have h : scrubItems rt xs = xs.map (scrub rt) := by
    induction xs with
    | nil => rfl
    | cons x xs ih => rw [scrubItems, ih, List.map_cons]
  rw [scrub, h]

theorem scrub_obj (kvs : List (Str × Json)) :
    scrub rt (.obj kvs) = .obj (kvs.map fun kv => (kv.1, scrubField rt kv.1 kv.2)) := by
  have h : scrubFields rt kvs = kvs.map fun kv => (kv.1, scrubField rt kv.1 kv.2) := by
    induction kvs with
    | nil => rfl
    | cons kv kvs ih =>
        obtain ⟨key, item⟩ := kv
        rw [scrubFields, ih, List.map_cons]
        rfl
  rw [scrub, h]

@[simp] theorem scrub_str (s : Str) : scrub rt (.str s) = .str (maskPhone rt s) := by
  rw [scrub]

@[simp] theorem scrub_num (n : Number) : scrub rt (.num n) = .num n := by
  rw [scrub] <;> simp

/-- Only a text is rewritten to a text. -/
theorem scrub_eq_str {v : Json} {s : Str} :
    scrub rt v = .str s ↔ ∃ s₀, v = .str s₀ ∧ s = maskPhone rt s₀ := by
  cases v with
  | str s₀ => simp [eq_comm]
  | arr xs => simp [scrub_arr]
  | obj kvs => simp [scrub_obj]
  | _ => simp [scrub]

/-- Numbers are kept, and only they end up as numbers. -/
theorem scrub_eq_num {v : Json} {n : Number} : scrub rt v = .num n ↔ v = .num n := by
  cases v with
  | arr xs => simp [scrub_arr]
  | obj kvs => simp [scrub_obj]
  | _ => simp [scrub]

/-- Only an object is rewritten to an object. -/
theorem scrub_eq_obj {v : Json} {kvs' : List (Str × Json)} :
    scrub rt v = .obj kvs' ↔
      ∃ kvs, v = .obj kvs ∧ kvs' = kvs.map fun kv => (kv.1, scrubField rt kv.1 kv.2) := by
  cases v with
  | arr xs => simp [scrub_arr]
  | obj kvs => simp [scrub_obj, eq_comm]
  | _ => simp [scrub]

/-! ### Phone numbers -/

variable {rt}

/-- The mask character is not a digit. -/
theorem isDigit_star : rt.isDigit (ofChar '*') = false := by
  rw [rt.isDigit_ascii _ (by decide)]
  decide

/-- A text shorter than a phone number is kept. -/
theorem maskPhone_of_length_lt {s : Str} (h : s.length < 11) : maskPhone rt s = s := by
  refine DigitRuns.sub_eq_self fun hrun => ?_
  obtain ⟨pre, run, post, rfl, hlen, -⟩ := hrun
  simp only [List.length_append] at h
  omega

/-- The mask produces `***` from `***` only. -/
theorem maskPhone_eq_stars {s : Str} : maskPhone rt s = stars ↔ s = stars := by
  have hstars : stars.length = 3 := by decide
  constructor
  · intro h
    have hkeep : (maskPhone rt s).length = s.length := DigitRuns.length_sub s
    have hlen : s.length = 3 := by rw [← hkeep, h, hstars]
    rwa [maskPhone_of_length_lt (by omega)] at h
  · rintro rfl
    exact maskPhone_of_length_lt (by rw [hstars]; omega)

/-! ### Audit rows -/

variable (rt)

/-- `AuditService.record`: the row added to the session. -/
def AuditService.record (action result : String) (detail : Json) (userId : Option ℤ)
    (deviceId : Option String) : AuditLog :=
  { id := 0, userId, action, deviceId, result := some result, detail := scrub rt detail }

end SmsForwarder
