/-
**Masking hides what it masks.**

Two values that differ only in their secrets, in message texts of the same length and in the middle
of phone numbers become the same value.  What is written to a command log, an audit row or a log
line is scrubbed first, so it tells nothing about those parts.

The relation between the two values follows the shape of a JSON value and is closed under all its
constructors; under a sensitive key it asks for nothing.

Main definitions:

* `SmsForwarder.Hidden` — what may differ under a key;
* `SmsForwarder.AlikeUpToSecrets` — two values that differ only in such parts;
* `SmsForwarder.WrittenAlike` — two values leave the same traces in all logs.

Main results:

* `SmsForwarder.AlikeUpToSecrets.scrub_eq` — **scrubbing does not tell such values apart**;
* `SmsForwarder.writtenAlike` — nor does anything that is written about them.
-/

import SmsForwarder.CommandService
import SmsForwarder.PhoneMasks

set_option relaxedAutoImplicit false
set_option autoImplicit false

namespace SmsForwarder

open Py CommandService

variable (rt : Runtime)

/-! ### Values that differ in hidden parts -/

/-- The two values of a field are hidden: the key is sensitive, or it is a content key and the
values are texts of the same length. -/
def Hidden (key : Str) (v w : Json) : Prop :=
  isSensitive rt key = true ∨
    (isContent rt key = true ∧ ∃ s s', v = .str s ∧ w = .str s' ∧ s.length = s'.length)

/-- Two values of the same shape with the same keys that differ only in hidden parts and in the
middle of phone numbers. -/
inductive AlikeUpToSecrets : Json → Json → Prop
  | null : AlikeUpToSecrets .null .null
  | bool (b : Bool) : AlikeUpToSecrets (.bool b) (.bool b)
  | num (n : Number) : AlikeUpToSecrets (.num n) (.num n)
  | str {s s' : Str} : SameButPhones rt s s' → AlikeUpToSecrets (.str s) (.str s')
  | arr {xs ys : List Json} : xs.length = ys.length →
      (∀ (i : ℕ) x y, xs[i]? = some x → ys[i]? = some y → AlikeUpToSecrets x y) →
        AlikeUpToSecrets (.arr xs) (.arr ys)
  | obj {kvs kvs' : List (Str × Json)} : kvs.map Prod.fst = kvs'.map Prod.fst →
      (∀ (i : ℕ) key v w, kvs[i]? = some (key, v) → kvs'[i]? = some (key, w) → ¬ Hidden rt key v w →
        AlikeUpToSecrets v w) →
        AlikeUpToSecrets (.obj kvs) (.obj kvs')

variable {rt}

/-- Related lists are mapped to the same list by a function that does not tell their items apart. -/
theorem map_eq_map_of_getElem? {α β : Type} {f : α → β} {xs ys : List α}
    (hlen : xs.length = ys.length)
    (h : ∀ (i : ℕ) x y, xs[i]? = some x → ys[i]? = some y → f x = f y) : xs.map f = ys.map f := by
  apply List.ext_getElem?
  intro i
  rw [List.getElem?_map, List.getElem?_map]
  rcases Nat.lt_or_ge i xs.length with hi | hi
  · have hx := List.getElem?_eq_getElem hi
    have hy := List.getElem?_eq_getElem (hlen ▸ hi)
    rw [hx, hy, Option.map_some, Option.map_some, h i _ _ hx hy]
  · rw [List.getElem?_eq_none hi, List.getElem?_eq_none (hlen ▸ hi)]

/-- A value like a text is a text of the same length. -/
theorem AlikeUpToSecrets.isStr_eq {v w : Json} (h : AlikeUpToSecrets rt v w) :
    v.isStr = w.isStr ∧ strLen v = strLen w := by
  cases h with
  | str hs => exact ⟨rfl, hs.1⟩
  | null | bool | num | arr | obj => exact ⟨rfl, rfl⟩

/-- Hidden values are replaced by the same value. -/
theorem scrubField_of_hidden {key : Str} {v w : Json} (h : Hidden rt key v w) :
    scrubField rt key v = scrubField rt key w := by
  unfold scrubField
  rcases h with hs | ⟨hc, s, s', rfl, rfl, hlen⟩
  · rw [if_pos hs, if_pos hs]
  · simp only [hc, Json.isStr, strLen, hlen, Bool.and_self, if_true]

/-- Values that become the same value do so under every key, if they are alike. -/
theorem scrubField_of_alike {key : Str} {v w : Json} (h : AlikeUpToSecrets rt v w)
    (hscrub : scrub rt v = scrub rt w) : scrubField rt key v = scrubField rt key w := by
  obtain ⟨hstr, hlen⟩ := h.isStr_eq
  unfold scrubField
  rw [hstr, hlen, hscrub]

/-- **Scrubbing does not tell values apart** that differ only in secrets, message texts of the same
length and the middle of phone numbers. -/
theorem AlikeUpToSecrets.scrub_eq {v w : Json} (h : AlikeUpToSecrets rt v w) :
    scrub rt v = scrub rt w := by
  induction h with
  | null => rfl
  | bool b => rfl
  | num n => rfl
  | str hs => rw [scrub_str, scrub_str, maskPhone_congr hs]
  | arr hlen _ ih => rw [scrub_arr, scrub_arr, map_eq_map_of_getElem? hlen ih]
  | @obj kvs kvs' hkeys halike ih =>
      have hlen : kvs.length = kvs'.length := by
        rw [← List.length_map (f := Prod.fst), hkeys, List.length_map]
      rw [scrub_obj, scrub_obj, map_eq_map_of_getElem? hlen]
      rintro i ⟨key, v⟩ ⟨key', w⟩ hv hw
      obtain rfl : key = key' := by
        have hi := congrArg (fun keys => keys[i]?) hkeys
        simpa [hv, hw] using hi
      refine congrArg (Prod.mk key) ?_
      by_cases hhidden : Hidden rt key v w
      · exact scrubField_of_hidden hhidden
      · exact scrubField_of_alike (halike i key v w hv hw hhidden) (ih i key v w hv hw hhidden)

/-! ### What is written -/

variable (rt) in
/-- `_scrub_processor`: what is logged of an event. -/
def scrubProcessor (eventDict : Json) : Json := scrub rt eventDict

/-- Nothing that is written about the values tells them apart: the rows of a command log, as it is
created for a request and as it is finished with an answer, the audit rows, and the log lines. -/
structure WrittenAlike (env : Env) (v w : Json) : Prop where
  scrubbed : scrub env.runtime v = scrub env.runtime w
  request : ∀ (d : DispatchCall) (device : Device) (commandType : String) (userId : Option ℤ)
    (payload payload' : List (Str × Json)), v = .obj payload → w = .obj payload' →
      newLog env d device commandType payload userId =
        newLog env d device commandType payload' userId
  answer : ∀ (d : DispatchCall) (log : DeviceCommandLog) (status : String)
    (errorMsg : Option String) (response response' : List (Str × Json)), v = .obj response →
      w = .obj response' → finishedLog env d log status response errorMsg =
        finishedLog env d log status response' errorMsg
  auditRow : ∀ (action result : String) (userId : Option ℤ) (deviceId : Option String),
    AuditService.record env.runtime action result v userId deviceId =
      AuditService.record env.runtime action result w userId deviceId
  logLine : scrubProcessor env.runtime v = scrubProcessor env.runtime w

/-- **Nothing that is written tells such values apart.** -/
theorem writtenAlike (env : Env) (v w : Json) (h : AlikeUpToSecrets env.runtime v w) :
    WrittenAlike env v w := by
  have hscrub : scrub env.runtime v = scrub env.runtime w := h.scrub_eq
  refine ⟨hscrub, ?_, ?_, fun action result userId deviceId => ?_, hscrub⟩
  · rintro d device commandType userId payload payload' rfl rfl
    unfold newLog
    rw [hscrub]
  · rintro d log status errorMsg response response' rfl rfl
    unfold finishedLog
    rw [hscrub]
  · unfold AuditService.record
    rw [hscrub]

/-- A signed request to send a message to a phone number. -/
def signedSms (sign content middle : String) : Json :=
  .obj [(py "Sign", .str (py sign)), (py "content", .str (py content)),
    (py "phone_numbers", .str (py "138" ++ py middle ++ py "8000"))]

theorem alike_signedSms : AlikeUpToSecrets asciiRuntime
    (signedSms "abc" "hello" "0013") (signedSms "zz" "howdy" "7777") := by
  refine AlikeUpToSecrets.obj rfl fun i key v w hv hw hhidden => ?_
  match i, hv, hw with
  | 0, hv, hw =>
      cases hv
      exact absurd (Or.inl (by decide)) hhidden
  | 1, hv, hw =>
      cases hv
      cases hw
      exact absurd (Or.inr ⟨by decide, _, _, rfl, rfl, by decide⟩) hhidden
  | 2, hv, hw =>
      cases hv
      cases hw
      exact AlikeUpToSecrets.str (sameButPhones_of_phone _ _ _ _ (by decide) (by decide)
        (by decide) (by decide) (by decide) (by decide))

/-- Two such requests are logged alike. -/
theorem signedSms_writtenAlike : WrittenAlike (plainEnv ormSchema)
    (signedSms "abc" "hello" "0013") (signedSms "zz" "howdy" "7777") :=
  writtenAlike (plainEnv ormSchema) _ _ alike_signedSms

end SmsForwarder
