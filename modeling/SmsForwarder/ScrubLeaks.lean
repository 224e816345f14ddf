/-
**What masking leaves readable.**

A scrubbed value is meant to hold no secret, no message text and no phone number.  This module
follows every part of a scrubbed value back to the part of the original it came from and derives
from that exactly which originals are scrubbed clean.  `scrub` rewrites texts, but it copies
object keys and numbers as they are, and below a content key it only replaces a value that is a
text itself: what can leak is what those three branches copy.

Main definitions:

* `SmsForwarder.Within` — the parts of a JSON value;
* `SmsForwarder.Kept` — the parts of a value that `scrub` visits, that is, those not replaced as a
  whole on the way down;
* `SmsForwarder.ScrubbedClean` — no secret is left behind;
* `SmsForwarder.Copyable` — what the copied parts may hold.

Main results:

* `SmsForwarder.within_scrub` — **where the parts of a scrubbed value come from**;
* `SmsForwarder.scrub_sensitive` — a value under a sensitive key is always `***`;
* `SmsForwarder.scrubbedClean_scrub_iff` — a value is scrubbed clean exactly when its copied parts
  are harmless.
-/

import SmsForwarder.Masking

set_option relaxedAutoImplicit false
set_option autoImplicit false

namespace SmsForwarder

open Py DigitRuns

/-! ### Parts of a value -/

/-- `Within u v`: the value `u` occurs in `v`, at any depth. -/
inductive Within : Json → Json → Prop
  | refl (v : Json) : Within v v
  | item {u x : Json} {xs : List Json} : x ∈ xs → Within u x → Within u (.arr xs)
  | field {u : Json} {kv : Str × Json} {kvs : List (Str × Json)} :
      kv ∈ kvs → Within u kv.2 → Within u (.obj kvs)

theorem within_arr {u : Json} {xs : List Json} :
    Within u (.arr xs) ↔ u = .arr xs ∨ ∃ x ∈ xs, Within u x := by
  constructor
  · intro h
    cases h with
    | refl => exact Or.inl rfl
    | item hx h => exact Or.inr ⟨_, hx, h⟩
  · intro h
    rcases h with rfl | ⟨x, hx, h⟩
    · exact Within.refl _
    · exact Within.item hx h

theorem within_obj {u : Json} {kvs : List (Str × Json)} :
    Within u (.obj kvs) ↔ u = .obj kvs ∨ ∃ kv ∈ kvs, Within u kv.2 := by
  constructor
  · intro h
    cases h with
    | refl => exact Or.inl rfl
    | field hkv h => exact Or.inr ⟨_, hkv, h⟩
  · intro h
    rcases h with rfl | ⟨kv, hkv, h⟩
    · exact Within.refl _
    · exact Within.field hkv h

theorem Within.trans {u v w : Json} (h : Within u v) (h' : Within v w) : Within u w := by
  induction h' with
  | refl => exact h
  | item hx _ ih => exact Within.item hx ih
  | field hkv _ ih => exact Within.field hkv ih

theorem within_str {u : Json} {s : Str} : Within u (.str s) ↔ u = .str s := by
  constructor
  · intro h
    cases h
    rfl
  · rintro rfl
    exact Within.refl _

theorem within_num {u : Json} {n : Number} : Within u (.num n) ↔ u = .num n := by
  constructor
  · intro h
    cases h
    rfl
  · rintro rfl
    exact Within.refl _

variable (rt : Runtime)

/-- The value under this key is replaced as a whole: it is a secret, or the text of a message. -/
def Replaced (kv : Str × Json) : Prop :=
  isSensitive rt kv.1 = true ∨ (isContent rt kv.1 = true ∧ kv.2.isStr = true)

/-- `Kept u v`: the value `u` occurs in `v` in a place that `scrub` visits. -/
inductive Kept : Json → Json → Prop
  | refl (v : Json) : Kept v v
  | item {u x : Json} {xs : List Json} : x ∈ xs → Kept u x → Kept u (.arr xs)
  | field {u : Json} {kv : Str × Json} {kvs : List (Str × Json)} :
      kv ∈ kvs → ¬ Replaced rt kv → Kept u kv.2 → Kept u (.obj kvs)

/-- The field `kv` of an object that `scrub` visits in `v`. -/
def KeptField (kv : Str × Json) (v : Json) : Prop := ∃ kvs, Kept rt (.obj kvs) v ∧ kv ∈ kvs

/-- The part `w` of a scrubbed value is not the scrubbed form of a part, but comes from the
replacement of the field `kv`. -/
def FromReplacement (w : Json) (kv : Str × Json) : Prop :=
  (isSensitive rt kv.1 = true ∧ w = .str stars) ∨
    (isSensitive rt kv.1 = false ∧ isContent rt kv.1 = true ∧ kv.2.isStr = true ∧
      (w = contentLength (strLen kv.2) ∨ w = .num (.int (strLen kv.2))))

variable {rt}

/-- The parts of what a field became. -/
theorem within_scrubField {w : Json} {kv : Str × Json} :
    Within w (scrubField rt kv.1 kv.2) ↔
      FromReplacement rt w kv ∨ (¬ Replaced rt kv ∧ Within w (scrub rt kv.2)) := by
  unfold scrubField FromReplacement Replaced
  cases hs : isSensitive rt kv.1 with
  | true => simp [within_str]
  | false =>
      cases hc : isContent rt kv.1 with
      | false => simp
      | true =>
          cases ht : kv.2.isStr with
          | false => simp
          | true => simp [contentLength, within_obj, within_num]

/-- A visited part is scrubbed to a part of the scrubbed value. -/
theorem Kept.within_scrub {u v : Json} (h : Kept rt u v) : Within (scrub rt u) (scrub rt v) := by
  induction h with
  | refl => exact Within.refl _
  | item hx _ ih =>
      rw [scrub_arr]
      exact Within.item (List.mem_map_of_mem hx) ih
  | @field kv kvs hkv hrep _ ih =>
      rw [scrub_obj]
      refine Within.field (List.mem_map.2 ⟨kv, hkv, rfl⟩) ?_
      exact within_scrubField.2 (Or.inr ⟨hrep, ih⟩)

/-- The replacement of a visited field is a part of the scrubbed value. -/
theorem KeptField.within_scrub {w v : Json} {kv : Str × Json} (h : KeptField rt kv v)
    (hw : FromReplacement rt w kv) : Within w (scrub rt v) := by
  obtain ⟨kvs, hkvs, hkv⟩ := h
  refine Within.trans ?_ hkvs.within_scrub
  rw [scrub_obj]
  refine Within.field (List.mem_map.2 ⟨kv, hkv, rfl⟩) ?_
  exact within_scrubField.2 (Or.inl hw)

/-- **Where the parts of a scrubbed value come from**: from a visited part of the original, or
from the replacement of a visited field. -/
theorem within_scrub {w v : Json} :
    Within w (scrub rt v) ↔
      (∃ u, Kept rt u v ∧ w = scrub rt u) ∨ ∃ kv, KeptField rt kv v ∧ FromReplacement rt w kv := by
  constructor
  · intro h
    induction v using Json.ind generalizing w with
    | arr xs ih =>
        rw [scrub_arr, within_arr] at h
        rcases h with rfl | ⟨x', hx', h⟩
        · exact Or.inl ⟨.arr xs, Kept.refl _, (scrub_arr rt xs).symm⟩
        · obtain ⟨x, hx, rfl⟩ := List.mem_map.1 hx'
          rcases ih x hx h with ⟨u, hu, rfl⟩ | ⟨kv, ⟨kvs, hkvs, hkv⟩, hw⟩
          · exact Or.inl ⟨u, Kept.item hx hu, rfl⟩
          · exact Or.inr ⟨kv, ⟨kvs, Kept.item hx hkvs, hkv⟩, hw⟩
    | obj kvs ih =>
        rw [scrub_obj, within_obj] at h
        rcases h with rfl | ⟨kv', hkv', h⟩
        · exact Or.inl ⟨.obj kvs, Kept.refl _, (scrub_obj rt kvs).symm⟩
        · obtain ⟨kv, hkv, rfl⟩ := List.mem_map.1 hkv'
          rcases within_scrubField.1 h with hw | ⟨hrep, h⟩
          · exact Or.inr ⟨kv, ⟨kvs, Kept.refl _, hkv⟩, hw⟩
          · rcases ih kv hkv h with ⟨u, hu, rfl⟩ | ⟨kv', ⟨kvs', hkvs', hkv'⟩, hw⟩
            · exact Or.inl ⟨u, Kept.field hkv hrep hu, rfl⟩
            · exact Or.inr ⟨kv', ⟨kvs', Kept.field hkv hrep hkvs', hkv'⟩, hw⟩
    | null | bool b | num n | str s =>
        -- a leaf is scrubbed to a leaf, whose only part it is itself
        refine Or.inl ⟨_, Kept.refl _, ?_⟩
        simp only [scrub] at h ⊢
        cases h
        rfl
  · intro h
    rcases h with ⟨u, hu, rfl⟩ | ⟨kv, hkv, hw⟩
    · exact hu.within_scrub
    · exact hkv.within_scrub hw

/-! ### Clean values -/

variable (rt) in
/-- **No secret is left behind** in `w`: a value under a sensitive key is `***`, no text other
than `***` remains below a content key, and no key, text or number holds a run of exactly eleven
digits. -/
structure ScrubbedClean (w : Json) : Prop where
  sensitive : ∀ kvs, Within (.obj kvs) w → ∀ kv ∈ kvs, isSensitive rt kv.1 = true →
    kv.2 = .str stars
  content : ∀ kvs, Within (.obj kvs) w → ∀ kv ∈ kvs, isContent rt kv.1 = true →
    ∀ s, Within (.str s) kv.2 → s = stars
  keys : ∀ kvs, Within (.obj kvs) w → ∀ kv ∈ kvs, ¬ HasRun rt.isDigit 11 kv.1
  strings : ∀ s, Within (.str s) w → ¬ HasRun rt.isDigit 11 s
  numbers : ∀ n, Within (.num n) w → ¬ HasRun rt.isDigit 11 (rt.numStr n)

variable (rt) in
/-- What the parts of `v` that `scrub` copies may hold: no key and no number with a run of exactly
eleven digits, no text other than `***` below a content key whose value is not itself a text, and
no replaced message whose length has eleven digits. -/
structure Copyable (v : Json) : Prop where
  keys : ∀ kv, KeptField rt kv v → ¬ HasRun rt.isDigit 11 kv.1
  numbers : ∀ n, Kept rt (.num n) v → ¬ HasRun rt.isDigit 11 (rt.numStr n)
  content : ∀ kv, KeptField rt kv v → isContent rt kv.1 = true → ¬ Replaced rt kv →
    ∀ s, Kept rt (.str s) kv.2 → s = stars
  lengths : ∀ kv, KeptField rt kv v → isSensitive rt kv.1 = false → isContent rt kv.1 = true →
    kv.2.isStr = true → ¬ HasRun rt.isDigit 11 (intStr (strLen kv.2))

theorem not_hasRun_of_no_digit {n : ℕ} (hn : 0 < n) {s : Str}
    (h : ∀ c ∈ s, rt.isDigit c = false) : ¬ HasRun rt.isDigit n s := by
  intro hrun
  obtain ⟨pre, run, post, rfl, hlen, hall, -⟩ := hrun
  cases run with
  | nil => simp at hlen; omega
  | cons c run =>
      have hc := hall c (by simp)
      rw [h c (by simp)] at hc
      exact absurd hc (by simp)

/-- An ASCII text without digits has no run. -/
theorem not_hasRun_ascii {n : ℕ} (hn : 0 < n) {s : Str}
    (h : s.all (fun c => c.val < 128 && !asciiDigit c) = true) : ¬ HasRun rt.isDigit n s := by
  refine not_hasRun_of_no_digit hn fun c hc => ?_
  have hc := List.all_eq_true.1 h c hc
  simp only [Bool.and_eq_true, decide_eq_true_eq, Bool.not_eq_true'] at hc
  rw [rt.isDigit_ascii c hc.1, hc.2]

theorem not_hasRun_stars : ¬ HasRun rt.isDigit 11 stars := not_hasRun_ascii (by decide) (by decide)

theorem not_hasRun_content_length : ¬ HasRun rt.isDigit 11 (py "content_length") :=
  not_hasRun_ascii (by decide) (by decide)

theorem lower_content_length : rt.lower (py "content_length") = py "content_length" := by
  rw [rt.lower_ascii _ (by decide)]
  decide

/-- The key of a replacement is neither secret nor content. -/
theorem isSensitive_content_length : isSensitive rt (py "content_length") = false := by
  simp only [isSensitive, lower_content_length]
  decide

theorem isContent_content_length : isContent rt (py "content_length") = false := by
  simp only [isContent, lower_content_length]
  decide

/-- The objects of a scrubbed value are the scrubbed forms of visited objects, and the
replacements of message texts. -/
theorem within_obj_scrub {kvs' : List (Str × Json)} {v : Json} :
    Within (.obj kvs') (scrub rt v) ↔
      (∃ kvs, Kept rt (.obj kvs) v ∧
        kvs' = kvs.map fun kv => (kv.1, scrubField rt kv.1 kv.2)) ∨
      ∃ kv, KeptField rt kv v ∧ isSensitive rt kv.1 = false ∧ isContent rt kv.1 = true ∧
        kv.2.isStr = true ∧ kvs' = [(py "content_length", .num (.int (strLen kv.2)))] := by
  rw [within_scrub]
  constructor
  · intro h
    rcases h with ⟨u, hu, heq⟩ | ⟨kv, hkv, hw⟩
    · obtain ⟨kvs, rfl, rfl⟩ := (scrub_eq_obj rt).1 heq.symm
      exact Or.inl ⟨kvs, hu, rfl⟩
    · rcases hw with ⟨-, hw⟩ | ⟨hs, hc, ht, hw | hw⟩
      · simp at hw
      · exact Or.inr ⟨kv, hkv, hs, hc, ht, by simpa [contentLength] using hw⟩
      · simp at hw
  · intro h
    rcases h with ⟨kvs, hkvs, rfl⟩ | ⟨kv, hkv, hs, hc, ht, rfl⟩
    · exact Or.inl ⟨.obj kvs, hkvs, (scrub_obj rt kvs).symm⟩
    · exact Or.inr ⟨kv, hkv, Or.inr ⟨hs, hc, ht, Or.inl rfl⟩⟩

/-- The texts of a scrubbed value are masked texts and `***`. -/
theorem within_str_scrub {s : Str} {v : Json} :
    Within (.str s) (scrub rt v) ↔
      (∃ s₀, Kept rt (.str s₀) v ∧ s = maskPhone rt s₀) ∨
      (s = stars ∧ ∃ kv, KeptField rt kv v ∧ isSensitive rt kv.1 = true) := by
  rw [within_scrub]
  constructor
  · intro h
    rcases h with ⟨u, hu, heq⟩ | ⟨kv, hkv, hw⟩
    · obtain ⟨s₀, rfl, rfl⟩ := (scrub_eq_str rt).1 heq.symm
      exact Or.inl ⟨s₀, hu, rfl⟩
    · rcases hw with ⟨hs, hw⟩ | ⟨-, -, -, hw | hw⟩
      · exact Or.inr ⟨by simpa using hw, kv, hkv, hs⟩
      · simp [contentLength] at hw
      · simp at hw
  · intro h
    rcases h with ⟨s₀, hs₀, rfl⟩ | ⟨rfl, kv, hkv, hs⟩
    · exact Or.inl ⟨.str s₀, hs₀, (scrub_str rt s₀).symm⟩
    · exact Or.inr ⟨kv, hkv, Or.inl ⟨hs, rfl⟩⟩

/-- The numbers of a scrubbed value are the visited numbers and the lengths of replaced texts. -/
theorem within_num_scrub {n : Number} {v : Json} :
    Within (.num n) (scrub rt v) ↔
      Kept rt (.num n) v ∨
      ∃ kv, KeptField rt kv v ∧ isSensitive rt kv.1 = false ∧ isContent rt kv.1 = true ∧
        kv.2.isStr = true ∧ n = .int (strLen kv.2) := by
  rw [within_scrub]
  constructor
  · intro h
    rcases h with ⟨u, hu, heq⟩ | ⟨kv, hkv, hw⟩
    · rw [(scrub_eq_num rt).1 heq.symm] at hu
      exact Or.inl hu
    · rcases hw with ⟨-, hw⟩ | ⟨hs, hc, ht, hw | hw⟩
      · simp at hw
      · simp [contentLength] at hw
      · exact Or.inr ⟨kv, hkv, hs, hc, ht, by simpa using hw⟩
  · intro h
    rcases h with h | ⟨kv, hkv, hs, hc, ht, rfl⟩
    · exact Or.inl ⟨.num n, h, (scrub_num rt n).symm⟩
    · exact Or.inr ⟨kv, hkv, Or.inr ⟨hs, hc, ht, Or.inr rfl⟩⟩

/-- A value under a sensitive key is always `***`. -/
theorem scrub_sensitive {kvs : List (Str × Json)} {v : Json} (h : Within (.obj kvs) (scrub rt v))
    {kv : Str × Json} (hkv : kv ∈ kvs) (hs : isSensitive rt kv.1 = true) : kv.2 = .str stars := by
  rcases within_obj_scrub.1 h with ⟨kvs₀, -, rfl⟩ | ⟨kv₀, -, -, -, -, rfl⟩
  · obtain ⟨kv₀, -, rfl⟩ := List.mem_map.1 hkv
    have hs₀ : isSensitive rt kv₀.1 = true := hs
    simp [scrubField, hs₀]
  · obtain rfl := List.mem_singleton.1 hkv
    have hs₀ : isSensitive rt (py "content_length") = true := hs
    rw [isSensitive_content_length] at hs₀
    exact absurd hs₀ (by simp)

/-- No text of a scrubbed value holds a phone number. -/
theorem scrub_strings {s : Str} {v : Json} (h : Within (.str s) (scrub rt v)) :
    ¬ HasRun rt.isDigit 11 s := by
  rcases within_str_scrub.1 h with ⟨s₀, -, rfl⟩ | ⟨rfl, -⟩
  · exact not_hasRun_sub isDigit_star s₀
  · exact not_hasRun_stars

/-- The keys of a scrubbed value are the visited keys and `content_length`. -/
theorem scrub_keys_iff {v : Json} :
    (∀ kvs, Within (.obj kvs) (scrub rt v) → ∀ kv ∈ kvs, ¬ HasRun rt.isDigit 11 kv.1) ↔
      ∀ kv, KeptField rt kv v → ¬ HasRun rt.isDigit 11 kv.1 := by
  constructor
  · intro h kv hkv
    obtain ⟨kvs, hkvs, hmem⟩ := hkv
    exact h _ (within_obj_scrub.2 (Or.inl ⟨kvs, hkvs, rfl⟩)) (kv.1, scrubField rt kv.1 kv.2)
      (List.mem_map.2 ⟨kv, hmem, rfl⟩)
  · intro h kvs hkvs kv hkv
    rcases within_obj_scrub.1 hkvs with ⟨kvs₀, hkvs₀, rfl⟩ | ⟨kv₀, -, -, -, -, rfl⟩
    · obtain ⟨kv₀, hkv₀, rfl⟩ := List.mem_map.1 hkv
      exact h kv₀ ⟨kvs₀, hkvs₀, hkv₀⟩
    · obtain rfl := List.mem_singleton.1 hkv
      exact not_hasRun_content_length

/-- The texts below a visited content key: none, if the value was a text or a secret, and
otherwise the masked texts of the value. -/
theorem scrub_content_field_iff (kv : Str × Json) :
    (∀ s, Within (.str s) (scrubField rt kv.1 kv.2) → s = stars) ↔
      (¬ Replaced rt kv → ∀ s, Kept rt (.str s) kv.2 → s = stars) := by
  constructor
  · intro h hrep s hs
    have hw : Within (.str (maskPhone rt s)) (scrubField rt kv.1 kv.2) :=
      within_scrubField.2 (Or.inr ⟨hrep, within_str_scrub.2 (Or.inl ⟨s, hs, rfl⟩)⟩)
    exact maskPhone_eq_stars.1 (h _ hw)
  · intro h s hs
    rcases within_scrubField.1 hs with hw | ⟨hrep, hw⟩
    · rcases hw with ⟨-, hw⟩ | ⟨-, -, -, hw | hw⟩
      · simpa using hw
      · simp [contentLength] at hw
      · simp at hw
    · rcases within_str_scrub.1 hw with ⟨s₀, hs₀, rfl⟩ | ⟨rfl, -⟩
      · rw [h hrep s₀ hs₀]
        exact maskPhone_eq_stars.2 rfl
      · rfl

/-- A value is scrubbed clean exactly when its copied parts are harmless. -/
theorem scrubbedClean_scrub_iff {v : Json} : ScrubbedClean rt (scrub rt v) ↔ Copyable rt v := by
  constructor
  · intro h
    refine ⟨scrub_keys_iff.1 h.keys, fun n hn => h.numbers n (within_num_scrub.2 (Or.inl hn)),
      ?_, ?_⟩
    · intro kv hkv hc hrep
      obtain ⟨kvs, hkvs, hmem⟩ := hkv
      refine (scrub_content_field_iff kv).1 ?_ hrep
      exact h.content _ (within_obj_scrub.2 (Or.inl ⟨kvs, hkvs, rfl⟩))
        (kv.1, scrubField rt kv.1 kv.2) (List.mem_map.2 ⟨kv, hmem, rfl⟩) hc
    · intro kv hkv hs hc ht
      exact h.numbers _ (within_num_scrub.2 (Or.inr ⟨kv, hkv, hs, hc, ht, rfl⟩))
  · intro h
    refine ⟨fun kvs hkvs kv hkv hs => scrub_sensitive hkvs hkv hs, ?_, scrub_keys_iff.2 h.keys,
      fun s hs => scrub_strings hs, ?_⟩
    · intro kvs hkvs kv hkv hc
      rcases within_obj_scrub.1 hkvs with ⟨kvs₀, hkvs₀, rfl⟩ | ⟨kv₀, -, -, -, -, rfl⟩
      · obtain ⟨kv₀, hkv₀, rfl⟩ := List.mem_map.1 hkv
        exact (scrub_content_field_iff kv₀).2 (h.content kv₀ ⟨kvs₀, hkvs₀, hkv₀⟩ hc)
      · obtain rfl := List.mem_singleton.1 hkv
        have hc₀ : isContent rt (py "content_length") = true := hc
        rw [isContent_content_length] at hc₀
        exact absurd hc₀ (by simp)
    · intro n hn
      rcases within_num_scrub.1 hn with hn | ⟨kv, hkv, hs, hc, ht, rfl⟩
      · exact h.numbers n hn
      · exact h.lengths kv hkv hs hc ht

/-- A message given as a list of texts is written out in full. -/
theorem scrub_leaks_listed_content :
    ¬ ScrubbedClean asciiRuntime
      (scrub asciiRuntime (.obj [(py "content", .arr [.str (py "hello")])])) := by
  intro h
  have hscrub : scrub asciiRuntime (.obj [(py "content", .arr [.str (py "hello")])]) =
      .obj [(py "content", .arr [.str (py "hello")])] := by rfl
  rw [hscrub] at h
  have hs := h.content _ (Within.refl _) (py "content", .arr [.str (py "hello")]) (by simp)
    (by decide) (py "hello") (Within.item (by simp) (Within.refl _))
  exact absurd hs (by decide)

end SmsForwarder
