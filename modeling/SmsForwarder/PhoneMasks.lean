/-
**What masking a phone number does to a text.**

`mask_phone` substitutes the matches of `(?<!\d)(\d{3})\d{4}(\d{4})(?!\d)`.  The matches are the
maximal runs of exactly eleven digits, wherever they stand and whatever is next to them, and the
replacement overwrites the fourth to seventh digit of each.

Main definitions:

* `SmsForwarder.PHONE_RE`, `SmsForwarder.PHONE_MASK` — the pattern and its replacement;
* `SmsForwarder.PhonesMasked` — a text with its phone numbers masked, position by position;
* `SmsForwarder.SameButPhones` — two texts that differ in the middle of phone numbers only.

Main results:

* `SmsForwarder.sub_PHONE_RE` — **the substitution of the pattern is `mask_phone`**;
* `SmsForwarder.phonesMasked_maskPhone` — **every phone number is masked and nothing else is
  changed**;
* `SmsForwarder.maskPhone_congr` — a masked text does not tell such texts apart.
-/

import SmsForwarder.Masking
import SmsForwarder.Patterns

set_option relaxedAutoImplicit false
set_option autoImplicit false

namespace SmsForwarder

open Py DigitRuns

variable (rt : Runtime)

/-! ### The pattern -/

/-- `PHONE_RE`: `(?<!\d)(\d{3})\d{4}(\d{4})(?!\d)`. -/
def PHONE_RE : List (Patterns.Piece CodePoint) :=
  [.notBehind rt.isDigit, .group rt.isDigit 3, .chars rt.isDigit 4, .group rt.isDigit 4,
    .notAhead rt.isDigit]

/-- The replacement `\1****\2`. -/
def PHONE_MASK : List (Patterns.Part CodePoint) := [.group 1, .text (py "****"), .group 2]

section

variable {rt}

/-- Where a run of eleven starts right here, the pattern matches it. -/
theorem matchAt_phone {prev : Option CodePoint} {a b c d e f g h i j k : CodePoint} {rest : Str}
    (hprev : prev.any rt.isDigit = false)
    (hmatch : matchesHere rt.isDigit (a :: b :: c :: d :: e :: f :: g :: h :: i :: j :: k :: rest) =
      true) :
    Patterns.matchAt (PHONE_RE rt) prev
        (a :: b :: c :: d :: e :: f :: g :: h :: i :: j :: k :: rest) =
      some ⟨[[a, b, c], [h, i, j, k]], 11⟩ := by
  simp only [matchesHere, Bool.and_eq_true, Bool.not_eq_true', List.take_succ_cons, List.take_zero,
    List.all_cons, List.all_nil, List.drop_succ_cons, List.drop_zero] at hmatch
  obtain ⟨⟨-, ha, hb, hc, hd, he, hf, hg, hh, hi, hj, hk, -⟩, hnext⟩ := hmatch
  simp [PHONE_RE, Patterns.matchAt, Patterns.startsWith, hprev, ha, hb, hc, hd, he, hf, hg, hh, hi,
    hj, hk, hnext]

/-- Elsewhere it does not match. -/
theorem matchAt_no_phone {prev : Option CodePoint} {s : Str}
    (h : ¬ (prev.any rt.isDigit = false ∧ matchesHere rt.isDigit s = true)) :
    Patterns.matchAt (PHONE_RE rt) prev s = none := by
  simp only [PHONE_RE, Patterns.matchAt, Patterns.startsWith, Bool.and_eq_true, decide_eq_true_eq]
  split
  · rfl
  · rename_i hprev
    have hno : ¬ matchesHere rt.isDigit s = true := fun hmatch =>
      h ⟨by simpa using hprev, hmatch⟩
    -- each check that succeeds is one more part of `matchesHere`
    split
    · rename_i hfirst
      split
      · rename_i hmiddle
        split
        · rename_i hlast
          split
          · rfl
          · rename_i hnext
            refine absurd ?_ hno
            rw [List.drop_drop, List.drop_drop] at hnext
            rw [List.length_drop, List.length_drop, List.drop_drop] at hlast
            rw [List.length_drop] at hmiddle
            have hsplit : s.take 11 = s.take 3 ++ (s.drop 3).take 4 ++ (s.drop 7).take 4 := by
              rw [show 11 = 7 + 4 from rfl, List.take_add, show 7 = 3 + 4 from rfl, List.take_add]
            simp only [matchesHere, hsplit, List.all_append, hfirst.2, hmiddle.2, hlast.2,
              Bool.and_true, Bool.and_eq_true, decide_eq_true_eq, Bool.not_eq_true']
            exact ⟨by omega, by simpa using hnext⟩
        · rfl
      · rfl
    · rfl

/-- Ten characters at the start of a text that has them. -/
theorem exists_ten_of_length {s : Str} (hlen : 10 ≤ s.length) :
    ∃ b c d e f g h i j k rest, s = b :: c :: d :: e :: f :: g :: h :: i :: j :: k :: rest := by
  have hcons : ∀ {n : ℕ} {t : Str}, n + 1 ≤ t.length → ∃ a u, t = a :: u ∧ n ≤ u.length := by
    intro n t ht
    cases t with
    | nil => simp at ht
    | cons a u => exact ⟨a, u, rfl, Nat.le_of_succ_le_succ ht⟩
  obtain ⟨b, s₁, rfl, hlen₁⟩ := hcons hlen
  obtain ⟨c, s₂, rfl, hlen₂⟩ := hcons hlen₁
  obtain ⟨d, s₃, rfl, hlen₃⟩ := hcons hlen₂
  obtain ⟨e, s₄, rfl, hlen₄⟩ := hcons hlen₃
  obtain ⟨f, s₅, rfl, hlen₅⟩ := hcons hlen₄
  obtain ⟨g, s₆, rfl, hlen₆⟩ := hcons hlen₅
  obtain ⟨h, s₇, rfl, hlen₇⟩ := hcons hlen₆
  obtain ⟨i, s₈, rfl, hlen₈⟩ := hcons hlen₇
  obtain ⟨j, s₉, rfl, hlen₉⟩ := hcons hlen₈
  obtain ⟨k, rest, rfl, -⟩ := hcons hlen₉
  exact ⟨b, c, d, e, f, g, h, i, j, k, rest, rfl⟩

/-- The scan of the pattern is the scan over maximal runs. -/
theorem subFrom_PHONE_RE (prev : Option CodePoint) (s : Str) :
    Patterns.subFrom (PHONE_RE rt) PHONE_MASK prev 0 s =
      subGo rt.isDigit (ofChar '*') (prev.any rt.isDigit) 0 s := by
  -- induction on the length: a match is consumed as a whole
  induction hn : s.length using Nat.strong_induction_on generalizing prev s with
  | _ n ih =>
      cases s with
      | nil => rfl
      | cons a s =>
          by_cases hmatch : prev.any rt.isDigit = false ∧ matchesHere rt.isDigit (a :: s) = true
          · have hlen : 10 ≤ s.length := by
              have hlong := hmatch.2
              simp only [matchesHere, Bool.and_eq_true, decide_eq_true_eq, List.length_cons]
                at hlong
              omega
            obtain ⟨b, c, d, e, f, g, h, i, j, k, rest, rfl⟩ := exists_ten_of_length hlen
            have hphone := matchAt_phone hmatch.1 hmatch.2
            have hrest := ih rest.length (by rw [← hn]; simp only [List.length_cons]; omega)
              (some k) rest rfl
            have hscan : Patterns.subFrom (PHONE_RE rt) PHONE_MASK prev 0
                (a :: [b, c, d, e, f, g, h, i, j, k] ++ rest) = _ :=
              Patterns.subFrom_match hphone
            refine hscan.trans ?_
            simp only [List.getLast?_cons_cons, List.getLast?_singleton, Option.some_or]
            rw [hrest]
            simp [subGo, hmatch, PHONE_MASK, Patterns.expand, py]
          · rw [Patterns.subFrom_copy (matchAt_no_phone hmatch), subGo, if_neg hmatch,
              ih s.length (by rw [← hn]; simp) (some a) s rfl, Option.any_some]

end

/-- **The substitution of the pattern is `mask_phone`.** -/
theorem sub_PHONE_RE (value : Str) :
    Patterns.sub (PHONE_RE rt) PHONE_MASK value = maskPhone rt value :=
  subFrom_PHONE_RE none value

/-! ### Position by position -/

/-- The text `masked` is `value` with its phone numbers masked: the fourth to seventh character of
every maximal run of exactly eleven digits is a star, every other character is the one of `value`,
and masking finds nothing more to do. -/
structure PhonesMasked (value masked : Str) : Prop where
  length : masked.length = value.length
  middle : ∀ i, InMiddle rt.isDigit value i → masked[i]? = some (ofChar '*')
  kept : ∀ i, ¬ InMiddle rt.isDigit value i → masked[i]? = value[i]?
  noPhone : ∀ k, ¬ RunAt rt.isDigit masked k 11
  again : maskPhone rt masked = masked

/-- **Every phone number is masked and nothing else is changed**, whatever counts as a digit. -/
theorem phonesMasked_maskPhone (value : Str) : PhonesMasked rt value (maskPhone rt value) := by
  have hno : ¬ HasRun rt.isDigit 11 (maskPhone rt value) := not_hasRun_sub isDigit_star value
  refine ⟨length_sub value, fun i => (getElem?_sub value i).1, fun i => (getElem?_sub value i).2,
    fun k hk => ?_, sub_eq_self hno⟩
  exact hno ((hasRun_iff_runAt (by decide)).2 ⟨k, hk⟩)

/-- Runs of ten and twelve digits are kept, and phone numbers next to each other masked. -/
example : maskPhone asciiRuntime (py "1234567890 123456789012 13800138000,13900139000") =
    py "1234567890 123456789012 138****8000,139****9000" := by decide

/-! ### Texts with the same mask -/

/-- Two texts of one length that differ only in digits in the middle of phone numbers. -/
def SameButPhones (s s' : Str) : Prop :=
  s.length = s'.length ∧ ∀ i c c', s[i]? = some c → s'[i]? = some c' →
    c = c' ∨ (InMiddle rt.isDigit s i ∧ rt.isDigit c' = true)

variable {rt}

/-- The characters in the middle of a phone number are digits. -/
theorem isDigit_of_inMiddle {s : Str} {i : ℕ} (h : InMiddle rt.isDigit s i) :
    s[i]?.any rt.isDigit = true := by
  obtain ⟨k, hrun, hlo, hhi⟩ := h
  exact hrun.inside i (by omega) (by omega)

/-- A phone number and the same with another middle. -/
theorem sameButPhones_of_phone (a m m' b : Str) (ha : a.length = 3) (hm : m.length = 4)
    (hm' : m'.length = 4) (hb : b.length = 4) (hdigit : (a ++ m ++ b).all rt.isDigit = true)
    (hdigit' : m'.all rt.isDigit = true) :
    SameButPhones rt (a ++ m ++ b) (a ++ m' ++ b) := by
  have hlen : (a ++ m ++ b).length = 11 := by
    rw [List.length_append, List.length_append, ha, hm, hb]
  have hrun : RunAt rt.isDigit (a ++ m ++ b) 0 11 := by
    refine ⟨fun i _ hi => any_getElem?_of_mem (List.all_eq_true.1 hdigit) (by omega),
      fun i hi => absurd hi (by omega), ?_⟩
    rw [List.getElem?_eq_none (by omega)]
    rfl
  refine ⟨by simp [hm, hm'], fun i c c' hc hc' => ?_⟩
  rcases Nat.lt_or_ge i 3 with hlo | hlo
  · rw [List.append_assoc, List.getElem?_append_left (by omega)] at hc hc'
    exact Or.inl (Option.some.inj (hc.symm.trans hc'))
  · rcases Nat.lt_or_ge i 7 with hhi | hhi
    · rw [List.append_assoc, List.getElem?_append_right (by omega),
        List.getElem?_append_left (by omega)] at hc'
      exact Or.inr ⟨⟨0, hrun, hlo, hhi⟩, List.all_eq_true.1 hdigit' c' (List.mem_of_getElem? hc')⟩
    · have hpre : (a ++ m).length = 7 := by rw [List.length_append, ha, hm]
      have hpre' : (a ++ m').length = 7 := by rw [List.length_append, ha, hm']
      rw [List.getElem?_append_right (by omega), hpre] at hc
      rw [List.getElem?_append_right (by omega), hpre'] at hc'
      exact Or.inl (Option.some.inj (hc.symm.trans hc'))

/-- Such texts have digits in the same places. -/
theorem SameButPhones.isDigit {s s' : Str} (h : SameButPhones rt s s') (i : ℕ) :
    s[i]?.any rt.isDigit = s'[i]?.any rt.isDigit := by
  rcases Nat.lt_or_ge i s.length with hi | hi
  · have hi' : i < s'.length := h.1 ▸ hi
    have hc := List.getElem?_eq_getElem hi
    have hc' := List.getElem?_eq_getElem hi'
    rcases h.2 i _ _ hc hc' with heq | ⟨hmid, hdigit⟩
    · rw [hc, hc', heq]
    · rw [isDigit_of_inMiddle hmid, hc', Option.any_some, hdigit]
  · rw [List.getElem?_eq_none hi, List.getElem?_eq_none (h.1 ▸ hi)]

/-- **A masked text does not tell such texts apart.** -/
theorem maskPhone_congr {s s' : Str} (h : SameButPhones rt s s') :
    maskPhone rt s = maskPhone rt s' := by
  apply List.ext_getElem?
  intro i
  have hmid : InMiddle rt.isDigit s i ↔ InMiddle rt.isDigit s' i := inMiddle_congr h.isDigit
  unfold maskPhone
  by_cases hi : InMiddle rt.isDigit s i
  · rw [(getElem?_sub s i).1 hi, (getElem?_sub s' i).1 (hmid.1 hi)]
  · rw [(getElem?_sub s i).2 hi, (getElem?_sub s' i).2 fun h' => hi (hmid.2 h')]
    rcases Nat.lt_or_ge i s.length with hlt | hge
    · have hc := List.getElem?_eq_getElem hlt
      have hc' := List.getElem?_eq_getElem (h.1 ▸ hlt)
      rcases h.2 i _ _ hc hc' with heq | ⟨hin, -⟩
      · rw [hc, hc', heq]
      · exact absurd hin hi
    · rw [List.getElem?_eq_none hge, List.getElem?_eq_none (h.1 ▸ hge)]

end SmsForwarder
