/-
**Maximal runs, and a substitution inside the runs of one length.**

A text is read as an alternation of maximal runs of the characters a predicate `p` selects and of
single characters outside `p`.  The substitution studied here overwrites the fourth to seventh
character of every maximal run of exactly eleven characters and copies everything else; it is what
the left-to-right, non-overlapping replacement of `(?<!\d)(\d{3})\d{4}(\d{4})(?!\d)` by
`\1****\2` computes when `p` is `\d`.

Main definitions:

* `DigitRuns.HasRun` — a maximal run of a given length occurs;
* `DigitRuns.matchesHere`, `DigitRuns.subGo`, `DigitRuns.sub` — the pattern at a position, and the
  scan that substitutes;
* `DigitRuns.Blocks` — the substitution described by maximal runs;
* `DigitRuns.RunAt`, `DigitRuns.InMiddle` — maximal runs by position.

Main results:

* `DigitRuns.blocks_sub` — **the scan computes the description by maximal runs**;
* `DigitRuns.length_sub` — the substitution keeps the length;
* `DigitRuns.sub_eq_self` — a text without a run of eleven is left alone;
* `DigitRuns.not_hasRun_sub` — no run of eleven is left;
* `DigitRuns.getElem?_sub` — **the substitution by position**.
-/

import Mathlib.Data.List.TakeWhile
import Mathlib.Tactic

set_option relaxedAutoImplicit false
set_option autoImplicit false

namespace DigitRuns

variable {α : Type*} (p : α → Bool)

/-! ### Maximal runs -/

/-- `s` does not start with a character of `p`. -/
def Fresh (s : List α) : Prop := ∀ c ∈ s.head?, p c = false

/-- A maximal run of exactly `n` characters of `p` occurs in `s`. -/
def HasRun (n : ℕ) (s : List α) : Prop :=
  ∃ pre run post, s = pre ++ run ++ post ∧ run.length = n ∧ (∀ c ∈ run, p c = true) ∧
    (∀ c ∈ pre.getLast?, p c = false) ∧ Fresh p post

/-- Right after some character outside `p` there are exactly `n` characters of `p`. -/
def LaterRun (n : ℕ) (s : List α) : Prop :=
  ∃ c rest, p c = false ∧ c :: rest <:+ s ∧ (rest.takeWhile p).length = n

theorem fresh_dropWhile (s : List α) : Fresh p (s.dropWhile p) := by
  intro c hc
  have := List.head?_dropWhile_not p s
  rw [Option.mem_def.1 hc] at this
  simpa using this

theorem takeWhile_append_fresh {run rest : List α} (hrun : ∀ c ∈ run, p c = true)
    (hrest : Fresh p rest) : (run ++ rest).takeWhile p = run := by
  rw [List.takeWhile_append_of_pos hrun]
  cases rest with
  | nil => simp
  | cons c rest =>
      have hc : p c = false := hrest c rfl
      simp [hc]

/-- A maximal run is at the start or right after a character outside `p`. -/
theorem hasRun_iff {n : ℕ} {s : List α} :
    HasRun p n s ↔ (s.takeWhile p).length = n ∨ LaterRun p n s := by
  constructor
  · intro h
    obtain ⟨pre, run, post, rfl, hlen, hrun, hpre, hpost⟩ := h
    have htake : (run ++ post).takeWhile p = run := takeWhile_append_fresh p hrun hpost
    rcases List.eq_nil_or_concat pre with rfl | ⟨pre, c, rfl⟩
    · left
      rw [List.nil_append, htake, hlen]
    · right
      refine ⟨c, run ++ post, hpre c (by simp), ⟨pre, by simp⟩, ?_⟩
      rw [htake, hlen]
  · have hall : ∀ t : List α, ∀ c ∈ t.takeWhile p, p c = true := fun t c hc =>
      List.mem_takeWhile_imp hc
    intro h
    rcases h with hlen | ⟨c, rest, hc, ⟨t, rfl⟩, hlen⟩
    · exact ⟨[], s.takeWhile p, s.dropWhile p, by simp, hlen, hall s, by simp,
        fresh_dropWhile p s⟩
    · refine ⟨t ++ [c], rest.takeWhile p, rest.dropWhile p, by simp, hlen, hall rest, ?_,
        fresh_dropWhile p rest⟩
      intro d hd
      obtain rfl : c = d := by simpa using hd
      exact hc

theorem laterRun_cons {n : ℕ} {d : α} {s : List α} :
    LaterRun p n (d :: s) ↔
      (p d = false ∧ (s.takeWhile p).length = n) ∨ LaterRun p n s := by
  unfold LaterRun
  constructor
  · intro h
    obtain ⟨c, rest, hc, hsuf, hlen⟩ := h
    rcases List.suffix_cons_iff.1 hsuf with heq | hsuf
    · obtain ⟨rfl, rfl⟩ := List.cons.inj heq
      exact Or.inl ⟨hc, hlen⟩
    · exact Or.inr ⟨c, rest, hc, hsuf, hlen⟩
  · intro h
    rcases h with ⟨hd, hlen⟩ | ⟨c, rest, hc, hsuf, hlen⟩
    · exact ⟨d, s, hd, List.suffix_rfl, hlen⟩
    · exact ⟨c, rest, hc, hsuf.trans (List.suffix_cons d s), hlen⟩

theorem laterRun_append_run {n : ℕ} {run rest : List α} (hrun : ∀ c ∈ run, p c = true) :
    LaterRun p n (run ++ rest) ↔ LaterRun p n rest := by
  induction run with
  | nil => simp
  | cons d run ih =>
      have hd : p d = true := hrun d (by simp)
      rw [List.cons_append, laterRun_cons, ih fun c hc => hrun c (by simp [hc])]
      simp [hd]

theorem not_hasRun_nil {n : ℕ} (hn : 0 < n) : ¬ HasRun p n [] := by
  rw [hasRun_iff]
  simp [LaterRun]
  omega

/-- A character outside `p` in front does not matter. -/
theorem hasRun_cons_other {n : ℕ} (hn : 0 < n) {c : α} (hc : p c = false) {s : List α} :
    HasRun p n (c :: s) ↔ HasRun p n s := by
  have hzero : ¬ (0 = n) := by omega
  rw [hasRun_iff, hasRun_iff, laterRun_cons]
  simp [hc, hzero]

/-- The runs of a text that starts with a maximal run are that run and those of the rest. -/
theorem hasRun_append_run {n : ℕ} (hn : 0 < n) {run rest : List α}
    (hrun : ∀ c ∈ run, p c = true) (hrest : Fresh p rest) :
    HasRun p n (run ++ rest) ↔ run.length = n ∨ HasRun p n rest := by
  have hzero : ¬ (0 = n) := by omega
  have hempty : rest.takeWhile p = [] := by
    have hnil : ([] ++ rest).takeWhile p = [] := takeWhile_append_fresh p (by simp) hrest
    simpa using hnil
  rw [hasRun_iff, hasRun_iff, takeWhile_append_fresh p hrun hrest, laterRun_append_run p hrun,
    hempty]
  simp [hzero]

/-! ### The substitution -/

/-- The pattern `\d{11}(?!\d)` matches at the start of `s`. -/
def matchesHere (s : List α) : Bool :=
  11 ≤ s.length && (s.take 11).all p && !(s.drop 11).head?.any p

/-- The scan.  `prev` says that the character before `s` is one of `p`, which the lookbehind
refuses; `left` counts the characters of the current match that are still to come, of which the
fourth to seventh of eleven are overwritten by `mark`. -/
def subGo (mark : α) : Bool → ℕ → List α → List α
  | _, _, [] => []
  | _, left + 1, c :: s =>
      (if 4 ≤ left ∧ left ≤ 7 then mark else c) :: subGo mark (p c) left s
  | prev, 0, c :: s =>
      if prev = false ∧ matchesHere p (c :: s) = true then c :: subGo mark (p c) 10 s
      else c :: subGo mark (p c) 0 s

/-- The text with the middle of every maximal run of eleven overwritten. -/
def sub (mark : α) (s : List α) : List α := subGo p mark false 0 s

variable {p} {mark : α}

/-- The scan keeps the length. -/
theorem length_subGo (prev : Bool) (left : ℕ) (s : List α) :
    (subGo p mark prev left s).length = s.length := by
  fun_induction subGo p mark prev left s with
  | case1 => rfl
  | case2 _ _ _ _ ih => simp [ih]
  | case3 _ _ _ _ ih => simp [ih]
  | case4 _ _ _ _ ih => simp [ih]

@[simp] theorem length_sub (s : List α) : (sub p mark s).length = s.length :=
  length_subGo false 0 s

/-! ### The scan inside and outside a run -/

/-- On a text that starts with a maximal run, the pattern matches exactly if that run has eleven
characters. -/
theorem matchesHere_append {run rest : List α} (hrun : ∀ c ∈ run, p c = true)
    (hrest : Fresh p rest) : matchesHere p (run ++ rest) = true ↔ run.length = 11 := by
  have htake : (run ++ rest).takeWhile p = run := takeWhile_append_fresh p hrun hrest
  constructor
  · intro h
    simp only [matchesHere, Bool.and_eq_true, decide_eq_true_eq, Bool.not_eq_true'] at h
    obtain ⟨⟨hlen, hall⟩, hnext⟩ := h
    have hfresh : Fresh p ((run ++ rest).drop 11) := by
      intro c hc
      rw [Option.mem_def.1 hc] at hnext
      simpa using hnext
    have heq := takeWhile_append_fresh p (List.all_eq_true.1 hall) hfresh
    rw [List.take_append_drop, htake] at heq
    rw [heq, List.length_take]
    omega
  · intro h
    have hhead : rest.head?.any p = false := by
      cases rest with
      | nil => rfl
      | cons c rest => simpa using hrest c rfl
    simp only [matchesHere, ← h, List.length_append, List.take_left, List.drop_left, hhead]
    simpa using hrun

/-- Inside a run that did not start here nothing matches, so the run is copied. -/
theorem subGo_copy_run {run rest : List α} (hrun : ∀ c ∈ run, p c = true) :
    subGo p mark true 0 (run ++ rest) = run ++ subGo p mark true 0 rest := by
  induction run with
  | nil => rfl
  | cons c run ih =>
      have hc : p c = true := hrun c (by simp)
      rw [List.cons_append, subGo, if_neg (by simp), hc, ih fun d hd => hrun d (by simp [hd])]
      rfl

/-- In front of a character outside `p` the lookbehind does not matter. -/
theorem subGo_fresh {s : List α} (hs : Fresh p s) :
    subGo p mark true 0 s = subGo p mark false 0 s := by
  cases s with
  | nil => rfl
  | cons c s =>
      have hc : p c = false := hs c rfl
      have hno : matchesHere p (c :: s) = false := by simp [matchesHere, hc]
      simp [subGo, hno]

/-- What becomes of a maximal run: eleven characters lose their middle, others are kept. -/
def maskBlock (mark : α) (run : List α) : List α :=
  if run.length = 11 then run.take 3 ++ List.replicate 4 mark ++ run.drop 7 else run

/-- The scan of a maximal run of eleven. -/
theorem subGo_match {run rest : List α} (hrun : ∀ c ∈ run, p c = true) (hrest : Fresh p rest)
    (hlen : run.length = 11) :
    subGo p mark false 0 (run ++ rest) = maskBlock mark run ++ subGo p mark true 0 rest := by
  have hmatch := (matchesHere_append hrun hrest).2 hlen
  match run, hlen with
  | [a, b, c, d, e, f, g, h, i, j, k], _ =>
    have hk : p k = true := hrun k (by simp)
    simp only [List.cons_append, List.nil_append] at hmatch ⊢
    simp [subGo, hmatch, maskBlock, hk]

/-- The scan of a maximal run of another length. -/
theorem subGo_no_match {run rest : List α} (hne : run ≠ []) (hrun : ∀ c ∈ run, p c = true)
    (hrest : Fresh p rest) (hlen : run.length ≠ 11) :
    subGo p mark false 0 (run ++ rest) = maskBlock mark run ++ subGo p mark true 0 rest := by
  have hno : ¬ matchesHere p (run ++ rest) = true := fun h =>
    hlen ((matchesHere_append hrun hrest).1 h)
  rw [maskBlock, if_neg hlen]
  cases run with
  | nil => exact absurd rfl hne
  | cons c run =>
      have hc : p c = true := hrun c (by simp)
      rw [List.cons_append, subGo, if_neg fun h => hno h.2, hc,
        subGo_copy_run fun d hd => hrun d (by simp [hd])]
      rfl

/-! ### The description by maximal runs -/

variable (p mark) in
/-- `Blocks s o`: cutting `s` into maximal runs and other characters, and rewriting each run by
`maskBlock`, gives `o`. -/
inductive Blocks : List α → List α → Prop
  | nil : Blocks [] []
  | other {c : α} {s o : List α} : p c = false → Blocks s o → Blocks (c :: s) (c :: o)
  | run {run rest o : List α} : run ≠ [] → (∀ c ∈ run, p c = true) → Fresh p rest →
      Blocks rest o → Blocks (run ++ rest) (maskBlock mark run ++ o)

/-- **The scan computes the description by maximal runs.** -/
theorem blocks_sub (s : List α) : Blocks p mark s (sub p mark s) := by
  -- induction on the length: a maximal run is consumed as a whole
  induction hn : s.length using Nat.strong_induction_on generalizing s with
  | _ n ih =>
      cases s with
      | nil => exact Blocks.nil
      | cons c s =>
          cases hc : p c with
          | false =>
              have hscan : sub p mark (c :: s) = c :: sub p mark s := by
                have hno : matchesHere p (c :: s) = false := by simp [matchesHere, hc]
                simp [sub, subGo, hno, hc]
              rw [hscan]
              exact Blocks.other hc (ih s.length (by simp [← hn]) s rfl)
          | true =>
              have hsplit := List.takeWhile_append_dropWhile (p := p) (l := c :: s)
              have hne : (c :: s).takeWhile p ≠ [] := by simp [hc]
              have hrun : ∀ d ∈ (c :: s).takeWhile p, p d = true := fun d hd =>
                List.mem_takeWhile_imp hd
              have hfresh := fresh_dropWhile p (c :: s)
              generalize (c :: s).takeWhile p = run at *
              generalize (c :: s).dropWhile p = rest at *
              have hrestlen : rest.length < n := by
                have hpos := List.length_pos_iff.2 hne
                have := congrArg List.length hsplit
                rw [List.length_append] at this
                omega
              have hscan : sub p mark (run ++ rest) = maskBlock mark run ++ sub p mark rest := by
                by_cases hlen : run.length = 11
                · rw [sub, subGo_match hrun hfresh hlen, subGo_fresh hfresh, sub]
                · rw [sub, subGo_no_match hne hrun hfresh hlen, subGo_fresh hfresh, sub]
              rw [← hsplit, hscan]
              exact Blocks.run hne hrun hfresh (ih rest.length hrestlen rest rfl)

theorem Blocks.fresh {s o : List α} (h : Blocks p mark s o) (hs : Fresh p s) : Fresh p o := by
  cases h with
  | nil => exact hs
  | @other c s o hc _ =>
      intro d hd
      obtain rfl : c = d := Option.some_inj.1 hd
      exact hc
  | @run run rest o hne hrun _ _ =>
      cases run with
      | nil => exact absurd rfl hne
      | cons c run =>
          have hc : p c = false := hs c rfl
          rw [hrun c (by simp)] at hc
          exact absurd hc (by simp)

/-- A text without a run of eleven is left alone. -/
theorem sub_eq_self {s : List α} (h : ¬ HasRun p 11 s) : sub p mark s = s := by
  have hb : Blocks p mark s (sub p mark s) := blocks_sub s
  generalize sub p mark s = o at hb
  induction hb with
  | nil => rfl
  | other hc _ ih =>
      rw [hasRun_cons_other p (by decide) hc] at h
      rw [ih h]
  | run _ hrun hfresh _ ih =>
      rw [hasRun_append_run p (by decide) hrun hfresh] at h
      have hlen : ¬ _ = 11 := fun hlen => h (Or.inl hlen)
      rw [ih fun hrest => h (Or.inr hrest), maskBlock, if_neg hlen]

/-- **No run of eleven is left.** -/
theorem not_hasRun_sub (hmark : p mark = false) (s : List α) : ¬ HasRun p 11 (sub p mark s) := by
  have hb : Blocks p mark s (sub p mark s) := blocks_sub s
  generalize sub p mark s = o at hb
  induction hb with
  | nil => exact not_hasRun_nil p (by decide)
  | other hc _ ih => rwa [hasRun_cons_other p (by decide) hc]
  | @run run rest o hne hrun hfresh hb ih =>
      have ho : Fresh p o := hb.fresh hfresh
      by_cases hlen : run.length = 11
      · have hhead : Fresh p (List.replicate 4 mark ++ (run.drop 7 ++ o)) := by
          intro c hc
          obtain rfl : mark = c := Option.some_inj.1 hc
          exact hmark
        have htail : ∀ c ∈ run.drop 7, p c = true := fun c hc => hrun c (List.mem_of_mem_drop hc)
        have hfront : ∀ c ∈ run.take 3, p c = true := fun c hc => hrun c (List.mem_of_mem_take hc)
        rw [maskBlock, if_pos hlen, List.append_assoc, List.append_assoc,
          hasRun_append_run p (by decide) hfront hhead]
        simp only [List.replicate, List.cons_append, List.nil_append,
          hasRun_cons_other p (n := 11) (by decide) hmark,
          hasRun_append_run p (n := 11) (by decide) htail ho, List.length_take, List.length_drop,
          hlen]
        intro h
        rcases h with h | h | h
        · omega
        · omega
        · exact ih h
      · rw [maskBlock, if_neg hlen, hasRun_append_run p (by decide) hrun ho]
        intro h
        rcases h with h | h
        · exact hlen h
        · exact ih h

/-! ### Runs by position -/

variable (p) in
/-- A maximal run of exactly `n` characters of `p` starts at position `k`. -/
structure RunAt (s : List α) (k n : ℕ) : Prop where
  inside : ∀ i, k ≤ i → i < k + n → s[i]?.any p = true
  before : ∀ i, i + 1 = k → s[i]?.any p = false
  after : s[k + n]?.any p = false

variable (p) in
/-- The position is the fourth to seventh of a maximal run of exactly eleven. -/
def InMiddle (s : List α) (i : ℕ) : Prop := ∃ k, RunAt p s k 11 ∧ k + 3 ≤ i ∧ i < k + 7

theorem any_getElem?_of_mem {run : List α} (hrun : ∀ c ∈ run, p c = true) {i : ℕ}
    (hi : i < run.length) : run[i]?.any p = true := by
  rw [List.getElem?_eq_getElem hi, Option.any_some]
  exact hrun _ (List.getElem_mem hi)

theorem Fresh.any_getElem?_zero {s : List α} (h : Fresh p s) : s[0]?.any p = false := by
  cases s with
  | nil => rfl
  | cons c s => simpa using h c rfl

/-- A maximal run occurs exactly if it starts somewhere. -/
theorem hasRun_iff_runAt {n : ℕ} (hn : 0 < n) {s : List α} :
    HasRun p n s ↔ ∃ k, RunAt p s k n := by
  constructor
  · rintro ⟨pre, run, post, rfl, rfl, hrun, hpre, hpost⟩
    refine ⟨pre.length, ⟨fun i hk hi => ?_, fun i hi => ?_, ?_⟩⟩
    · rw [List.append_assoc, List.getElem?_append_right hk,
        List.getElem?_append_left (by omega)]
      exact any_getElem?_of_mem hrun (by omega)
    · rw [List.append_assoc, List.getElem?_append_left (by omega)]
      have hlast : pre[i]? = pre.getLast? := by
        rw [List.getLast?_eq_getElem?]
        congr 1
        omega
      rw [hlast]
      cases hc : pre.getLast? with
      | none => rfl
      | some c => simpa using hpre c hc
    · rw [← List.length_append, List.getElem?_append_right le_rfl, Nat.sub_self]
      exact Fresh.any_getElem?_zero hpost
  · rintro ⟨k, hinside, hbefore, hafter⟩
    have hlast : s[k + n - 1]?.any p = true := hinside _ (by omega) (by omega)
    have hlen : k + n ≤ s.length := by
      by_contra hlt
      rw [List.getElem?_eq_none (by omega)] at hlast
      exact absurd hlast (by simp)
    refine ⟨s.take k, (s.drop k).take n, s.drop (k + n), ?_, ?_, fun c hc => ?_, fun c hc => ?_,
      fun c hc => ?_⟩
    · rw [List.append_assoc, ← List.drop_drop, List.take_append_drop, List.take_append_drop]
    · rw [List.length_take, List.length_drop]
      omega
    · obtain ⟨i, hi, rfl⟩ := List.mem_iff_getElem.1 hc
      rw [List.length_take, List.length_drop] at hi
      have hp := hinside (k + i) (by omega) (by omega)
      rw [List.getElem?_eq_getElem (by omega), Option.any_some] at hp
      simpa using hp
    · have hk : 0 < k := by
        by_contra hzero
        obtain rfl : k = 0 := by omega
        simp at hc
      have hp := hbefore (k - 1) (by omega)
      rw [List.getLast?_eq_getElem?, List.length_take, Nat.min_eq_left (by omega),
        List.getElem?_take_of_lt (by omega)] at hc
      rw [Option.mem_def.1 hc] at hp
      simpa using hp
    · rw [List.head?_drop, Option.mem_def] at hc
      rw [hc] at hafter
      simpa using hafter

/-- The runs behind a character outside `p`. -/
theorem runAt_cons_other {n : ℕ} (hn : 0 < n) {c : α} (hc : p c = false) {s : List α} {k : ℕ} :
    RunAt p (c :: s) k n ↔ ∃ k', k = k' + 1 ∧ RunAt p s k' n := by
  constructor
  · rintro ⟨hinside, hbefore, hafter⟩
    cases k with
    | zero =>
        have hp : (c :: s)[0]?.any p = true := hinside 0 le_rfl (by omega)
        rw [List.getElem?_cons_zero, Option.any_some, hc] at hp
        exact absurd hp (by simp)
    | succ k =>
        refine ⟨k, rfl, fun i hk hi => hinside (i + 1) (by omega) (by omega),
          fun i hi => hbefore (i + 1) (by omega), ?_⟩
        rwa [Nat.add_right_comm, List.getElem?_cons_succ] at hafter
  · rintro ⟨k, rfl, hinside, hbefore, hafter⟩
    refine ⟨fun i hk hi => ?_, fun i hi => ?_, ?_⟩
    · obtain ⟨i, rfl⟩ := Nat.exists_eq_succ_of_ne_zero (show i ≠ 0 by omega)
      exact hinside i (by omega) (by omega)
    · cases i with
      | zero => simpa using hc
      | succ i => exact hbefore i (by omega)
    · rwa [Nat.add_right_comm, List.getElem?_cons_succ]

/-- A run that starts inside a maximal run at the start of the text is that run. -/
theorem runAt_append_of_lt {n : ℕ} {run rest : List α} (hrun : ∀ c ∈ run, p c = true)
    (hrest : Fresh p rest) {k : ℕ} (hk : k < run.length) :
    RunAt p (run ++ rest) k n ↔ k = 0 ∧ run.length = n := by
  have hin : ∀ {i}, i < run.length → (run ++ rest)[i]?.any p = true := fun hi => by
    rw [List.getElem?_append_left hi]
    exact any_getElem?_of_mem hrun hi
  have hend : (run ++ rest)[run.length]?.any p = false := by
    rw [List.getElem?_append_right le_rfl, Nat.sub_self]
    exact hrest.any_getElem?_zero
  constructor
  · rintro ⟨hinside, hbefore, hafter⟩
    have hzero : k = 0 := by
      by_contra hne
      have hp := hbefore (k - 1) (by omega)
      rw [hin (by omega)] at hp
      exact absurd hp (by simp)
    subst hzero
    refine ⟨rfl, ?_⟩
    rcases Nat.lt_trichotomy run.length n with hlt | heq | hgt
    · have hp := hinside run.length (by omega) (by omega)
      rw [hend] at hp
      exact absurd hp (by simp)
    · exact heq
    · rw [hin (by omega)] at hafter
      exact absurd hafter (by simp)
  · rintro ⟨rfl, rfl⟩
    refine ⟨fun i _ hi => hin (by omega), fun i hi => absurd hi (by omega), ?_⟩
    rw [Nat.zero_add]
    exact hend

/-- A run behind it is a run of the rest. -/
theorem runAt_append_add {n : ℕ} (hn : 0 < n) (run : List α) {rest : List α}
    (hrest : Fresh p rest) {k : ℕ} :
    RunAt p (run ++ rest) (run.length + k) n ↔ RunAt p rest k n := by
  have hshift : ∀ i, (run ++ rest)[run.length + i]? = rest[i]? := fun i => by
    rw [List.getElem?_append_right (by omega), Nat.add_sub_cancel_left]
  constructor
  · rintro ⟨hinside, hbefore, hafter⟩
    refine ⟨fun i hk hi => ?_, fun i hi => ?_, ?_⟩
    · rw [← hshift]
      exact hinside _ (by omega) (by omega)
    · rw [← hshift]
      exact hbefore _ (by omega)
    · rw [← hshift, ← Nat.add_assoc]
      exact hafter
  · rintro ⟨hinside, hbefore, hafter⟩
    refine ⟨fun i hk hi => ?_, fun i hi => ?_, ?_⟩
    · obtain ⟨i, rfl⟩ := Nat.exists_eq_add_of_le (show run.length ≤ i by omega)
      rw [hshift]
      exact hinside i (by omega) (by omega)
    · cases k with
      | zero =>
          -- the rest starts outside `p`
          have hp := hinside 0 le_rfl (by omega)
          rw [hrest.any_getElem?_zero] at hp
          exact absurd hp (by simp)
      | succ k =>
          obtain rfl : i = run.length + k := by omega
          rw [hshift]
          exact hbefore k rfl
    · rw [Nat.add_assoc, hshift]
      exact hafter

/-- The runs of a text that starts with a maximal run. -/
theorem runAt_append_run {n : ℕ} (hn : 0 < n) {run rest : List α} (hne : run ≠ [])
    (hrun : ∀ c ∈ run, p c = true) (hrest : Fresh p rest) {k : ℕ} :
    RunAt p (run ++ rest) k n ↔
      (k = 0 ∧ run.length = n) ∨ ∃ k', k = run.length + k' ∧ RunAt p rest k' n := by
  have hpos := List.length_pos_iff.2 hne
  rcases Nat.lt_or_ge k run.length with hk | hk
  · rw [runAt_append_of_lt hrun hrest hk]
    refine ⟨Or.inl, fun h => h.resolve_right ?_⟩
    rintro ⟨k', rfl, -⟩
    omega
  · obtain ⟨k, rfl⟩ := Nat.exists_eq_add_of_le hk
    rw [runAt_append_add hn run hrest]
    constructor
    · exact fun h => Or.inr ⟨k, rfl, h⟩
    · rintro (⟨hzero, -⟩ | ⟨k', hk', h⟩)
      · omega
      · obtain rfl : k = k' := by omega
        exact h

theorem inMiddle_cons_other {c : α} (hc : p c = false) {s : List α} {i : ℕ} :
    InMiddle p (c :: s) i ↔ ∃ j, i = j + 1 ∧ InMiddle p s j := by
  unfold InMiddle
  simp only [runAt_cons_other (n := 11) (by decide) hc]
  constructor
  · rintro ⟨_, ⟨k, rfl, hk⟩, hlo, hhi⟩
    exact ⟨i - 1, by omega, k, hk, by omega, by omega⟩
  · rintro ⟨j, rfl, k, hk, hlo, hhi⟩
    exact ⟨k + 1, ⟨k, rfl, hk⟩, by omega, by omega⟩

theorem inMiddle_append_run {run rest : List α} (hne : run ≠ []) (hrun : ∀ c ∈ run, p c = true)
    (hrest : Fresh p rest) {i : ℕ} :
    InMiddle p (run ++ rest) i ↔
      (run.length = 11 ∧ 3 ≤ i ∧ i < 7) ∨ ∃ j, i = run.length + j ∧ InMiddle p rest j := by
  unfold InMiddle
  simp only [runAt_append_run (n := 11) (by decide) hne hrun hrest]
  constructor
  · rintro ⟨_, ⟨rfl, hlen⟩ | ⟨k, rfl, hk⟩, hlo, hhi⟩
    · exact Or.inl ⟨hlen, by omega, by omega⟩
    · exact Or.inr ⟨i - run.length, by omega, k, hk, by omega, by omega⟩
  · rintro (⟨hlen, hlo, hhi⟩ | ⟨j, rfl, k, hk, hlo, hhi⟩)
    · exact ⟨0, Or.inl ⟨rfl, hlen⟩, by omega, by omega⟩
    · exact ⟨run.length + k, Or.inr ⟨k, rfl, hk⟩, by omega, by omega⟩

@[simp] theorem length_maskBlock (run : List α) : (maskBlock mark run).length = run.length := by
  unfold maskBlock
  split
  · simp only [List.length_append, List.length_take, List.length_replicate, List.length_drop]
    omega
  · rfl

/-- A run of eleven by position. -/
theorem getElem?_maskBlock {run : List α} (hlen : run.length = 11) (i : ℕ) :
    (maskBlock mark run)[i]? = if 3 ≤ i ∧ i < 7 then some mark else run[i]? := by
  match run, hlen with
  | [a, b, c, d, e, f, g, h, j, k, l], _ =>
    rcases Nat.lt_or_ge i 11 with hi | hi
    · interval_cases i <;> rfl
    · rw [if_neg (by omega), List.getElem?_eq_none (by simp [hi]),
        List.getElem?_eq_none (by simp [hi])]

/-- **The substitution by position**: the fourth to seventh character of a maximal run of eleven
becomes the mark, every other character is kept. -/
theorem getElem?_sub (s : List α) (i : ℕ) :
    (InMiddle p s i → (sub p mark s)[i]? = some mark) ∧
      (¬ InMiddle p s i → (sub p mark s)[i]? = s[i]?) := by
  have hb : Blocks p mark s (sub p mark s) := blocks_sub s
  generalize sub p mark s = o at hb
  induction hb generalizing i with
  | nil =>
      refine ⟨fun hmid => ?_, fun _ => rfl⟩
      obtain ⟨k, ⟨hinside, -, -⟩, -, -⟩ := hmid
      exact absurd (hinside k le_rfl (by omega)) (by simp)
  | @other c s o hc _ ih =>
      rw [inMiddle_cons_other hc]
      cases i with
      | zero => exact ⟨fun ⟨j, hj, _⟩ => absurd hj (by omega), fun _ => rfl⟩
      | succ i =>
          have hi : (∃ j, i + 1 = j + 1 ∧ InMiddle p s j) ↔ InMiddle p s i :=
            ⟨fun ⟨j, hj, hmid⟩ => (Nat.succ.inj hj) ▸ hmid, fun hmid => ⟨i, rfl, hmid⟩⟩
          rw [hi]
          exact ih i
  | @run run rest o hne hrun hfresh _ ih =>
      rw [inMiddle_append_run hne hrun hfresh]
      rcases Nat.lt_or_ge i run.length with hi | hi
      · have hrest : ¬ ∃ j, i = run.length + j ∧ InMiddle p rest j := fun ⟨j, hj, _⟩ => by omega
        rw [List.getElem?_append_left (by simpa using hi), List.getElem?_append_left hi,
          or_iff_left hrest]
        by_cases hlen : run.length = 11
        · rw [getElem?_maskBlock hlen]
          exact ⟨fun hmid => if_pos hmid.2, fun hmid => if_neg fun h => hmid ⟨hlen, h⟩⟩
        · rw [maskBlock, if_neg hlen]
          exact ⟨fun hmid => absurd hmid.1 hlen, fun _ => rfl⟩
      · obtain ⟨j, rfl⟩ := Nat.exists_eq_add_of_le hi
        have hiff : ((run.length = 11 ∧ 3 ≤ run.length + j ∧ run.length + j < 7) ∨
            ∃ j', run.length + j = run.length + j' ∧ InMiddle p rest j') ↔ InMiddle p rest j := by
          constructor
          · rintro (⟨hlen, -, hhi⟩ | ⟨j', hj, hmid⟩)
            · omega
            · exact (Nat.add_left_cancel hj) ▸ hmid
          · exact fun hmid => Or.inr ⟨j, rfl, hmid⟩
        rw [hiff, List.getElem?_append_right (by simp), List.getElem?_append_right (by omega),
          length_maskBlock, Nat.add_sub_cancel_left]
        exact ih j

/-- Whether a position is in the middle of a run depends only on which characters are in `p`. -/
theorem inMiddle_congr {s s' : List α} (h : ∀ i : ℕ, s[i]?.any p = s'[i]?.any p) {i : ℕ} :
    InMiddle p s i ↔ InMiddle p s' i := by
  have hrun : ∀ {t t' : List α}, (∀ i : ℕ, t[i]?.any p = t'[i]?.any p) → ∀ {k n : ℕ},
      RunAt p t k n → RunAt p t' k n := by
    intro t t' ht k n hk
    refine ⟨fun i hlo hhi => ?_, fun i hi => ?_, ?_⟩
    · rw [← ht]
      exact hk.inside i hlo hhi
    · rw [← ht]
      exact hk.before i hi
    · rw [← ht]
      exact hk.after
  have h' : ∀ i : ℕ, s'[i]?.any p = s[i]?.any p := fun i => (h i).symm
  exact exists_congr fun k => and_congr_left fun _ => ⟨hrun h, hrun h'⟩

end DigitRuns
