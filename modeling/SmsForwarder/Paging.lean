/-
**Pages of a list that is sorted anew for every page.**

The rows of a table are listed page by page, sorted by a column, the greatest value first.  Each
page comes from a query of its own, and rows with equal values may come in another order every time.
The pages then make up the table if and only if no group of rows with one value lies on both sides
of a page boundary.

Main definitions:

* `Paging.Descending` — a list that is sorted by a column;
* `Paging.Straddles` — a group of rows with one value lies on both sides of a position;
* `Paging.pages`, `Paging.pageCount` — the pages, each from a list of its own, and their number.

Main results:

* `Paging.filter_eq_take` — in a sorted list the rows above a value are a prefix;
* `Paging.pages_perm_and_descending` — **if no group straddles a boundary, the pages make up the
  table, in order**;
* `Paging.exists_repeated` — if one does, a row can be on two pages.
-/

import Mathlib.Data.List.Flatten
import Mathlib.Data.List.Nodup
import Mathlib.Data.List.Sort
import SmsForwarder.Tables

set_option relaxedAutoImplicit false
set_option autoImplicit false

namespace Paging

open Tables

variable {ρ κ : Type*} [LinearOrder κ] {f : ρ → κ}

/-! ### Sorted lists -/

/-- The list is sorted by the column `f`, the greatest value first. -/
def Descending (f : ρ → κ) (l : List ρ) : Prop := l.Pairwise fun a b => f b ≤ f a

/-- In a sorted list the rows that satisfy an upward closed condition are a prefix. -/
theorem filter_eq_take {l : List ρ} (h : Descending f l) {p : ρ → Bool}
    (hp : ∀ a b, f b ≤ f a → p b = true → p a = true) : l.filter p = l.take (l.countP p) := by
  induction l with
  | nil => rfl
  | cons a l ih =>
      obtain ⟨ha, hl⟩ := List.pairwise_cons.1 h
      cases hpa : p a with
      | true =>
          rw [List.filter_cons_of_pos hpa, List.countP_cons_of_pos hpa, List.take_succ_cons, ih hl]
      | false =>
          -- what comes after a row that is not in the prefix is not in it either
          have hnone : ∀ b ∈ l, ¬ p b = true := by
            intro b hb hpb
            rw [hp a b (ha b hb) hpb] at hpa
            simp at hpa
          rw [List.filter_cons_of_neg (by simp [hpa]), List.countP_cons_of_neg (by simp [hpa]),
            List.countP_eq_zero.2 hnone, List.take_zero, List.filter_eq_nil_iff]
          exact hnone

/-- The position of a row in a sorted list, against the number of rows that satisfy an upward closed
condition. -/
theorem getElem_iff {l : List ρ} (h : Descending f l) {p : ρ → Bool}
    (hp : ∀ a b, f b ≤ f a → p b = true → p a = true) {i : ℕ} (hi : i < l.length) :
    p l[i] = true ↔ i < l.countP p := by
  have hprefix := filter_eq_take h hp
  constructor
  · intro hpi
    by_contra hle
    have hdrop : l[i] ∈ l.drop (l.countP p) := by
      rw [List.mem_drop_iff_getElem]
      exact ⟨i - l.countP p, by omega, by congr 1; omega⟩
    have hcount : (l.take (l.countP p)).countP p + (l.drop (l.countP p)).countP p =
        l.countP p := by
      rw [← List.countP_append, List.take_append_drop]
    have hall : (l.take (l.countP p)).countP p = l.countP p := by
      rw [← hprefix, List.countP_filter]
      exact List.countP_congr fun a _ => by simp
    have hpos : 0 < (l.drop (l.countP p)).countP p := List.countP_pos_iff.2 ⟨_, hdrop, hpi⟩
    omega
  · intro hlt
    have htake : l[i] ∈ l.take (l.countP p) :=
      List.mem_take_iff_getElem.2 ⟨i, by omega, rfl⟩
    rw [← hprefix] at htake
    exact (List.mem_filter.1 htake).2

/-! ### Groups and boundaries -/

/-- The number of rows with a greater value. -/
def above (f : ρ → κ) (rows : List ρ) (value : κ) : ℕ := rows.countP fun a => value < f a

/-- The number of rows with a value at least as great. -/
def notBelow (f : ρ → κ) (rows : List ρ) (value : κ) : ℕ := rows.countP fun a => value ≤ f a

/-- The rows with some value lie on both sides of the position `b`, however the rows are sorted. -/
def Straddles (f : ρ → κ) (rows : List ρ) (b : ℕ) : Prop :=
  ∃ value, above f rows value < b ∧ b < notBelow f rows value

/-- Rows with different values lie on one side of every position. -/
theorem not_straddles_of_nodup {f : ρ → κ} {rows : List ρ} (h : (rows.map f).Nodup) (b : ℕ) :
    ¬ Straddles f rows b := by
  rintro ⟨value, habove, hbelow⟩
  have hcount : ∀ rows : List ρ,
      notBelow f rows value ≤ above f rows value + (rows.map f).count value := by
    intro rows
    induction rows with
    | nil => exact Nat.zero_le _
    | cons a rows ih =>
        unfold notBelow above at ih ⊢
        rw [List.countP_cons, List.countP_cons, List.map_cons, List.count_cons]
        rcases lt_trichotomy value (f a) with hlt | heq | hgt
        · simp only [hlt.le, hlt, decide_true, if_true]
          omega
        · simp [heq] at ih ⊢
          omega
        · simp only [hgt.not_ge, not_lt_of_gt hgt, decide_false]
          omega
  have hone := List.nodup_iff_count_le_one.1 h value
  have hle := hcount rows
  omega

section

variable {rows l l' : List ρ} {b : ℕ}

theorem getElem_notBelow (h : Descending f l) (hperm : l.Perm rows) {value : κ} {i : ℕ}
    (hi : i < l.length) : value ≤ f l[i] ↔ i < notBelow f rows value := by
  have hcount : l.countP (fun a => value ≤ f a) = notBelow f rows value := hperm.countP_eq _
  rw [← hcount, ← getElem_iff h _ hi]
  · simp
  · intro a c hle hc
    rw [decide_eq_true_eq] at hc ⊢
    exact hc.trans hle

theorem getElem_above (h : Descending f l) (hperm : l.Perm rows) {value : κ} {i : ℕ}
    (hi : i < l.length) : value < f l[i] ↔ i < above f rows value := by
  have hcount : l.countP (fun a => value < f a) = above f rows value := hperm.countP_eq _
  rw [← hcount, ← getElem_iff h _ hi]
  · simp
  · intro a c hle hc
    rw [decide_eq_true_eq] at hc ⊢
    exact lt_of_lt_of_le hc hle

/-- Where no group straddles a position, the rows before it are the same in every sorted list. -/
theorem take_perm_take (h : Descending f l) (h' : Descending f l') (hperm : l.Perm rows)
    (hperm' : l'.Perm rows) (hb : ¬ Straddles f rows b) : (l.take b).Perm (l'.take b) := by
  by_cases hzero : b = 0
  · rw [hzero, List.take_zero, List.take_zero]
  by_cases hlen : rows.length ≤ b
  · rw [List.take_of_length_le (hperm.length_eq.le.trans hlen),
      List.take_of_length_le (hperm'.length_eq.le.trans hlen)]
    exact hperm.trans hperm'.symm
  -- the position is that of the first row below the value of the row before it
  have hlast : b - 1 < l.length := by
    rw [hperm.length_eq]
    omega
  have hin := (getElem_notBelow h hperm hlast).1 le_rfl
  have hout : ¬ b - 1 < above f rows (f l[b - 1]) := by
    rw [← getElem_above h hperm hlast]
    exact lt_irrefl _
  have hcut : notBelow f rows (f l[b - 1]) = b := by
    by_contra hne
    exact hb ⟨f l[b - 1], by omega, by omega⟩
  have htake : ∀ m : List ρ, Descending f m → m.Perm rows →
      m.take b = m.filter fun a => f l[b - 1] ≤ f a := by
    intro m hm hmperm
    have hcount : m.countP (fun a => f l[b - 1] ≤ f a) = notBelow f rows (f l[b - 1]) :=
      hmperm.countP_eq _
    rw [filter_eq_take hm, hcount, hcut]
    intro a c hle hc
    rw [decide_eq_true_eq] at hc ⊢
    exact hc.trans hle
  rw [htake l h hperm, htake l' h' hperm']
  exact (hperm.trans hperm'.symm).filter _

end

/-! ### Pages -/

/-- The first `m` pages of `n` rows, each from a list of its own. -/
def pages (n m : ℕ) (orders : ℕ → List ρ) : List ρ :=
  (List.range m).flatMap fun k => page n k (orders k)

/-- How many pages there are. -/
def pageCount (n total : ℕ) : ℕ := (total + n - 1) / n

theorem length_le_pageCount {n : ℕ} (hn : 0 < n) (total : ℕ) : total ≤ pageCount n total * n := by
  have hdiv := Nat.div_add_mod (total + n - 1) n
  have hmod := Nat.mod_lt (total + n - 1) hn
  unfold pageCount
  rw [Nat.mul_comm] at hdiv
  omega

theorem lt_pageCount_iff {n k total : ℕ} (hn : 0 < n) : k < pageCount n total ↔ k * n < total := by
  unfold pageCount
  rw [Nat.lt_iff_add_one_le, Nat.le_div_iff_mul_le hn, Nat.succ_mul]
  omega

theorem page_eq (n k : ℕ) (l : List ρ) : l.take (k * n) ++ page n k l = l.take ((k + 1) * n) := by
  unfold page
  rw [Nat.succ_mul, List.take_add]

section

variable {rows : List ρ} {n : ℕ} {orders : ℕ → List ρ}

/-- The first pages have the rows of a sorted list up to their last boundary, in order. -/
theorem pages_induction (horders : ∀ k, (orders k).Perm rows ∧ Descending f (orders k))
    (hstraddle : ∀ k, ¬ Straddles f rows (k * n)) (m : ℕ) :
    Descending f (pages n m orders) ∧
      ∀ l : List ρ, l.Perm rows → Descending f l → (pages n m orders).Perm (l.take (m * n)) := by
  induction m with
  | zero =>
      refine ⟨List.Pairwise.nil, fun l _ _ => ?_⟩
      rw [Nat.zero_mul, List.take_zero]
      rfl
  | succ m ih =>
      obtain ⟨hsorted, hperm⟩ := ih
      obtain ⟨hm, hdesc⟩ := horders m
      have hsucc : pages n (m + 1) orders = pages n m orders ++ page n m (orders m) := by
        unfold pages
        rw [List.range_succ, List.flatMap_append, List.flatMap_singleton]
      have hsplit := page_eq n m (orders m)
      have hbefore := hperm (orders m) hm hdesc
      rw [hsucc]
      constructor
      · have hprefix : Descending f ((orders m).take (m * n) ++ page n m (orders m)) := by
          rw [hsplit]
          exact hdesc.sublist (List.take_sublist _ _)
        obtain ⟨-, hpage, hcross⟩ := List.pairwise_append.1 hprefix
        exact List.pairwise_append.2
          ⟨hsorted, hpage, fun a ha b hb => hcross a (hbefore.mem_iff.1 ha) b hb⟩
      · intro l hl hldesc
        have hall := hbefore.append_right (page n m (orders m))
        rw [hsplit] at hall
        exact hall.trans (take_perm_take hdesc hldesc hm hl (hstraddle (m + 1)))

/-- **If no group straddles a boundary**, the pages make up the table, in order. -/
theorem pages_perm_and_descending (hn : 0 < n)
    (horders : ∀ k, (orders k).Perm rows ∧ Descending f (orders k))
    (hstraddle : ∀ k, ¬ Straddles f rows (k * n)) :
    (pages n (pageCount n rows.length) orders).Perm rows ∧
      Descending f (pages n (pageCount n rows.length) orders) := by
  obtain ⟨hdesc, hperm⟩ := pages_induction horders hstraddle (pageCount n rows.length)
  obtain ⟨hfirst, hfirstDesc⟩ := horders 0
  have htake := hperm (orders 0) hfirst hfirstDesc
  rw [List.take_of_length_le
    (hfirst.length_eq.le.trans (length_le_pageCount hn rows.length))] at htake
  exact ⟨htake.trans hfirst, hdesc⟩

theorem getElem_mem_page {l : List ρ} {k i : ℕ} (hi : i < l.length) (hfirst : k * n ≤ i)
    (hlast : i < (k + 1) * n) : l[i] ∈ page n k l := by
  rw [Nat.succ_mul] at hlast
  unfold page
  rw [List.mem_take_iff_getElem]
  refine ⟨i - k * n, by rw [List.length_drop]; omega, ?_⟩
  rw [List.getElem_drop]
  congr 1
  omega

/-- A row that is on two pages is repeated. -/
theorem not_perm_of_mem_mem (hnodup : rows.Nodup) {m k k' : ℕ} (hlt : k < k') (hk' : k' < m)
    {a : ρ} (ha : a ∈ page n k (orders k)) (ha' : a ∈ page n k' (orders k')) :
    ¬ (pages n m orders).Perm rows := by
  intro hperm
  have hpages : (pages n m orders).Nodup := hperm.nodup_iff.2 hnodup
  obtain ⟨-, hdisjoint⟩ := List.nodup_flatMap.1 hpages
  rw [List.pairwise_iff_getElem] at hdisjoint
  have hk := hdisjoint k k' (by simp; omega) (by simpa using hk') hlt
  simp only [List.getElem_range] at hk
  exact hk ha ha'

/-- A sorted list of the rows. -/
theorem exists_descending (f : ρ → κ) (rows : List ρ) :
    ∃ l : List ρ, l.Perm rows ∧ Descending f l := by
  have htotal : Std.Total fun a b : ρ => f b ≤ f a := ⟨fun a b => le_total (f b) (f a)⟩
  have htrans : IsTrans ρ fun a b => f b ≤ f a := ⟨fun a b c hab hbc => hbc.trans hab⟩
  exact ⟨_, List.perm_insertionSort (fun a b => f b ≤ f a) rows,
    List.pairwise_insertionSort (fun a b => f b ≤ f a) rows⟩

/-- Two neighbours with the same value may be exchanged. -/
theorem descending_swap {l l' : List ρ} {a b : ρ} (h : f a = f b)
    (hdesc : Descending f (l ++ a :: b :: l')) : Descending f (l ++ b :: a :: l') := by
  have hmap : (l ++ b :: a :: l').map f = (l ++ a :: b :: l').map f := by simp [h]
  have hvalues : ∀ m : List ρ, Descending f m ↔ (m.map f).Pairwise fun v w => w ≤ v :=
    fun m => by rw [List.pairwise_map]; rfl
  rw [hvalues] at hdesc ⊢
  rwa [hmap]

/-- The two rows around a boundary that a group straddles have the same value. -/
theorem same_of_straddles {l : List ρ} {i : ℕ} (hstraddle : Straddles f rows (i + 1))
    (hperm : l.Perm rows) (hdesc : Descending f l) :
    ∃ (_ : i < l.length) (_ : i + 1 < l.length), f l[i] = f l[i + 1] := by
  obtain ⟨value, habove, hbelow⟩ := hstraddle
  have hlen : notBelow f rows value ≤ rows.length := List.countP_le_length
  have hi : i + 1 < l.length := by
    rw [hperm.length_eq]
    omega
  have hx : i < l.length := by omega
  refine ⟨hx, hi, ?_⟩
  have hle : f l[i] ≤ value := by
    rw [← not_lt, getElem_above hdesc hperm hx]
    omega
  have hge : value ≤ f l[i + 1] := by
    rw [getElem_notBelow hdesc hperm hi]
    omega
  exact le_antisymm (hle.trans hge)
    (List.pairwise_iff_getElem.1 hdesc i (i + 1) hx hi (Nat.lt_succ_self i))

/-- **If a group straddles a boundary**, there are two sorted lists of which the second repeats on
the page after the boundary the row that the first has before it. -/
theorem exists_repeated {k : ℕ} (hn : 0 < n) (hnodup : rows.Nodup)
    (hstraddle : Straddles f rows (k * n)) :
    ∃ l l' : List ρ, (l.Perm rows ∧ Descending f l) ∧ (l'.Perm rows ∧ Descending f l') ∧
      ¬ (pages n (pageCount n rows.length) fun i => if i = k then l' else l).Perm rows := by
  obtain ⟨l, hperm, hdesc⟩ := exists_descending f rows
  have hpos : k ≠ 0 := by
    rintro rfl
    obtain ⟨value, habove, -⟩ := hstraddle
    omega
  obtain ⟨k, rfl⟩ : ∃ j, k = j + 1 := Nat.exists_eq_succ_of_ne_zero hpos
  obtain ⟨i, hi⟩ : ∃ i, i + 1 = (k + 1) * n := ⟨k * n + n - 1, by rw [Nat.succ_mul]; omega⟩
  rw [← hi] at hstraddle
  obtain ⟨hx, hy, hsame⟩ := same_of_straddles hstraddle hperm hdesc
  have hsplit : l = l.take i ++ l[i] :: l[i + 1] :: l.drop (i + 2) := by
    rw [← List.drop_eq_getElem_cons hy, ← List.drop_eq_getElem_cons hx, List.take_append_drop]
  have hswap : (l.take i ++ l[i + 1] :: l[i] :: l.drop (i + 2)).Perm l := by
    conv_rhs => rw [hsplit]
    exact (List.Perm.swap _ _ _).append_left _
  have hswapDesc : Descending f (l.take i ++ l[i + 1] :: l[i] :: l.drop (i + 2)) :=
    descending_swap hsame (hsplit ▸ hdesc)
  refine ⟨l, _, ⟨hperm, hdesc⟩, ⟨hswap.trans hperm, hswapDesc⟩, ?_⟩
  have hfirst : l[i] ∈ page n k l :=
    getElem_mem_page hx (by rw [Nat.succ_mul] at hi; omega) (by rw [← hi]; omega)
  have hsecond : l[i] ∈ page n (k + 1) (l.take i ++ l[i + 1] :: l[i] :: l.drop (i + 2)) := by
    have hlen' : i + 1 < (l.take i ++ l[i + 1] :: l[i] :: l.drop (i + 2)).length := by
      rw [hswap.length_eq]
      exact hy
    have hget : (l.take i ++ l[i + 1] :: l[i] :: l.drop (i + 2))[i + 1] = l[i] := by
      have htake : (l.take i).length = i := List.length_take_of_le hx.le
      rw [List.getElem_append_right (by omega)]
      simp [htake]
    have hmem := getElem_mem_page (n := n) (k := k + 1) hlen' hi.ge
      (by rw [Nat.succ_mul, ← hi]; omega)
    rwa [hget] at hmem
  have hcount : k + 1 < pageCount n rows.length := by
    have hlength := hperm.length_eq
    rw [lt_pageCount_iff hn]
    omega
  refine not_perm_of_mem_mem hnodup (Nat.lt_succ_self k) hcount (a := l[i]) ?_ ?_
  · rw [if_neg (Nat.ne_of_lt (Nat.lt_succ_self k))]
    exact hfirst
  · rw [if_pos rfl]
    exact hsecond

end

end Paging
