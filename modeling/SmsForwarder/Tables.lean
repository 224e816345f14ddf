/-
**Tables as lists of rows.**

A table is the list of its rows in insertion order.  The queries a service makes are lookups that
expect at most one row, the writes are insertions at the end and updates of the row with a given
key, and the constraint that matters is that a column is unique.

Main definitions:

* `Tables.oneOrNone` — the lookup that distinguishes no row, one row, and several rows;
* `Tables.UniqueKey` — a column holds pairwise distinct values;
* `Tables.updateKey` — rewrite the rows with a given key;
* `Tables.total` — the total of a column over the rows that meet a condition;
* `Tables.page` — the rows of a page;
* `Tables.nextKey` — the next value of an increasing numeric key;
* `Tables.join` — the inner join of two tables on a column.

Main results:

* `Tables.oneOrNone_of_mem` — under a unique column the lookup finds the row there is;
* `Tables.uniqueKey_updateKey`, `Tables.uniqueKey_concat` — updates and insertions that keep a
  column unique;
* `Tables.mem_updateKey_of_uniqueKey` — what an update does to a table with a unique key;
* `Tables.total_updateKey` — what an update does to a total;
* `Tables.updateKey_map`, `Tables.oneOrNone_map` — updates and lookups of a table seen through a
  map;
* `Tables.exists_mem_page` — every row is on some page;
* `Tables.join_perm` — a join on a key keeps every row with a partner once.
-/

import Mathlib.Algebra.GroupWithZero.Nat
import Mathlib.Data.List.Induction
import Mathlib.Data.List.Nodup
import Mathlib.Tactic.Common

set_option relaxedAutoImplicit false
set_option autoImplicit false

namespace Tables

variable {ρ κ : Type*}

/-! ### Lookups -/

/-- The lookup that expects at most one row: `none` when several rows match. -/
def oneOrNone (p : ρ → Bool) (rows : List ρ) : Option (Option ρ) :=
  match rows.filter p with
  | [] => some none
  | [r] => some (some r)
  | _ => none

theorem oneOrNone_eq_none_row {p : ρ → Bool} {rows : List ρ} :
    oneOrNone p rows = some none ↔ ∀ r ∈ rows, p r = false := by
  unfold oneOrNone
  split
  · rename_i h
    simpa using List.filter_eq_nil_iff.1 h
  · rename_i r h
    have hr : r ∈ rows.filter p := by simp [h]
    rw [List.mem_filter] at hr
    simpa using ⟨r, hr.1, hr.2⟩
  · rename_i hnil _
    simpa [List.filter_eq_nil_iff] using hnil

theorem filter_of_oneOrNone {p : ρ → Bool} {rows : List ρ} {r : ρ}
    (h : oneOrNone p rows = some (some r)) : rows.filter p = [r] := by
  unfold oneOrNone at h
  split at h
  · simp at h
  · rename_i r' hr
    simpa [hr] using h
  · simp at h

theorem mem_of_oneOrNone {p : ρ → Bool} {rows : List ρ} {r : ρ}
    (h : oneOrNone p rows = some (some r)) : r ∈ rows ∧ p r = true := by
  have hr : r ∈ rows.filter p := by simp [filter_of_oneOrNone h]
  simpa [List.mem_filter] using hr

theorem oneOrNone_eq_of_filter {p : ρ → Bool} {rows : List ρ} {r : ρ}
    (h : rows.filter p = [r]) : oneOrNone p rows = some (some r) := by
  simp [oneOrNone, h]

theorem oneOrNone_eq_none {p : ρ → Bool} {rows : List ρ} :
    oneOrNone p rows = none ↔ 1 < (rows.filter p).length := by
  unfold oneOrNone
  split
  · rename_i h
    simp [h]
  · rename_i r h
    simp [h]
  · rename_i hnil hone
    simp only [true_iff]
    by_contra hlen
    match hf : rows.filter p with
    | [] => exact hnil hf
    | [r] => exact hone r hf
    | _ :: _ :: _ =>
        rw [hf] at hlen
        simp at hlen

/-- A lookup by a stronger condition meets several rows only if the weaker one does. -/
theorem oneOrNone_ne_none_of_imp {p q : ρ → Bool} {rows : List ρ}
    (himp : ∀ r, p r = true → q r = true) (hq : oneOrNone q rows ≠ none) :
    oneOrNone p rows ≠ none := by
  rw [ne_eq, oneOrNone_eq_none] at hq ⊢
  have hsub : (rows.filter p).length ≤ (rows.filter q).length := by
    rw [← List.countP_eq_length_filter, ← List.countP_eq_length_filter]
    exact List.countP_mono_left fun r _ => himp r
  omega

/-! ### Unique columns -/

/-- The column `key` holds pairwise distinct values. -/
def UniqueKey (key : ρ → κ) (rows : List ρ) : Prop := (rows.map key).Nodup

instance [DecidableEq κ] (key : ρ → κ) (rows : List ρ) : Decidable (UniqueKey key rows) :=
  inferInstanceAs (Decidable (rows.map key).Nodup)

@[simp] theorem uniqueKey_nil (key : ρ → κ) : UniqueKey key ([] : List ρ) := List.nodup_nil

theorem UniqueKey.eq {key : ρ → κ} {rows : List ρ} (h : UniqueKey key rows) {r r' : ρ}
    (hr : r ∈ rows) (hr' : r' ∈ rows) (hk : key r = key r') : r = r' :=
  List.inj_on_of_nodup_map h hr hr' hk

theorem uniqueKey_concat {key : ρ → κ} {rows : List ρ} {r : ρ} :
    UniqueKey key (rows ++ [r]) ↔ UniqueKey key rows ∧ ∀ r' ∈ rows, key r' ≠ key r := by
  unfold UniqueKey
  rw [List.map_append, List.map_cons, List.map_nil, List.nodup_append_comm, List.singleton_append,
    List.nodup_cons]
  constructor
  · rintro ⟨hr, h⟩
    exact ⟨h, fun r' hr' heq => hr (List.mem_map.2 ⟨r', hr', heq⟩)⟩
  · rintro ⟨h, hr⟩
    refine ⟨fun hmem => ?_, h⟩
    obtain ⟨r', hr', heq⟩ := List.mem_map.1 hmem
    exact hr r' hr' heq

theorem mem_middle {l l' : List ρ} {r r' : ρ} : r' ∈ l ++ r :: l' ↔ r' = r ∨ r' ∈ l ++ l' := by
  rw [List.perm_middle.mem_iff, List.mem_cons]

/-- A row in the middle of a table is compared with all others. -/
theorem uniqueKey_middle {key : ρ → κ} {l l' : List ρ} {r : ρ} :
    UniqueKey key (l ++ r :: l') ↔
      UniqueKey key (l ++ l') ∧ ∀ r' ∈ l ++ l', key r' ≠ key r := by
  have hperm : (l ++ r :: l').Perm ((l ++ l') ++ [r]) := by
    refine List.perm_middle.trans ?_
    exact (List.perm_append_comm : ([r] ++ (l ++ l')).Perm _)
  have hnodup : UniqueKey key (l ++ r :: l') ↔ UniqueKey key ((l ++ l') ++ [r]) :=
    (hperm.map key).nodup_iff
  rw [hnodup, uniqueKey_concat]

/-- Only the key of the row in the middle matters. -/
theorem uniqueKey_middle_congr {key : ρ → κ} {l l' : List ρ} {r r' : ρ} (h : key r = key r') :
    UniqueKey key (l ++ r :: l') ↔ UniqueKey key (l ++ r' :: l') := by
  rw [uniqueKey_middle, uniqueKey_middle, h]

theorem filter_of_uniqueKey [DecidableEq κ] {key : ρ → κ} {rows : List ρ} {r : ρ}
    (h : UniqueKey key rows) (hr : r ∈ rows) :
    rows.filter (fun r' => key r' = key r) = [r] := by
  induction rows with
  | nil => simp at hr
  | cons a rows ih =>
      have hc : key a ∉ rows.map key ∧ UniqueKey key rows := by
        simpa [UniqueKey, List.nodup_cons] using h
      obtain ⟨ha, hrows⟩ := hc
      rcases List.mem_cons.1 hr with rfl | hr
      · have hrest : rows.filter (fun r' => key r' = key r) = [] := by
          rw [List.filter_eq_nil_iff]
          intro r' hr' heq
          exact ha (List.mem_map.2 ⟨r', hr', by simpa using heq⟩)
        simp [hrest]
      · have hne : key a ≠ key r := fun heq => ha (List.mem_map.2 ⟨r, hr, heq.symm⟩)
        simp [hne, ih hrows hr]

/-- Under a unique column the lookup by that column finds the row there is. -/
theorem oneOrNone_of_mem [DecidableEq κ] {key : ρ → κ} {rows : List ρ} {r : ρ}
    (h : UniqueKey key rows) (hr : r ∈ rows) :
    oneOrNone (fun r' => key r' = key r) rows = some (some r) :=
  oneOrNone_eq_of_filter (filter_of_uniqueKey h hr)

/-- The first row with key `k`. -/
def lookup [DecidableEq κ] (key : ρ → κ) (k : κ) (rows : List ρ) : Option ρ :=
  rows.find? fun r => key r = k

theorem lookup_eq_some_iff [DecidableEq κ] {key : ρ → κ} {k : κ} {rows : List ρ} {r : ρ}
    (h : UniqueKey key rows) : lookup key k rows = some r ↔ r ∈ rows ∧ key r = k := by
  unfold lookup
  constructor
  · intro hr
    exact ⟨List.mem_of_find?_eq_some hr, by simpa using List.find?_some hr⟩
  · intro hr
    obtain ⟨hr, hk⟩ := hr
    cases hf : rows.find? fun r => key r = k with
    | none =>
        have := List.find?_eq_none.1 hf r hr
        simp [hk] at this
    | some r' =>
        have hr' : r' ∈ rows := List.mem_of_find?_eq_some hf
        have hk' : key r' = k := by simpa using List.find?_some hf
        rw [h.eq hr' hr (hk'.trans hk.symm)]

theorem lookup_eq_none_iff [DecidableEq κ] {key : ρ → κ} {k : κ} {rows : List ρ} :
    lookup key k rows = none ↔ ∀ r ∈ rows, key r ≠ k := by
  simp [lookup]

/-- The lookup that distinguishes several rows agrees with the first match when the column is
unique. -/
theorem oneOrNone_eq_lookup [DecidableEq κ] {key : ρ → κ} {k : κ} {rows : List ρ}
    (h : UniqueKey key rows) : oneOrNone (fun r => key r = k) rows = some (lookup key k rows) := by
  cases hl : lookup key k rows with
  | none =>
      rw [oneOrNone_eq_none_row]
      simpa using lookup_eq_none_iff.1 hl
  | some r =>
      obtain ⟨hr, rfl⟩ := (lookup_eq_some_iff h).1 hl
      exact oneOrNone_of_mem h hr

theorem lookup_concat [DecidableEq κ] {key : ρ → κ} {k : κ} {rows : List ρ} {r : ρ}
    (h : UniqueKey key (rows ++ [r])) :
    lookup key k (rows ++ [r]) = if key r = k then some r else lookup key k rows := by
  obtain ⟨-, hne⟩ := uniqueKey_concat.1 h
  unfold lookup
  rw [List.find?_append]
  by_cases hk : key r = k
  · have hnone : rows.find? (fun r => key r = k) = none := by
      rw [List.find?_eq_none]
      intro r' hr' heq
      exact hne r' hr' (by simpa [hk] using heq)
    simp [hk, hnone]
  · simp [hk]

/-! ### Updates -/

/-- Rewrite the rows whose key is `k`. -/
def updateKey [DecidableEq κ] (key : ρ → κ) (k : κ) (f : ρ → ρ) (rows : List ρ) : List ρ :=
  rows.map fun r => if key r = k then f r else r

section

variable [DecidableEq κ] {key : ρ → κ} {k : κ} {f : ρ → ρ} {rows : List ρ}

theorem mem_updateKey {r : ρ} :
    r ∈ updateKey key k f rows ↔
      (∃ r' ∈ rows, key r' = k ∧ f r' = r) ∨ (r ∈ rows ∧ key r ≠ k) := by
  unfold updateKey
  rw [List.mem_map]
  constructor
  · rintro ⟨r', hr', rfl⟩
    by_cases h : key r' = k
    · exact Or.inl ⟨r', hr', h, by simp [h]⟩
    · exact Or.inr (by simpa [h] using hr')
  · rintro (⟨r', hr', h, rfl⟩ | ⟨hr, h⟩)
    · exact ⟨r', hr', by simp [h]⟩
    · exact ⟨r, hr, by simp [h]⟩

/-- A column that the update leaves alone has the same values afterwards. -/
theorem map_updateKey {κ' : Type*} {key' : ρ → κ'}
    (hf : ∀ r ∈ rows, key r = k → key' (f r) = key' r) :
    (updateKey key k f rows).map key' = rows.map key' := by
  unfold updateKey
  rw [List.map_map]
  refine List.map_congr_left fun r hr => ?_
  by_cases h : key r = k
  · simp [h, hf r hr h]
  · simp [h]

theorem uniqueKey_updateKey {κ' : Type*} {key' : ρ → κ'}
    (hf : ∀ r ∈ rows, key r = k → key' (f r) = key' r) :
    UniqueKey key' (updateKey key k f rows) ↔ UniqueKey key' rows := by
  unfold UniqueKey
  rw [map_updateKey hf]

/-- Under a unique key, updating the row `r` replaces `r` and nothing else. -/
theorem mem_updateKey_of_uniqueKey {r r' : ρ} (h : UniqueKey key rows) (hr : r ∈ rows) :
    r' ∈ updateKey key (key r) f rows ↔ r' = f r ∨ (r' ∈ rows ∧ r' ≠ r) := by
  rw [mem_updateKey]
  constructor
  · rintro (⟨a, ha, hk, rfl⟩ | ⟨hr', hk⟩)
    · exact Or.inl (by rw [h.eq ha hr hk])
    · exact Or.inr ⟨hr', fun heq => hk (by rw [heq])⟩
  · rintro (rfl | ⟨hr', hne⟩)
    · exact Or.inl ⟨r, hr, rfl, rfl⟩
    · exact Or.inr ⟨hr', fun hk => hne (h.eq hr' hr hk)⟩

/-- Under a unique key, updating the row in the middle leaves the rows around it alone. -/
theorem updateKey_middle {l l' : List ρ} {r : ρ} (h : UniqueKey key (l ++ r :: l')) :
    updateKey key (key r) f (l ++ r :: l') = l ++ f r :: l' := by
  obtain ⟨-, hne⟩ := uniqueKey_middle.1 h
  have hkeep : ∀ rows : List ρ, (∀ r' ∈ rows, r' ∈ l ++ l') →
      rows.map (fun r' => if key r' = key r then f r' else r') = rows := by
    intro rows hrows
    rw [List.map_congr_left fun r' hr' => if_neg (hne r' (hrows r' hr')), List.map_id']
  unfold updateKey
  rw [List.map_append, List.map_cons, if_pos rfl, hkeep l fun r' => List.mem_append_left _,
    hkeep l' fun r' => List.mem_append_right _]

/-- Replacing a row by one whose value in the column `key'` no other row has. -/
theorem uniqueKey_updateKey_of_ne {κ' : Type*} {key' : ρ → κ'} {r : ρ} (h : UniqueKey key rows)
    (h' : UniqueKey key' rows) (hr : r ∈ rows)
    (hne : ∀ r' ∈ rows, key r' ≠ key r → key' r' ≠ key' (f r)) :
    UniqueKey key' (updateKey key (key r) f rows) := by
  obtain ⟨l, l', rfl⟩ := List.append_of_mem hr
  obtain ⟨-, hkeys⟩ := uniqueKey_middle.1 h
  have hsplit : updateKey key (key r) f (l ++ r :: l') = l ++ f r :: l' := updateKey_middle h
  rw [hsplit]
  exact uniqueKey_middle.2 ⟨(uniqueKey_middle.1 h').1, fun r' hr' =>
    hne r' (mem_middle.2 (Or.inr hr')) (hkeys r' hr')⟩

/-- Replacing a row by one with the same value in the column `key'`, seen through that column. -/
theorem lookup_updateKey {κ' : Type*} [DecidableEq κ'] {key' : ρ → κ'} {k' : κ'} {r : ρ}
    (h : UniqueKey key rows) (h' : UniqueKey key' rows) (hr : r ∈ rows)
    (hf : key' (f r) = key' r) :
    lookup key' k' (updateKey key (key r) f rows) =
      if key' r = k' then some (f r) else lookup key' k' rows := by
  have hkeep : ∀ a ∈ rows, key a = key r → key' (f a) = key' a := by
    intro a ha hk
    rw [h.eq ha hr hk, hf]
  have huniq : UniqueKey key' (updateKey key (key r) f rows) :=
    (uniqueKey_updateKey hkeep).2 h'
  by_cases hk : key' r = k'
  · rw [if_pos hk, lookup_eq_some_iff huniq]
    exact ⟨(mem_updateKey_of_uniqueKey h hr).2 (Or.inl rfl), by rw [hf, hk]⟩
  · rw [if_neg hk]
    cases hl : lookup key' k' rows with
    | none =>
        rw [lookup_eq_none_iff] at hl ⊢
        intro a ha
        rcases (mem_updateKey_of_uniqueKey h hr).1 ha with rfl | ⟨ha, -⟩
        · rwa [hf]
        · exact hl a ha
    | some a =>
        obtain ⟨ha, hka⟩ := (lookup_eq_some_iff h').1 hl
        rw [lookup_eq_some_iff huniq]
        refine ⟨(mem_updateKey_of_uniqueKey h hr).2 (Or.inr ⟨ha, ?_⟩), hka⟩
        intro heq
        exact hk (heq ▸ hka)

/-- The total of a column over the rows that satisfy `p`. -/
def total (p : ρ → Bool) (g : ρ → ℕ) (rows : List ρ) : ℕ := ((rows.filter p).map g).sum

omit [DecidableEq κ] in
theorem total_append (p : ρ → Bool) (g : ρ → ℕ) (rows rows' : List ρ) :
    total p g (rows ++ rows') = total p g rows + total p g rows' := by
  simp [total]

omit [DecidableEq κ] in
/-- A rewriting of the rows that keeps `p` and the column keeps the total. -/
theorem total_map {p : ρ → Bool} {g : ρ → ℕ} {h : ρ → ρ} (hp : ∀ r, p (h r) = p r)
    (hg : ∀ r, g (h r) = g r) (rows : List ρ) : total p g (rows.map h) = total p g rows := by
  have hp' : p ∘ h = p := funext hp
  have hg' : g ∘ h = g := funext hg
  unfold total
  rw [List.filter_map, List.map_map, hp', hg']

/-- Under a unique key, updating the row `r` changes the total by what it does to `r`. -/
theorem total_updateKey {p : ρ → Bool} {g : ρ → ℕ} {r : ρ} {n : ℕ} (h : UniqueKey key rows)
    (hr : r ∈ rows) (hp : p (f r) = p r) (hg : g (f r) = g r + n) :
    total p g (updateKey key (key r) f rows) = total p g rows + if p r then n else 0 := by
  obtain ⟨l, l', rfl⟩ := List.append_of_mem hr
  rw [updateKey_middle h]
  unfold total
  by_cases hpr : p r = true
  · rw [hpr] at hp
    simp only [List.filter_append, List.filter_cons, hp, hpr, if_true, List.map_append,
      List.map_cons, List.sum_append, List.sum_cons, hg]
    omega
  · rw [Bool.not_eq_true] at hpr
    rw [hpr] at hp
    simp [hp, hpr]

@[simp] theorem updateKey_eq_nil : updateKey key k f rows = [] ↔ rows = [] := by
  simp [updateKey]

end

/-! ### Tables seen through a map of rows -/

section

variable {m : ρ → ρ} {p : ρ → Bool} {rows : List ρ}

/-- A condition that the map keeps selects the images of the rows it selects. -/
theorem filter_map_of_keep (hp : ∀ r, p (m r) = p r) :
    (rows.map m).filter p = (rows.filter p).map m := by
  have hcomp : p ∘ m = p := funext hp
  rw [List.filter_map, hcomp]

/-- Rows that the map leaves alone are found in the mapped table. -/
theorem filter_map_of_self (hp : ∀ r, p (m r) = p r) (hself : ∀ r, p r = true → m r = r) :
    (rows.map m).filter p = rows.filter p := by
  rw [filter_map_of_keep hp]
  refine (List.map_congr_left fun r hr => ?_).trans (List.map_id _)
  exact hself r (List.mem_filter.1 hr).2

theorem oneOrNone_map (hp : ∀ r, p (m r) = p r) :
    oneOrNone p (rows.map m) = (oneOrNone p rows).map (Option.map m) := by
  unfold oneOrNone
  rw [filter_map_of_keep hp]
  match rows.filter p with
  | [] => rfl
  | [r] => rfl
  | _ :: _ :: _ => rfl

theorem lookup_map [DecidableEq κ] {key : ρ → κ} (hm : ∀ r, key (m r) = key r) (k : κ) :
    lookup key k (rows.map m) = (lookup key k rows).map m := by
  have hcomp : (fun r => decide (key r = k)) ∘ m = fun r => decide (key r = k) := by
    funext r
    simp only [Function.comp_apply, hm]
  unfold lookup
  rw [List.find?_map, hcomp]

/-- The map goes past an update that acts alike on a row and on its image. -/
theorem updateKey_map [DecidableEq κ] {key : ρ → κ} {k : κ} {f : ρ → ρ}
    (hm : ∀ r, key (m r) = key r) (hf : ∀ r ∈ rows, key r = k → m (f r) = f (m r)) :
    updateKey key k f (rows.map m) = (updateKey key k f rows).map m := by
  unfold updateKey
  rw [List.map_map, List.map_map]
  refine List.map_congr_left fun r hr => ?_
  by_cases hk : key r = k
  · simp only [Function.comp_apply, hm, if_pos hk, hf r hr hk]
  · simp only [Function.comp_apply, hm, if_neg hk]

theorem uniqueKey_map {key : ρ → κ} (hm : ∀ r, key (m r) = key r) :
    UniqueKey key (rows.map m) ↔ UniqueKey key rows := by
  have hcomp : key ∘ m = key := funext hm
  unfold UniqueKey
  rw [List.map_map, hcomp]

/-- A key that holds the number of the group a row is in is unique if it is unique in the group and
among the other rows. -/
theorem uniqueKey_iff_filter {κ' : Type*} {key : ρ → κ' × κ}
    (hp : ∀ r r', (key r).1 = (key r').1 → p r = p r') (hothers : UniqueKey key
      (rows.filter fun r => !p r)) : UniqueKey key rows ↔ UniqueKey key (rows.filter p) := by
  have hperm : (rows.filter p ++ rows.filter fun r => !p r).Perm rows :=
    List.filter_append_perm p rows
  unfold UniqueKey at hothers ⊢
  rw [← (hperm.map key).nodup_iff, List.map_append, List.nodup_append]
  constructor
  · exact fun h => h.1
  · refine fun h => ⟨h, hothers, fun k hk k' hk' heq => ?_⟩
    obtain ⟨r, hr, rfl⟩ := List.mem_map.1 hk
    obtain ⟨r', hr', rfl⟩ := List.mem_map.1 hk'
    have hsame := hp r r' (congrArg Prod.fst heq)
    rw [(List.mem_filter.1 hr).2] at hsame
    simp [← hsame] at hr'

end

/-! ### Pages -/

/-- The rows of page `k`, counted from zero, when a page has `n` rows. -/
def page (n k : ℕ) (rows : List ρ) : List ρ := (rows.drop (k * n)).take n

/-- Every row is on a page that starts inside the table. -/
theorem exists_mem_page {n : ℕ} (hn : 0 < n) {rows : List ρ} {r : ρ} (hr : r ∈ rows) :
    ∃ k, k * n ≤ rows.length ∧ r ∈ page n k rows := by
  obtain ⟨i, hi, rfl⟩ := List.mem_iff_getElem.1 hr
  have hdiv : n * (i / n) + i % n = i := Nat.div_add_mod i n
  have hmod : i % n < n := Nat.mod_lt i hn
  rw [Nat.mul_comm] at hdiv
  refine ⟨i / n, by omega, ?_⟩
  unfold page
  rw [List.mem_take_iff_getElem]
  refine ⟨i % n, ?_, ?_⟩
  · rw [List.length_drop]
    omega
  · simp only [List.getElem_drop, hdiv]

/-! ### Increasing keys -/

/-- The next value of an increasing numeric key: one more than the largest value there is. -/
def nextKey (key : ρ → ℕ) (rows : List ρ) : ℕ := (rows.map key).foldr max 0 + 1

theorem lt_nextKey {key : ρ → ℕ} {rows : List ρ} {r : ρ} (hr : r ∈ rows) :
    key r < nextKey key rows := by
  unfold nextKey
  induction rows with
  | nil => simp at hr
  | cons a rows ih =>
      simp only [List.map_cons, List.foldr_cons]
      rcases List.mem_cons.1 hr with rfl | hr
      · omega
      · have := ih hr
        omega

/-- A row inserted under the next key keeps the key unique. -/
theorem uniqueKey_concat_nextKey {key : ρ → ℕ} {rows : List ρ} {r : ρ}
    (h : UniqueKey key rows) (hr : key r = nextKey key rows) : UniqueKey key (rows ++ [r]) := by
  rw [uniqueKey_concat]
  refine ⟨h, fun r' hr' heq => ?_⟩
  have hlt : key r' < nextKey key rows := lt_nextKey hr'
  omega

/-- The next value is at most one more than a bound on the keys. -/
theorem nextKey_le {key : ρ → ℕ} {n : ℕ} {rows : List ρ} (h : ∀ r ∈ rows, key r ≤ n) :
    nextKey key rows ≤ n + 1 := by
  unfold nextKey
  induction rows with
  | nil => simp
  | cons a rows ih =>
      obtain ⟨ha, hrest⟩ := List.forall_mem_cons.1 h
      simp only [List.map_cons, List.foldr_cons]
      have := ih hrest
      omega

theorem nextKey_map {key : ρ → ℕ} {m : ρ → ρ} (hm : ∀ r, key (m r) = key r) (rows : List ρ) :
    nextKey key (rows.map m) = nextKey key rows := by
  have hcomp : key ∘ m = key := funext hm
  unfold nextKey
  rw [List.map_map, hcomp]

theorem nextKey_concat {key : ρ → ℕ} (rows : List ρ) (r : ρ) :
    nextKey key (rows ++ [r]) = max (nextKey key rows) (key r + 1) := by
  unfold nextKey
  induction rows with
  | nil => simp
  | cons a rows ih =>
      simp only [List.cons_append, List.map_cons, List.foldr_cons]
      omega

/-- The next value after keys that count the rows. -/
theorem nextKey_mapIdx {key : ρ → ℕ} {f : ℕ → ρ → ρ} (hf : ∀ i r, key (f i r) = i + 1)
    (rows : List ρ) : nextKey key (rows.mapIdx f) = rows.length + 1 := by
  induction rows using List.reverseRecOn with
  | nil => rfl
  | append_singleton rows r ih =>
      rw [List.mapIdx_concat, nextKey_concat, ih, hf, List.length_append, List.length_singleton]
      omega

/-- Keys that count the rows are unique. -/
theorem uniqueKey_mapIdx {key : ρ → ℕ} {f : ℕ → ρ → ρ} (hf : ∀ i r, key (f i r) = i + 1)
    (rows : List ρ) : UniqueKey key (rows.mapIdx f) := by
  induction rows using List.reverseRecOn with
  | nil => exact uniqueKey_nil key
  | append_singleton rows r ih =>
      rw [List.mapIdx_concat]
      exact uniqueKey_concat_nextKey ih (by rw [hf, nextKey_mapIdx hf])

/-! ### Joins -/

section

variable {σ : Type*} [DecidableEq κ] {key : ρ → κ} {key' : σ → κ} {rows : List ρ} {rows' : List σ}

/-- The inner join of two tables on a column. -/
def join (key : ρ → κ) (key' : σ → κ) (rows : List ρ) (rows' : List σ) : List (ρ × σ) :=
  rows.flatMap fun r => (rows'.filter fun r' => key' r' = key r).map (Prod.mk r)

theorem mem_join {r : ρ} {r' : σ} :
    (r, r') ∈ join key key' rows rows' ↔ r ∈ rows ∧ r' ∈ rows' ∧ key' r' = key r := by
  unfold join
  simp only [List.mem_flatMap, List.mem_map, List.mem_filter, decide_eq_true_eq, Prod.mk.injEq]
  constructor
  · rintro ⟨_, hr, _, ⟨hr', hk⟩, rfl, rfl⟩
    exact ⟨hr, hr', hk⟩
  · rintro ⟨hr, hr', hk⟩
    exact ⟨r, hr, r', ⟨hr', hk⟩, rfl, rfl⟩

/-- **A join on a key keeps every row with a partner once.** -/
theorem join_perm (h : UniqueKey key rows) (hnodup : rows'.Nodup)
    (hpartner : ∀ r' ∈ rows', ∃ r ∈ rows, key r = key' r') :
    ((join key key' rows rows').map Prod.snd).Perm rows' := by
  have hsnd : (join key key' rows rows').map Prod.snd =
      rows.flatMap fun r => rows'.filter fun r' => key' r' = key r := by
    unfold join
    rw [List.map_flatMap]
    congr 1
    funext r
    rw [List.map_map]
    exact List.map_id _
  rw [hsnd]
  refine (List.perm_ext_iff_of_nodup ?_ hnodup).2 fun r' => ?_
  · refine List.nodup_flatMap.2 ⟨fun r _ => hnodup.filter _, ?_⟩
    refine (List.pairwise_map.1 h).imp fun {r₁ r₂} hne r' h₁ h₂ => hne ?_
    rw [← of_decide_eq_true (List.mem_filter.1 h₁).2, of_decide_eq_true (List.mem_filter.1 h₂).2]
  · rw [List.mem_flatMap]
    constructor
    · rintro ⟨r, -, hr'⟩
      exact (List.mem_filter.1 hr').1
    · intro hr'
      obtain ⟨r, hr, hk⟩ := hpartner r' hr'
      exact ⟨r, hr, List.mem_filter.2 ⟨hr', decide_eq_true hk.symm⟩⟩

end

end Tables
