/-
**The first gap.**

The values that are in use are a list, in any order, and a scan goes through the candidates in
increasing order.  It stops at the least candidate that is not in use.  If the values in use are
distinct candidates, there is such a candidate exactly when they are fewer than the candidates.

Main definitions:

* `Gaps.firstGap` — the scan.

Main results:

* `Gaps.firstGap_eq_some_iff`, `Gaps.firstGap_eq_none_iff` — what the scan finds;
* `Gaps.exists_gap_iff` — there is a gap exactly when fewer values than candidates are in use.
-/

import Mathlib.Data.List.Perm.Subperm
import Mathlib.Data.List.Range
import Mathlib.Order.Bounds.Basic

set_option relaxedAutoImplicit false
set_option autoImplicit false

namespace Gaps

/-! ### The scan -/

section

variable {α : Type*} [LinearOrder α] {candidates used : List α} {a : α}

/-- The first candidate that is not in use. -/
def firstGap (candidates used : List α) : Option α := candidates.find? fun a => a ∉ used

/-- The scan finds the least candidate that is not in use. -/
theorem firstGap_eq_some_iff (h : candidates.Pairwise (· < ·)) :
    firstGap candidates used = some a ↔ IsLeast {a | a ∈ candidates ∧ a ∉ used} a := by
  unfold firstGap
  rw [List.find?_eq_some_iff_append]
  constructor
  · rintro ⟨hfree, l, l', rfl, hbefore⟩
    obtain ⟨-, hafter, -⟩ := List.pairwise_append.1 h
    refine ⟨⟨by simp, by simpa using hfree⟩, ?_⟩
    rintro b ⟨hb, hbfree⟩
    rcases List.mem_append.1 hb with hb | hb
    · have hused : b ∈ used := by simpa using hbefore b hb
      exact absurd hused hbfree
    · rcases List.mem_cons.1 hb with rfl | hb
      · exact le_rfl
      · exact le_of_lt (List.rel_of_pairwise_cons hafter hb)
  · rintro ⟨⟨ha, hfree⟩, hleast⟩
    obtain ⟨l, l', rfl⟩ := List.append_of_mem ha
    obtain ⟨-, -, hlt⟩ := List.pairwise_append.1 h
    refine ⟨by simpa using hfree, l, l', rfl, fun b hb => ?_⟩
    -- a smaller candidate would be the least one
    by_contra hbfree
    have hle : a ≤ b := hleast ⟨List.mem_append_left _ hb, by simpa using hbfree⟩
    exact absurd (hlt b hb a List.mem_cons_self) (not_lt_of_ge hle)

/-- The scan finds nothing if all candidates are in use. -/
theorem firstGap_eq_none_iff (candidates used : List α) :
    firstGap candidates used = none ↔ ∀ a ∈ candidates, a ∈ used := by
  unfold firstGap
  simp

end

/-! ### How many values are in use -/

section

variable {α : Type*} {candidates used : List α}

/-- Distinct candidates are no more than there are candidates. -/
theorem length_le (hused : used.Nodup) (hsub : ∀ a ∈ used, a ∈ candidates) :
    used.length ≤ candidates.length :=
  (List.subperm_of_subset hused hsub).length_le

/-- **There is a gap** exactly when fewer values than candidates are in use. -/
theorem exists_gap_iff (hcand : candidates.Nodup) (hused : used.Nodup)
    (hsub : ∀ a ∈ used, a ∈ candidates) :
    (∃ a ∈ candidates, a ∉ used) ↔ used.length < candidates.length := by
  have hsubperm := List.subperm_of_subset hused hsub
  constructor
  · rintro ⟨a, ha, hfree⟩
    refine lt_of_le_of_ne hsubperm.length_le fun hlen => ?_
    have hperm : used.Perm candidates := hsubperm.perm_of_length_le hlen.ge
    exact hfree (hperm.mem_iff.2 ha)
  · intro hlt
    by_contra hnone
    push Not at hnone
    have hle : candidates.length ≤ used.length := length_le hcand hnone
    omega

end

end Gaps
