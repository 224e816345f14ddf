/-
**Leases on settings.**

A setting is a value that its owner may set at any time.  A *lease* takes it over: while the lease
is active the owner cannot set the value, which is either replaced by one computed from the
resource the lease holds or left as it is, and the value from before is kept aside.  Releasing the
lease puts the kept value back and leaves the lease behind, inactive.

The module asks two questions about such a system.  Does the release put back the value from before
the lease?  And is the value of a setting that is not leased the last one its owner set?  The first
holds for all runs.  The second hinges on releases of a lease that is already inactive.

Main definitions:

* `Leases.Hold`, `Leases.Cell`, `Leases.State` — leases, settings, and their states by key;
* `Leases.Move`, `Leases.apply`, `Leases.Legal` — what can happen, and when;
* `Leases.Backed` — every lease keeps the value from before it, and shows its own while active;
* `Leases.Settled`, `Leases.Covered` — the owner's last value is the one shown or the one kept.

Main results:

* `Leases.backed_apply` — legal moves keep `Backed`;
* `Leases.covered_apply`, `Leases.settled_apply_iff` — **from a settled state, a legal move ends in
  a settled state exactly when it does not release an inactive lease over a newer value.**
-/

import Mathlib.Logic.Function.Basic
import Mathlib.Tactic.Common

set_option relaxedAutoImplicit false
set_option autoImplicit false

namespace Leases

variable {κ ν π : Type*}

/-! ### The system -/

/-- A lease: the resource it holds, whether it is active, and the value it keeps aside. -/
structure Hold (ν π : Type*) where
  port : π
  active : Bool
  saved : ν

/-- A setting and the lease on it, if there ever was one. -/
structure Cell (ν π : Type*) where
  value : ν
  hold : Option (Hold ν π)

/-- The settings by key. -/
abbrev State (κ ν π : Type*) := κ → Option (Cell ν π)

/-- The setting is taken over. -/
def Cell.Held (c : Cell ν π) : Prop := ∃ h, c.hold = some h ∧ h.active = true

inductive Move (κ ν π : Type*)
  | create (k : κ) (v : ν)
  | set (k : κ) (v : ν)
  | acquire (k : κ) (p : π) (sync : Bool)
  | release (k : κ)
  | skip

/-- The setting after a lease on it became active. -/
def Cell.acquire (render : π → ν) (p : π) (sync : Bool) (c : Cell ν π) : Cell ν π :=
  ⟨if sync then render p else c.value, some ⟨p, true, c.value⟩⟩

/-- The setting after the lease on it was released. -/
def Cell.release (c : Cell ν π) : Cell ν π :=
  match c.hold with
  | none => c
  | some h => ⟨h.saved, some { h with active := false }⟩

section

variable [DecidableEq κ] (render : π → ν)

def apply (s : State κ ν π) : Move κ ν π → State κ ν π
  | .create k v => Function.update s k (some ⟨v, none⟩)
  | .set k v => Function.update s k ((s k).map fun c => { c with value := v })
  | .acquire k p sync => Function.update s k ((s k).map (Cell.acquire render p sync))
  | .release k => Function.update s k ((s k).map Cell.release)
  | .skip => s

/-- When a move can happen: only settings that are not taken over are set or leased. -/
def Legal (s : State κ ν π) : Move κ ν π → Prop
  | .create k _ => s k = none
  | .set k _ => ∃ c, s k = some c ∧ ¬ c.Held
  | .acquire k _ _ => ∃ c, s k = some c ∧ ¬ c.Held
  | .release k => ∃ c h, s k = some c ∧ c.hold = some h
  | .skip => True

/-! ### The value from before the lease -/

/-- The value of the setting before its last lease, and whether that lease replaced it. -/
abbrev Takeovers (κ ν : Type*) := κ → Option (ν × Bool)

/-- The takeovers after a move. -/
def takeover (s : State κ ν π) (before : Takeovers κ ν) : Move κ ν π → Takeovers κ ν
  | .acquire k _ sync => Function.update before k ((s k).map fun c => (c.value, sync))
  | _ => before

/-- Every lease keeps the value from before it; while it is active the setting shows the value
computed from the resource, or still the one from before. -/
def Backed (s : State κ ν π) (before : Takeovers κ ν) : Prop :=
  ∀ k c h, s k = some c → c.hold = some h → ∃ v sync, before k = some (v, sync) ∧ h.saved = v ∧
    (h.active = true → c.value = if sync then render h.port else v)

/-- Legal moves keep every lease backed. -/
theorem backed_apply {s : State κ ν π} {before : Takeovers κ ν} {m : Move κ ν π}
    (hl : Legal s m) (hb : Backed render s before) :
    Backed render (apply render s m) (takeover s before m) := by
  intro k c h hc hh
  cases m with
  | skip => exact hb k c h hc hh
  | create k' v =>
      by_cases hk : k = k'
      · subst hk
        obtain rfl : c = ⟨v, none⟩ := by simpa [apply, eq_comm] using hc
        simp at hh
      · exact hb k c h (by simpa [apply, hk] using hc) hh
  | set k' v =>
      by_cases hk : k = k'
      · subst hk
        obtain ⟨c₀, hc₀, hfree⟩ := hl
        obtain rfl : { c₀ with value := v } = c := by simpa [apply, hc₀] using hc
        obtain ⟨v₀, sync, hbefore, hsaved, -⟩ := hb k c₀ h hc₀ hh
        -- the setting was not taken over, so there is nothing it has to show
        exact ⟨v₀, sync, hbefore, hsaved, fun ha => absurd ⟨h, hh, ha⟩ hfree⟩
      · exact hb k c h (by simpa [apply, hk] using hc) hh
  | acquire k' p sync =>
      by_cases hk : k = k'
      · subst hk
        obtain ⟨c₀, hc₀, -⟩ := hl
        obtain rfl : c₀.acquire render p sync = c := by simpa [apply, hc₀] using hc
        obtain rfl : (⟨p, true, c₀.value⟩ : Hold ν π) = h := by simpa [Cell.acquire] using hh
        exact ⟨c₀.value, sync, by simp [takeover, hc₀], rfl, fun _ => rfl⟩
      · obtain ⟨v₀, sync₀, hbefore, hrest⟩ := hb k c h (by simpa [apply, hk] using hc) hh
        exact ⟨v₀, sync₀, by simpa [takeover, hk] using hbefore, hrest⟩
  | release k' =>
      by_cases hk : k = k'
      · subst hk
        obtain ⟨c₀, h₀, hc₀, hh₀⟩ := hl
        obtain rfl : c₀.release = c := by simpa [apply, hc₀] using hc
        obtain rfl : { h₀ with active := false } = h := by simpa [Cell.release, hh₀] using hh
        obtain ⟨v₀, sync, hbefore, hsaved, -⟩ := hb k c₀ h₀ hc₀ hh₀
        exact ⟨v₀, sync, hbefore, hsaved, fun ha => by simp at ha⟩
      · exact hb k c h (by simpa [apply, hk] using hc) hh

/-! ### The last value the owner set -/

/-- The values the owners declared after a move. -/
def declare (declared : κ → ν) : Move κ ν π → κ → ν
  | .create k v | .set k v => Function.update declared k v
  | _ => declared

/-- A setting that is not taken over shows the value its owner set last. -/
def Settled (s : State κ ν π) (declared : κ → ν) : Prop :=
  ∀ k c, s k = some c → ¬ c.Held → c.value = declared k

/-- A setting that is taken over keeps the value its owner set last. -/
def Covered (s : State κ ν π) (declared : κ → ν) : Prop :=
  ∀ k c h, s k = some c → c.hold = some h → h.active = true → h.saved = declared k

/-- The move does not release an inactive lease over a newer value. -/
def Guarded (s : State κ ν π) : Move κ ν π → Prop
  | .release k => ∀ c h, s k = some c → c.hold = some h → h.active = true ∨ h.saved = c.value
  | _ => True

variable {render} {s : State κ ν π} {declared : κ → ν} {m : Move κ ν π}

/-- From a settled state, legal moves keep the last values under every active lease. -/
theorem covered_apply (hl : Legal s m) (hs : Settled s declared) (hcov : Covered s declared) :
    Covered (apply render s m) (declare declared m) := by
  intro k c h hc hh ha
  cases m with
  | skip => exact hcov k c h hc hh ha
  | create k' v =>
      by_cases hk : k = k'
      · subst hk
        obtain rfl : c = ⟨v, none⟩ := by simpa [apply, eq_comm] using hc
        simp at hh
      · simpa [declare, hk] using hcov k c h (by simpa [apply, hk] using hc) hh ha
  | set k' v =>
      by_cases hk : k = k'
      · subst hk
        obtain ⟨c₀, hc₀, hfree⟩ := hl
        obtain rfl : { c₀ with value := v } = c := by simpa [apply, hc₀] using hc
        exact absurd ⟨h, hh, ha⟩ hfree
      · simpa [declare, hk] using hcov k c h (by simpa [apply, hk] using hc) hh ha
  | acquire k' p sync =>
      by_cases hk : k = k'
      · subst hk
        obtain ⟨c₀, hc₀, hfree⟩ := hl
        obtain rfl : c₀.acquire render p sync = c := by simpa [apply, hc₀] using hc
        obtain rfl : (⟨p, true, c₀.value⟩ : Hold ν π) = h := by simpa [Cell.acquire] using hh
        -- the value kept aside is the one the setting showed, which was settled
        exact hs k c₀ hc₀ hfree
      · exact hcov k c h (by simpa [apply, hk] using hc) hh ha
  | release k' =>
      by_cases hk : k = k'
      · subst hk
        obtain ⟨c₀, h₀, hc₀, hh₀⟩ := hl
        obtain rfl : c₀.release = c := by simpa [apply, hc₀] using hc
        obtain rfl : { h₀ with active := false } = h := by simpa [Cell.release, hh₀] using hh
        simp at ha
      · exact hcov k c h (by simpa [apply, hk] using hc) hh ha

omit [DecidableEq κ] in
/-- What a release does to a settled setting: it stays settled exactly when the lease was active
or kept the value the setting shows. -/
theorem release_settled_iff {k : κ} {c : Cell ν π} {h : Hold ν π} (hc : s k = some c)
    (hh : c.hold = some h) (hs : Settled s declared) (hcov : Covered s declared) :
    h.saved = declared k ↔ h.active = true ∨ h.saved = c.value := by
  by_cases ha : h.active = true
  · simp [ha, hcov k c h hc hh ha]
  · have hfree : ¬ c.Held := by
      intro hheld
      obtain ⟨h', hh', ha'⟩ := hheld
      obtain rfl : h = h' := by simpa [hh] using hh'
      exact ha ha'
    simp [ha, hs k c hc hfree]

/-- **From a settled state, a legal move ends in a settled state exactly when it does not release
an inactive lease over a newer value.** -/
theorem settled_apply_iff (hl : Legal s m) (hs : Settled s declared) (hcov : Covered s declared) :
    Settled (apply render s m) (declare declared m) ↔ Guarded s m := by
  cases m with
  | skip => simpa [apply, declare, Guarded] using hs
  | create k' v =>
      simp only [Guarded, iff_true]
      intro k c hc hfree
      by_cases hk : k = k'
      · subst hk
        obtain rfl : c = ⟨v, none⟩ := by simpa [apply, eq_comm] using hc
        simp [declare]
      · simpa [declare, hk] using hs k c (by simpa [apply, hk] using hc) hfree
  | set k' v =>
      simp only [Guarded, iff_true]
      intro k c hc hfree
      by_cases hk : k = k'
      · subst hk
        obtain ⟨c₀, hc₀, -⟩ := hl
        obtain rfl : { c₀ with value := v } = c := by simpa [apply, hc₀] using hc
        simp [declare]
      · simpa [declare, hk] using hs k c (by simpa [apply, hk] using hc) hfree
  | acquire k' p sync =>
      simp only [Guarded, iff_true]
      intro k c hc hfree
      by_cases hk : k = k'
      · subst hk
        obtain ⟨c₀, hc₀, -⟩ := hl
        obtain rfl : c₀.acquire render p sync = c := by simpa [apply, hc₀] using hc
        exact absurd ⟨_, rfl, rfl⟩ hfree
      · exact hs k c (by simpa [apply, hk] using hc) hfree
  | release k' =>
      obtain ⟨c₀, h₀, hc₀, hh₀⟩ := hl
      have hrel : c₀.release = ⟨h₀.saved, some { h₀ with active := false }⟩ := by
        simp [Cell.release, hh₀]
      have key := release_settled_iff hc₀ hh₀ hs hcov
      constructor
      · intro h c h' hc hh'
        obtain rfl : c₀ = c := by simpa [hc₀] using hc
        obtain rfl : h₀ = h' := by simpa [hh₀] using hh'
        have hfree : ¬ c₀.release.Held := by
          intro hheld
          obtain ⟨h', hh', ha⟩ := hheld
          obtain rfl : { h₀ with active := false } = h' := by simpa [hrel] using hh'
          simp at ha
        have hvalue := h k' c₀.release (by simp [apply, hc₀]) hfree
        rw [hrel] at hvalue
        exact key.1 hvalue
      · intro hg k c hc hfree
        by_cases hk : k = k'
        · subst hk
          obtain rfl : c₀.release = c := by simpa [apply, hc₀] using hc
          rw [hrel]
          exact key.2 (hg c₀ h₀ hc₀ hh₀)
        · exact hs k c (by simpa [apply, hk] using hc) hfree

end

end Leases
