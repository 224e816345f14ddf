/-
**Texts that can be read in one way only.**

A printer is unambiguous if the text of a value tells the value and where its text ends, whatever
comes next.  This module has the notion for one value, so that it can be proved by induction over
nested values, up to a relation that says which values are the same, and the rules for sequences and
for separated lists.

Main definitions:

* `Readings.Ends` — what comes next starts with a character of a class, or there is nothing;
* `Readings.Readable` — the text of a value can be read in one way only.

Main results:

* `Readings.readable_of_class` — texts without a character of the class that ends them;
* `Readings.Readable.seq` — one text after the other;
* `Readings.readable_joined` — **items with a separator between them and a bracket at the end.**
-/

import Mathlib.Data.List.Basic
import Mathlib.Data.List.Forall2

set_option relaxedAutoImplicit false
set_option autoImplicit false

namespace Readings

variable {α β χ : Type*}

/-- What comes next starts with a character of the class, or there is nothing. -/
def Ends (p : χ → Prop) (rest : List χ) : Prop := ∀ c ∈ rest.head?, p c

theorem ends_cons {p : χ → Prop} {c : χ} {rest : List χ} : Ends p (c :: rest) ↔ p c := by
  simp [Ends]

theorem ends_nil {p : χ → Prop} : Ends p ([] : List χ) := by
  simp [Ends]

/-- The text of `a`, followed by something that may follow, is that of no other value of the domain,
followed by something that may follow. -/
def Readable (dom : α → Prop) (same : α → α → Prop) (next : List χ → Prop) (text : α → List χ)
    (a : α) : Prop :=
  ∀ b, dom b → ∀ r r', next r → next r' → text a ++ r = text b ++ r' → same a b ∧ r = r'

/-- A text without a character of the class ends where such a character comes. -/
theorem append_inj_of_ends {p : χ → Prop} {l l' r r' : List χ} (hl : ∀ c ∈ l, ¬ p c)
    (hl' : ∀ c ∈ l', ¬ p c) (hr : Ends p r) (hr' : Ends p r') (h : l ++ r = l' ++ r') :
    l = l' ∧ r = r' := by
  induction l generalizing l' with
  | nil =>
      cases l' with
      | nil => exact ⟨rfl, h⟩
      | cons c l' =>
          rw [List.nil_append, List.cons_append] at h
          rw [h] at hr
          exact absurd (ends_cons.1 hr) (hl' c List.mem_cons_self)
  | cons c l ih =>
      cases l' with
      | nil =>
          rw [List.nil_append, List.cons_append] at h
          rw [← h] at hr'
          exact absurd (ends_cons.1 hr') (hl c List.mem_cons_self)
      | cons c' l' =>
          rw [List.cons_append, List.cons_append, List.cons.injEq] at h
          obtain ⟨rfl, h⟩ := h
          obtain ⟨rfl, hrest⟩ := ih (fun d hd => hl d (List.mem_cons_of_mem _ hd))
            (fun d hd => hl' d (List.mem_cons_of_mem _ hd)) h
          exact ⟨rfl, hrest⟩

/-- Texts without a character of the class that ends them. -/
theorem readable_of_class {dom : α → Prop} {same : α → α → Prop} {text : α → List χ}
    {p : χ → Prop} {a : α} (hplain : ∀ b, ∀ c ∈ text b, ¬ p c)
    (hsame : ∀ b, dom b → text a = text b → same a b) : Readable dom same (Ends p) text a := by
  intro b hb r r' hr hr' h
  obtain ⟨htext, hrest⟩ := append_inj_of_ends (hplain a) (hplain b) hr hr' h
  exact ⟨hsame b hb htext, hrest⟩

/-- One text after the other. -/
theorem Readable.seq {dom : α → Prop} {same : α → α → Prop} {dom' : β → Prop}
    {same' : β → β → Prop} {next next' : List χ → Prop} {text : α → List χ} {text' : β → List χ}
    {a : α × β} (h : Readable dom same next text a.1) (h' : Readable dom' same' next' text' a.2)
    (hnext : ∀ b r, next' r → next (text' b ++ r)) :
    Readable (fun b => dom b.1 ∧ dom' b.2) (fun a b => same a.1 b.1 ∧ same' a.2 b.2) next'
      (fun a => text a.1 ++ text' a.2) a := by
  intro b hb r r' hr hr' heq
  rw [List.append_assoc, List.append_assoc] at heq
  obtain ⟨hfirst, heq⟩ := h b.1 hb.1 _ _ (hnext a.2 r hr) (hnext b.2 r' hr') heq
  obtain ⟨hsecond, hrest⟩ := h' b.2 hb.2 r r' hr hr' heq
  exact ⟨⟨hfirst, hsecond⟩, hrest⟩

/-! ### Separated lists -/

section

variable {dom : α → Prop} {same : α → α → Prop} {next : List χ → Prop} {text : α → List χ}
  {sep : List χ} {close : χ}

/-- What comes after the first item of a list: the other items, each with the separator in front, and
the bracket. -/
def others (text : α → List χ) (sep : List χ) (close : χ) (xs : List α) : List χ :=
  xs.flatMap (fun x => sep ++ text x) ++ [close]

/-- The items of a list with the separator between them, and the bracket. -/
def joined (text : α → List χ) (sep : List χ) (close : χ) (xs : List α) : List χ :=
  sep.intercalate (xs.map text) ++ [close]

theorem others_cons (x : α) (xs : List α) (r : List χ) :
    others text sep close (x :: xs) ++ r = sep ++ (text x ++ (others text sep close xs ++ r)) := by
  unfold others
  simp only [List.flatMap_cons, List.append_assoc]

theorem joined_cons (x : α) (xs : List α) (r : List χ) :
    joined text sep close (x :: xs) ++ r = text x ++ (others text sep close xs ++ r) := by
  have hitems : ∀ x, sep.intercalate ((x :: xs).map text) =
      text x ++ xs.flatMap (fun y => sep ++ text y) := by
    induction xs with
    | nil => simp
    | cons y xs ih =>
        intro x
        rw [List.map_cons, List.map_cons, List.intercalate_cons_cons, ← List.map_cons, ih y,
          List.flatMap_cons]
        simp only [List.append_assoc]
  unfold joined others
  rw [hitems]
  simp only [List.append_assoc]

/-- What comes after an item starts with the separator or with the bracket. -/
theorem next_others (hsep : ∀ r, next (sep ++ r)) (hclose : ∀ r, next (close :: r)) (xs : List α)
    (r : List χ) : next (others text sep close xs ++ r) := by
  cases xs with
  | nil => exact hclose r
  | cons x xs =>
      rw [others_cons]
      exact hsep _

/-- The items after the first one can be read in one way only. -/
theorem readable_others (hne : ∀ r r', close :: r ≠ sep ++ r') (hsep : ∀ r, next (sep ++ r))
    (hclose : ∀ r, next (close :: r)) {xs : List α}
    (hxs : ∀ x ∈ xs, Readable dom same next text x) :
    Readable (fun ys => ∀ y ∈ ys, dom y) (List.Forall₂ same) (fun _ => True)
      (others text sep close) xs := by
  induction xs with
  | nil =>
      intro ys _ r r' _ _ h
      cases ys with
      | nil => exact ⟨List.Forall₂.nil, (List.cons.inj h).2⟩
      | cons y ys =>
          rw [others_cons] at h
          exact absurd h (hne _ _)
  | cons x xs ih =>
      intro ys hys r r' _ _ h
      cases ys with
      | nil =>
          rw [others_cons] at h
          exact absurd h.symm (hne _ _)
      | cons y ys =>
          rw [others_cons, others_cons] at h
          obtain ⟨hxy, h⟩ := hxs x List.mem_cons_self y (hys y List.mem_cons_self) _ _
            (next_others hsep hclose xs r) (next_others hsep hclose ys r')
            (List.append_cancel_left h)
          obtain ⟨hrest, hr⟩ := ih (fun z hz => hxs z (List.mem_cons_of_mem _ hz)) ys
            (fun z hz => hys z (List.mem_cons_of_mem _ hz)) r r' trivial trivial h
          exact ⟨List.Forall₂.cons hxy hrest, hr⟩

/-- **A separated list** can be read in one way only if its items can, no item starts with the
bracket, and neither does the separator. -/
theorem readable_joined (hne : ∀ r r', close :: r ≠ sep ++ r') (hsep : ∀ r, next (sep ++ r))
    (hclose : ∀ r, next (close :: r)) (hopen : ∀ x r r', close :: r ≠ text x ++ r')
    {xs : List α} (hxs : ∀ x ∈ xs, Readable dom same next text x) :
    Readable (fun ys => ∀ y ∈ ys, dom y) (List.Forall₂ same) (fun _ => True)
      (joined text sep close) xs := by
  intro ys hys r r' _ _ h
  cases xs with
  | nil =>
      cases ys with
      | nil => exact ⟨List.Forall₂.nil, (List.cons.inj h).2⟩
      | cons y ys =>
          rw [joined_cons] at h
          exact absurd h (hopen y _ _)
  | cons x xs =>
      cases ys with
      | nil =>
          rw [joined_cons] at h
          exact absurd h.symm (hopen x _ _)
      | cons y ys =>
          rw [joined_cons, joined_cons] at h
          obtain ⟨hxy, h⟩ := hxs x List.mem_cons_self y (hys y List.mem_cons_self) _ _
            (next_others hsep hclose xs r) (next_others hsep hclose ys r') h
          obtain ⟨hrest, hr⟩ := readable_others hne hsep hclose
            (fun z hz => hxs z (List.mem_cons_of_mem _ hz)) ys
            (fun z hz => hys z (List.mem_cons_of_mem _ hz)) r r' trivial trivial h
          exact ⟨List.Forall₂.cons hxy hrest, hr⟩

end

end Readings
