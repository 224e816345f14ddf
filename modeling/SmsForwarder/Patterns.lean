/-
**Patterns and substitution.**

A pattern is a sequence of pieces: a number of characters of one class, captured or not, and
assertions about the characters around a position.  There are no alternatives and no open-ended
repetitions, so a pattern matches at a position in at most one way.

The substitution scans a text from left to right.  Where the pattern matches, the match is replaced
and the scan goes on behind it; the assertions look at the text as it was, so right behind a match
they see the last character of the match and not of its replacement.

Main definitions:

* `Patterns.Piece`, `Patterns.matchAt` — the pieces, and the match at a position;
* `Patterns.Part`, `Patterns.expand` — the replacement, made of texts and groups;
* `Patterns.sub` — the substitution, for a pattern that takes at least one character.

Main results:

* `Patterns.subFrom_skip` — inside a match the scan only moves on;
* `Patterns.subFrom_match`, `Patterns.subFrom_copy` — where the pattern matches, and where not.
-/

import Mathlib.Data.List.Basic

set_option relaxedAutoImplicit false
set_option autoImplicit false

namespace Patterns

variable {α : Type*}

/-- A piece of a pattern: `(?<!p)`, `(?!p)`, `p{n}` and `(p{n})`. -/
inductive Piece (α : Type*)
  | notBehind (p : α → Bool)
  | notAhead (p : α → Bool)
  | chars (p : α → Bool) (n : ℕ)
  | group (p : α → Bool) (n : ℕ)

/-- The groups of a match, in order, and its length. -/
structure Match (α : Type*) where
  groups : List (List α)
  length : ℕ

/-- The text starts with `n` characters of the class. -/
def startsWith (p : α → Bool) (n : ℕ) (s : List α) : Bool := n ≤ s.length && (s.take n).all p

/-- The match of a pattern at the start of `s`; `prev` is the character before it. -/
def matchAt : List (Piece α) → Option α → List α → Option (Match α)
  | [], _, _ => some ⟨[], 0⟩
  | .notBehind p :: ps, prev, s => if prev.any p then none else matchAt ps prev s
  | .notAhead p :: ps, prev, s => if s.head?.any p then none else matchAt ps prev s
  | .chars p n :: ps, prev, s =>
      if startsWith p n s then
        (matchAt ps ((s.take n).getLast?.or prev) (s.drop n)).map fun m =>
          { m with length := n + m.length }
      else none
  | .group p n :: ps, prev, s =>
      if startsWith p n s then
        (matchAt ps ((s.take n).getLast?.or prev) (s.drop n)).map fun m =>
          { groups := s.take n :: m.groups, length := n + m.length }
      else none

/-- A part of a replacement: a text, or the group of a number, counted from one. -/
inductive Part (α : Type*)
  | text (s : List α)
  | group (i : ℕ)

/-- The text a replacement stands for. -/
def expand (groups : List (List α)) (parts : List (Part α)) : List α :=
  parts.flatMap fun
    | .text s => s
    | .group i => groups.getD (i - 1) []

/-- The scan.  `prev` is the character before the text, and `skip` counts the characters of the
current match that are still to come. -/
def subFrom (ps : List (Piece α)) (parts : List (Part α)) : Option α → ℕ → List α → List α
  | _, _, [] => []
  | _, skip + 1, c :: s => subFrom ps parts (some c) skip s
  | prev, 0, c :: s =>
      match matchAt ps prev (c :: s) with
      | none => c :: subFrom ps parts (some c) 0 s
      | some m => expand m.groups parts ++ subFrom ps parts (some c) (m.length - 1) s

/-- The text with every match replaced. -/
def sub (ps : List (Piece α)) (parts : List (Part α)) (s : List α) : List α :=
  subFrom ps parts none 0 s

section

variable {ps : List (Piece α)} {parts : List (Part α)} {prev : Option α} {s : List α}

/-- Inside a match the scan only moves on. -/
theorem subFrom_skip (prev : Option α) (run rest : List α) :
    subFrom ps parts prev run.length (run ++ rest) =
      subFrom ps parts (run.getLast?.or prev) 0 rest := by
  induction run generalizing prev with
  | nil => rfl
  | cons c run ih =>
      have hlast : run.getLast?.or (some c) = (c :: run).getLast?.or prev := by
        rw [List.getLast?_cons]
        cases run.getLast? <;> rfl
      rw [List.length_cons, List.cons_append, subFrom, ih, hlast]

/-- Where the pattern matches, the match is replaced. -/
theorem subFrom_match {c : α} {run rest : List α} {groups : List (List α)}
    (h : matchAt ps prev (c :: run ++ rest) = some ⟨groups, run.length + 1⟩) :
    subFrom ps parts prev 0 (c :: run ++ rest) =
      expand groups parts ++ subFrom ps parts (run.getLast?.or (some c)) 0 rest := by
  rw [List.cons_append] at h ⊢
  rw [subFrom, h]
  exact congrArg _ (subFrom_skip (some c) run rest)

/-- Where it does not, a character is copied. -/
theorem subFrom_copy {c : α} (h : matchAt ps prev (c :: s) = none) :
    subFrom ps parts prev 0 (c :: s) = c :: subFrom ps parts (some c) 0 s := by
  rw [subFrom, h]

end

end Patterns
