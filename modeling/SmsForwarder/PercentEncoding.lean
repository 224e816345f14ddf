/-
**Percent-encoding.**

A byte that is not the code of an unreserved character is written as a percent sign and two
hexadecimal digits, and every byte can be read back.

Main definitions:

* `PercentEncoding.unreserved` — the characters that stay;
* `PercentEncoding.quote`, `PercentEncoding.unquote` — bytes as text, and back.

Main results:

* `PercentEncoding.unquote_quote` — **the bytes are read back.**
-/

import Mathlib.Data.Fin.Basic
import Mathlib.Data.Fintype.Basic
import Mathlib.Tactic.Common

set_option relaxedAutoImplicit false
set_option autoImplicit false

namespace PercentEncoding

/-- The characters that `quote` leaves alone whatever it is told. -/
def unreserved (c : Char) : Bool := c.isAlphanum || c ∈ ['_', '.', '-', '~']

def hexDigits : List Char := "0123456789ABCDEF".toList

def hexDigit (n : Fin 16) : Char := hexDigits.get (n.cast (by decide))

def hexValue (c : Char) : Option (Fin 16) :=
  if h : c ∈ hexDigits then
    some ⟨hexDigits.idxOf c, (by decide : hexDigits.length = 16) ▸ List.idxOf_lt_length_of_mem h⟩
  else none

@[simp] theorem hexValue_hexDigit (n : Fin 16) : hexValue (hexDigit n) = some n := by
  revert n
  decide

def highDigit (b : Fin 256) : Fin 16 := ⟨b / 16, by omega⟩

def lowDigit (b : Fin 256) : Fin 16 := ⟨b % 16, by omega⟩

def byteOf (high low : Fin 16) : Fin 256 := ⟨high * 16 + low, by omega⟩

@[simp] theorem byteOf_digits (b : Fin 256) : byteOf (highDigit b) (lowDigit b) = b := by
  refine Fin.ext ?_
  simp only [byteOf, highDigit, lowDigit]
  omega

/-- The text of a byte. -/
def quoteByte (b : Fin 256) : List Char :=
  if unreserved (Char.ofNat b) then [Char.ofNat b]
  else ['%', hexDigit (highDigit b), hexDigit (lowDigit b)]

/-- The text of bytes, with no character safe but the unreserved ones. -/
def quote (bytes : List (Fin 256)) : List Char := bytes.flatMap quoteByte

/-- The bytes of a text, if the percent signs in it are those of `quote`. -/
def unquote : List Char → Option (List (Fin 256))
  | [] => some []
  | c :: rest =>
      if c = '%' then
        match rest with
        | h :: l :: rest => do
            let high ← hexValue h
            let low ← hexValue l
            let bytes ← unquote rest
            return byteOf high low :: bytes
        | _ => none
      else if h : c.toNat < 256 then do
        let bytes ← unquote rest
        return ⟨c.toNat, h⟩ :: bytes
      else none

/-- An unreserved character is the one of its code, and no percent sign. -/
theorem code_of_unreserved :
    ∀ b : Fin 256, unreserved (Char.ofNat b) = true →
      (Char.ofNat b).toNat = b ∧ Char.ofNat b ≠ '%' := by
  decide +kernel

theorem unquote_of_ne {c : Char} {text : List Char} (hne : c ≠ '%') (h : c.toNat < 256) :
    unquote (c :: text) = (unquote text).map (⟨c.toNat, h⟩ :: ·) := by
  rw [unquote.eq_def]
  simp only [if_neg hne, dif_pos h]
  cases unquote text <;> rfl

theorem unquote_quoteByte (b : Fin 256) (text : List Char) :
    unquote (quoteByte b ++ text) = (unquote text).map (b :: ·) := by
  unfold quoteByte
  split
  · rename_i h
    obtain ⟨hcode, hne⟩ := code_of_unreserved b h
    have hlt : (Char.ofNat b).toNat < 256 := by
      rw [hcode]
      exact b.isLt
    have hbyte : (⟨(Char.ofNat b).toNat, hlt⟩ : Fin 256) = b := Fin.ext hcode
    rw [List.singleton_append, unquote_of_ne hne hlt, hbyte]
  · simp only [List.cons_append, List.nil_append, unquote, if_pos, hexValue_hexDigit,
      Option.bind_eq_bind, Option.bind_some, byteOf_digits]
    cases unquote text <;> rfl

/-- **The bytes are read back.** -/
theorem unquote_quote (bytes : List (Fin 256)) : unquote (quote bytes) = some bytes := by
  induction bytes with
  | nil => rfl
  | cons b bytes ih =>
      have hquote : quote (b :: bytes) = quoteByte b ++ quote bytes := rfl
      rw [hquote, unquote_quoteByte, ih]
      rfl

end PercentEncoding
