/-
**The text of a JSON value.**

`json.dumps` without `ensure_ascii` copies the characters of a value into its text, so the text can
be encoded exactly if the value holds no lone surrogate.  A text that can be encoded is determined
by its encoding.

Main definitions:

* `Py.Encodable` — a text without lone surrogates;
* `Py.Json.strings` — the texts and the keys of a value, at every level.

Main results:

* `Py.encode_eq_some_iff`, `Py.encode_isSome_iff` — which texts can be encoded, and as what;
* `Py.Runtime.encodable_dumps` — **the text of a value can be encoded exactly if its texts and keys
  can.**
-/

import SmsForwarder.PyText

set_option relaxedAutoImplicit false
set_option autoImplicit false

namespace Py

/-! ### Encodable texts -/

/-- Every code point of the text is a character: there is no lone surrogate. -/
def Encodable (s : Str) : Prop := ∀ p ∈ s, p.val.isValidChar

theorem encodable_cons {p : CodePoint} {s : Str} :
    Encodable (p :: s) ↔ p.val.isValidChar ∧ Encodable s := List.forall_mem_cons

theorem encodable_append {s t : Str} : Encodable (s ++ t) ↔ Encodable s ∧ Encodable t :=
  List.forall_mem_append

theorem encodable_flatMap {α : Type} {f : α → Str} {xs : List α} :
    Encodable (xs.flatMap f) ↔ ∀ x ∈ xs, Encodable (f x) := by
  unfold Encodable
  simp only [List.mem_flatMap, forall_exists_index, and_imp]
  exact ⟨fun h x hx p hp => h p x hx hp, fun h p x hx hp => h x hx p hp⟩

theorem isValidChar_ofChar (c : Char) : (ofChar c).val.isValidChar := by
  rw [val_ofChar]
  exact c.valid

/-- Literals are encodable. -/
@[simp] theorem encodable_py (s : String) : Encodable (py s) := by
  intro p hp
  obtain ⟨c, -, rfl⟩ := List.mem_map.1 hp
  exact isValidChar_ofChar c

theorem ofChar_of_toChar? {p : CodePoint} {c : Char} (h : toChar? p = some c) : ofChar c = p := by
  unfold toChar? at h
  split at h
  · rename_i hvalid
    obtain rfl := Option.some.inj h
    refine Fin.ext ?_
    rw [val_ofChar]
    unfold Char.ofNat
    rw [dif_pos hvalid]
    rfl
  · simp at h

theorem eq_of_chars? {s : Str} {cs : List Char} (h : chars? s = some cs) : s = cs.map ofChar := by
  induction s generalizing cs with
  | nil =>
      obtain rfl := Option.some.inj h
      rfl
  | cons p s ih =>
      unfold chars? at h
      split at h
      · rename_i c cs' hc hcs
        obtain rfl := Option.some.inj h
        rw [List.map_cons, ofChar_of_toChar? hc, ← ih hcs]
      · simp at h

/-- A text that can be encoded is determined by its encoding. -/
theorem encode_eq_some_iff {s : Str} {t : String} : encode s = some t ↔ s = py t := by
  constructor
  · intro h
    obtain ⟨cs, hcs, rfl⟩ := Option.map_eq_some_iff.1 h
    rw [eq_of_chars? hcs, py, String.toList_ofList]
  · rintro rfl
    exact encode_py t

theorem exists_chars? {s : Str} (h : Encodable s) : ∃ cs, chars? s = some cs := by
  induction s with
  | nil => exact ⟨[], rfl⟩
  | cons p s ih =>
      obtain ⟨hp, hs⟩ := encodable_cons.1 h
      obtain ⟨cs, hcs⟩ := ih hs
      refine ⟨Char.ofNat p.val :: cs, ?_⟩
      simp [chars?, toChar?, hp, hcs]

/-- Which texts can be encoded. -/
theorem encode_isSome_iff {s : Str} : (encode s).isSome = true ↔ Encodable s := by
  constructor
  · intro h
    obtain ⟨t, ht⟩ := Option.isSome_iff_exists.1 h
    rw [encode_eq_some_iff.1 ht]
    exact encodable_py t
  · intro h
    obtain ⟨cs, hcs⟩ := exists_chars? h
    unfold encode
    rw [hcs]
    rfl

/-! ### The texts in a value -/

namespace Json

mutual

/-- The texts and the keys of a value, at every level. -/
def strings : Json → List Str
  | .str s => [s]
  | .arr xs => stringsItems xs
  | .obj kvs => stringsFields kvs
  | _ => []

/-- The texts and the keys in the items of an array. -/
def stringsItems : List Json → List Str
  | [] => []
  | x :: xs => strings x ++ stringsItems xs

/-- The texts and the keys in the items of an object. -/
def stringsFields : List (Str × Json) → List Str
  | [] => []
  | (key, item) :: kvs => key :: (strings item ++ stringsFields kvs)

end

theorem stringsItems_eq (xs : List Json) : stringsItems xs = xs.flatMap strings := by
  induction xs with
  | nil => rfl
  | cons x xs ih => rw [stringsItems, ih, List.flatMap_cons]

theorem stringsFields_eq (kvs : List (Str × Json)) :
    stringsFields kvs = kvs.flatMap fun kv => kv.1 :: strings kv.2 := by
  induction kvs with
  | nil => rfl
  | cons kv kvs ih => rw [stringsFields, ih, List.flatMap_cons, List.cons_append]

theorem mem_strings_arr {xs : List Json} {s : Str} :
    s ∈ strings (.arr xs) ↔ ∃ x ∈ xs, s ∈ strings x := by
  rw [strings, stringsItems_eq, List.mem_flatMap]

theorem mem_strings_obj {kvs : List (Str × Json)} {s : Str} :
    s ∈ strings (.obj kvs) ↔ ∃ kv ∈ kvs, s = kv.1 ∨ s ∈ strings kv.2 := by
  rw [strings, stringsFields_eq, List.mem_flatMap]
  simp only [List.mem_cons]

/-- No text and no key of the value holds a lone surrogate. -/
def Encodable (v : Json) : Prop := ∀ s ∈ v.strings, Py.Encodable s

end Json

/-! ### The text of a value -/

namespace Runtime

variable {rt : Runtime}

theorem dumpsItems_eq (xs : List Json) : rt.dumpsItems xs = xs.map rt.dumps := by
  induction xs with
  | nil => rfl
  | cons x xs ih => rw [dumpsItems, ih, List.map_cons]

theorem dumpsFields_eq (kvs : List (Str × Json)) :
    rt.dumpsFields kvs = kvs.map fun kv => (kv.1, rt.dumps kv.2) := by
  induction kvs with
  | nil => rfl
  | cons kv kvs ih => rw [dumpsFields, ih, List.map_cons]

/-- Escaping a code point brings in ASCII only. -/
theorem encodable_escapeCodePoint {p : CodePoint} :
    Py.Encodable (escapeCodePoint p) ↔ p.val.isValidChar := by
  have hquote : (ofChar '"').val.isValidChar := isValidChar_ofChar '"'
  have hslash : (ofChar '\\').val.isValidChar := isValidChar_ofChar '\\'
  have hsmall : p.val < 32 → p.val.isValidChar := fun h => Or.inl (by omega)
  have hdigit : ∀ n < 16, (hexDigit n).val.isValidChar := by decide
  unfold escapeCodePoint
  split_ifs with h₁ h₂ h₃ h₄ h₅ h₆ h₇ h₈
  · exact iff_of_true (encodable_py _) (h₁ ▸ hquote)
  · exact iff_of_true (encodable_py _) (h₂ ▸ hslash)
  · exact iff_of_true (encodable_py _) (hsmall (by omega))
  · exact iff_of_true (encodable_py _) (hsmall (by omega))
  · exact iff_of_true (encodable_py _) (hsmall (by omega))
  · exact iff_of_true (encodable_py _) (hsmall (by omega))
  · exact iff_of_true (encodable_py _) (hsmall (by omega))
  · refine iff_of_true (encodable_append.2 ⟨encodable_py _, ?_⟩) (hsmall h₈)
    intro q hq
    simp only [List.mem_cons, List.not_mem_nil, or_false] at hq
    rcases hq with rfl | rfl
    · exact hdigit _ (by omega)
    · exact hdigit _ (by omega)
  · simp [Py.Encodable]

theorem encodable_quote {s : Str} : Py.Encodable (quote s) ↔ Py.Encodable s := by
  unfold quote
  rw [encodable_append, encodable_append, encodable_flatMap]
  simp only [encodable_py, encodable_escapeCodePoint, true_and, and_true]
  rfl

theorem encodable_intercalate {sep : Str} (hsep : Py.Encodable sep) {texts : List Str} :
    Py.Encodable (sep.intercalate texts) ↔ ∀ t ∈ texts, Py.Encodable t := by
  induction texts with
  | nil => simp [Py.Encodable]
  | cons t texts ih =>
      cases texts with
      | nil => simp
      | cons t' texts =>
          rw [List.intercalate_cons_cons, encodable_append, encodable_append, ih,
            List.forall_mem_cons (a := t)]
          simp [hsep]

/-- The text of an object holds its keys and the texts of its items. -/
theorem encodable_dumpsObject {fields : List (Str × Str)} :
    Py.Encodable (dumpsObject fields) ↔
      ∀ kv ∈ fields, Py.Encodable kv.1 ∧ Py.Encodable kv.2 := by
  unfold dumpsObject
  simp only [encodable_append, encodable_py, true_and, and_true,
    encodable_intercalate (encodable_py ", "), List.forall_mem_map, encodable_quote]
  constructor
  · exact fun h kv hkv => h kv ((List.mem_insertionSort _).2 hkv)
  · exact fun h kv hkv => h kv ((List.mem_insertionSort _).1 hkv)

theorem encodable_dumpsNumber (hfloat : ∀ neg m e, Py.Encodable (rt.floatRepr neg m e))
    (n : Number) : Py.Encodable (rt.dumpsNumber n) := by
  cases n with
  | int z => exact encodable_py _
  | float x =>
      cases x with
      | nan => exact encodable_py _
      | inf neg => cases neg <;> exact encodable_py _
      | finite neg m e =>
          cases m with
          | zero => cases neg <;> exact encodable_py _
          | succ m => cases neg <;> exact hfloat _ (m + 1) e

/-- **The text of a value** can be encoded exactly if its texts and keys can. -/
theorem encodable_dumps (hfloat : ∀ neg m e, Py.Encodable (rt.floatRepr neg m e)) (v : Json) :
    Py.Encodable (rt.dumps v) ↔ v.Encodable := by
  induction v using Json.ind with
  | null => simp [dumps, Json.Encodable, Json.strings]
  | bool b => cases b <;> simp [dumps, Json.Encodable, Json.strings]
  | num n => simp [dumps, Json.Encodable, Json.strings, encodable_dumpsNumber hfloat n]
  | str s => simp [dumps, Json.Encodable, Json.strings, encodable_quote]
  | arr xs ih =>
      rw [dumps, encodable_append, encodable_append, dumpsItems_eq,
        encodable_intercalate (encodable_py ", "), List.forall_mem_map]
      simp only [encodable_py, true_and, and_true, Json.Encodable, Json.mem_strings_arr,
        forall_exists_index, and_imp]
      constructor
      · exact fun h s x hx hs => (ih x hx).1 (h x hx) s hs
      · exact fun h x hx => (ih x hx).2 fun s hs => h s x hx hs
  | obj kvs ih =>
      rw [dumps, encodable_dumpsObject, dumpsFields_eq, List.forall_mem_map]
      simp only [Json.Encodable, Json.mem_strings_obj, forall_exists_index, and_imp]
      constructor
      · rintro h s kv hkv (rfl | hs)
        · exact (h kv hkv).1
        · exact (ih kv hkv).1 (h kv hkv).2 s hs
      · exact fun h kv hkv => ⟨h kv.1 kv hkv (Or.inl rfl),
          (ih kv hkv).2 fun s hs => h s kv hkv (Or.inr hs)⟩

end Runtime

end Py
