/-
**The text of a JSON value is canonical.**

`json.dumps` with `sort_keys` writes the items of every object in the order of their keys.  The text
of a value therefore does not depend on the order of the items of its objects, and it tells
everything else: the escapes of a text stand for one character each and never for the quotation mark
that ends it, and the brackets and commas around items occur in no number.

Main definitions:

* `Py.Json.Equiv` — the same tree up to the order of object keys at every level;
* `Py.Json.Wellformed` — what `json.loads` returns: the keys of an object are distinct, and every
  float is in its one representation;
* `Py.FloatFormat` — what is assumed of the texts of floats.

Main results:

* `Py.Runtime.dumps_of_equiv` — the order of items does not matter;
* `Py.Runtime.readable_dumps` — a text can be read in one way only;
* `Py.Runtime.dumps_eq_iff` — **two values have the same text exactly if they are the same tree up to
  the order of keys.**
-/

import SmsForwarder.JsonText
import SmsForwarder.Readings
import SmsForwarder.TomlText

set_option relaxedAutoImplicit false
set_option autoImplicit false

namespace Py

open Readings

/-! ### The same tree -/

/-- The representation of a float with an odd significand, or of a zero. -/
def Double.Canonical : Double → Prop
  | .finite _ m e => m % 2 = 1 ∨ (m = 0 ∧ e = 0)
  | _ => True

def Number.Canonical : Number → Prop
  | .int _ => True
  | .float x => x.Canonical

namespace Json

mutual

/-- The same tree up to the order of object keys: as many items, and to each item one with the same
key and the same value. -/
def Equiv : Json → Json → Prop
  | .null, .null => True
  | .bool b, .bool b' => b = b'
  | .num n, .num n' => n = n'
  | .str s, .str s' => s = s'
  | .arr xs, .arr ys => EquivItems xs ys
  | .obj kvs, .obj kvs' => kvs.length = kvs'.length ∧ EquivFields kvs kvs'
  | _, _ => False

/-- The same items, one by one. -/
def EquivItems : List Json → List Json → Prop
  | [], [] => True
  | x :: xs, y :: ys => Equiv x y ∧ EquivItems xs ys
  | _, _ => False

/-- To each item of an object there is one with the same key and the same value. -/
def EquivFields : List (Str × Json) → List (Str × Json) → Prop
  | [], _ => True
  | (key, item) :: kvs, kvs' =>
      (∃ kv ∈ kvs', kv.1 = key ∧ Equiv item kv.2) ∧ EquivFields kvs kvs'

end

mutual

/-- What `json.loads` returns: the keys of an object are distinct, and floats are canonical. -/
def Wellformed : Json → Prop
  | .num n => n.Canonical
  | .arr xs => WellformedItems xs
  | .obj kvs => (kvs.map Prod.fst).Nodup ∧ WellformedFields kvs
  | _ => True

/-- Every item of an array is well-formed. -/
def WellformedItems : List Json → Prop
  | [] => True
  | x :: xs => Wellformed x ∧ WellformedItems xs

/-- Every item of an object is well-formed. -/
def WellformedFields : List (Str × Json) → Prop
  | [] => True
  | (_, item) :: kvs => Wellformed item ∧ WellformedFields kvs

end

theorem equiv_arr {xs ys : List Json} : Equiv (.arr xs) (.arr ys) ↔ List.Forall₂ Equiv xs ys := by
  rw [Equiv]
  induction xs generalizing ys with
  | nil => cases ys <;> simp [EquivItems]
  | cons x xs ih =>
      cases ys with
      | nil => simp [EquivItems]
      | cons y ys => rw [EquivItems, ih, List.forall₂_cons]

theorem equiv_obj {kvs kvs' : List (Str × Json)} :
    Equiv (.obj kvs) (.obj kvs') ↔ kvs.length = kvs'.length ∧
      ∀ kv ∈ kvs, ∃ kv' ∈ kvs', kv'.1 = kv.1 ∧ Equiv kv.2 kv'.2 := by
  have hfields : ∀ l : List (Str × Json), EquivFields l kvs' ↔
      ∀ kv ∈ l, ∃ kv' ∈ kvs', kv'.1 = kv.1 ∧ Equiv kv.2 kv'.2 := by
    intro l
    induction l with
    | nil => simp [EquivFields]
    | cons kv l ih => rw [EquivFields, ih, List.forall_mem_cons]
  rw [Equiv, hfields]

theorem wellformed_arr {xs : List Json} : Wellformed (.arr xs) ↔ ∀ x ∈ xs, x.Wellformed := by
  rw [Wellformed]
  induction xs with
  | nil => simp [WellformedItems]
  | cons x xs ih => rw [WellformedItems, ih, List.forall_mem_cons]

theorem wellformed_obj {kvs : List (Str × Json)} :
    Wellformed (.obj kvs) ↔ (kvs.map Prod.fst).Nodup ∧ ∀ kv ∈ kvs, kv.2.Wellformed := by
  have hfields : ∀ l : List (Str × Json), WellformedFields l ↔ ∀ kv ∈ l, kv.2.Wellformed := by
    intro l
    induction l with
    | nil => simp [WellformedFields]
    | cons kv l ih => rw [WellformedFields, ih, List.forall_mem_cons]
  rw [Wellformed, hfields]

end Json

namespace Runtime

variable {rt : Runtime}

/-! ### The order of keys -/

/-- Texts are ordered by their code points. -/
theorem strLe_iff {s t : Str} : strLe s t = true ↔ s ≤ t := by
  rw [← not_lt]
  induction s generalizing t with
  | nil => simp [strLe]
  | cons p s ih =>
      cases t with
      | nil => simp [strLe]
      | cons q t =>
          rw [List.cons_lt_cons_iff, not_or, not_and, ← ih]
          rcases lt_trichotomy p q with h | rfl | h
          · simp [strLe, h, h.not_gt, h.ne']
          · simp [strLe]
          · simp [strLe, h, h.not_gt, h.ne']

/-- The items of an object in the order in which they are written. -/
def sortedFields {α : Type} (fields : List (Str × α)) : List (Str × α) :=
  fields.insertionSort fun a b => strLe a.1 b.1 = true

theorem sortedFields_map {α β : Type} (f : α → β) (fields : List (Str × α)) :
    sortedFields (fields.map fun kv => (kv.1, f kv.2)) =
      (sortedFields fields).map fun kv => (kv.1, f kv.2) :=
  (List.map_insertionSort _ _ (fun kv : Str × α => (kv.1, f kv.2)) _ fun _ _ _ _ => Iff.rfl).symm

theorem mem_sortedFields {α : Type} {fields : List (Str × α)} {kv : Str × α} :
    kv ∈ sortedFields fields ↔ kv ∈ fields := List.mem_insertionSort _

theorem pairwise_sortedFields {α : Type} (fields : List (Str × α)) :
    (sortedFields fields).Pairwise fun a b => strLe a.1 b.1 = true := by
  have htotal : Std.Total fun a b : Str × α => strLe a.1 b.1 = true :=
    ⟨fun a b => by simpa only [strLe_iff] using le_total a.1 b.1⟩
  have htrans : IsTrans (Str × α) fun a b => strLe a.1 b.1 = true :=
    ⟨fun a b c => by simpa only [strLe_iff] using le_trans⟩
  exact List.pairwise_insertionSort _ fields

/-- With distinct keys, the order in which the items come does not matter. -/
theorem sortedFields_of_perm {α : Type} {fields fields' : List (Str × α)}
    (hkeys : (fields.map Prod.fst).Nodup) (hperm : fields.Perm fields') :
    sortedFields fields = sortedFields fields' := by
  have hsorted : (sortedFields fields).Perm (sortedFields fields') :=
    ((List.perm_insertionSort _ _).trans hperm).trans (List.perm_insertionSort _ _).symm
  refine hsorted.eq_of_pairwise (fun a b ha hb hab hba => ?_) (pairwise_sortedFields fields)
    (pairwise_sortedFields fields')
  rw [strLe_iff] at hab hba
  exact List.inj_on_of_nodup_map hkeys (mem_sortedFields.1 ha)
    (hperm.mem_iff.2 (mem_sortedFields.1 hb)) (le_antisymm hab hba)

theorem dumpsObject_eq (fields : List (Str × Str)) :
    dumpsObject fields = py "\x7b" ++ (py ", ").intercalate
      ((sortedFields fields).map fun kv => quote kv.1 ++ py ": " ++ kv.2) ++ py "\x7d" := rfl

/-- **The order of items** does not matter. -/
theorem dumps_of_equiv {v w : Json} (hv : v.Wellformed) (hw : w.Wellformed) (h : v.Equiv w) :
    rt.dumps v = rt.dumps w := by
  induction v using Json.ind generalizing w with
  | null => cases w <;> simp_all [Json.Equiv]
  | bool b => cases w <;> simp_all [Json.Equiv]
  | num n => cases w <;> simp_all [Json.Equiv]
  | str s => cases w <;> simp_all [Json.Equiv]
  | arr xs ih =>
      cases w with
      | arr ys =>
          rw [Json.wellformed_arr] at hv hw
          have hitems : xs.map rt.dumps = ys.map rt.dumps := by
            rw [Json.equiv_arr] at h
            induction h with
            | nil => rfl
            | cons hxy _ ihtail =>
                rw [List.forall_mem_cons] at hv hw ih
                rw [List.map_cons, List.map_cons, ih.1 hv.1 hw.1 hxy, ihtail ih.2 hv.2 hw.2]
          rw [dumps, dumps, dumpsItems_eq, dumpsItems_eq, hitems]
      | _ => simp [Json.Equiv] at h
  | obj kvs ih =>
      cases w with
      | obj kvs' =>
          rw [Json.wellformed_obj] at hv hw
          rw [Json.equiv_obj] at h
          obtain ⟨hlen, hsame⟩ := h
          have hkeys : ((rt.dumpsFields kvs).map Prod.fst).Nodup := by
            rw [dumpsFields_eq, List.map_map]
            exact hv.1
          have hsub : rt.dumpsFields kvs ⊆ rt.dumpsFields kvs' := by
            intro field hfield
            rw [dumpsFields_eq, List.mem_map] at hfield ⊢
            obtain ⟨kv, hkv, rfl⟩ := hfield
            obtain ⟨kv', hkv', hkey, hitem⟩ := hsame kv hkv
            exact ⟨kv', hkv', by rw [hkey, ih kv hkv (hv.2 kv hkv) (hw.2 kv' hkv') hitem]⟩
          have hperm : (rt.dumpsFields kvs).Perm (rt.dumpsFields kvs') := by
            refine (hkeys.of_map.subperm hsub).perm_of_length_le ?_
            rw [dumpsFields_eq, dumpsFields_eq, List.length_map, List.length_map, hlen]
          rw [dumps, dumps, dumpsObject_eq, dumpsObject_eq, sortedFields_of_perm hkeys hperm]
      | _ => simp [Json.Equiv] at h

/-! ### Quoted texts -/

/-- The value of a hexadecimal digit. -/
def hexValue (p : CodePoint) : ℕ := if p.val < 58 then p.val - 48 else p.val - 87

/-- The character that four hexadecimal digits denote, when it is below 256. -/
def readHex (s : Str) : Option (CodePoint × Str) :=
  if s.length < 4 then none
  else
    some (ofChar (Char.ofNat (16 * hexValue (s.getD 2 (ofChar '0')) +
      hexValue (s.getD 3 (ofChar '0')))), s.drop 4)

theorem readHex_cons (p q h l : CodePoint) (rest : Str) :
    readHex (p :: q :: h :: l :: rest) =
      some (ofChar (Char.ofNat (16 * hexValue h + hexValue l)), rest) := by
  simp [readHex]

/-- What comes after a backslash. -/
def readEscape : Str → Option (CodePoint × Str)
  | [] => none
  | q :: rest =>
      if q = ofChar 'b' then some (ofChar '\x08', rest)
      else if q = ofChar 't' then some (ofChar '\t', rest)
      else if q = ofChar 'n' then some (ofChar '\n', rest)
      else if q = ofChar 'f' then some (ofChar '\x0c', rest)
      else if q = ofChar 'r' then some (ofChar '\r', rest)
      else if q = ofChar 'u' then readHex rest
      else some (q, rest)

/-- The first character inside a quoted text, and what comes after it: there is none at the quotation
mark that ends the text. -/
def readChar : Str → Option (CodePoint × Str)
  | [] => none
  | p :: rest =>
      if p = ofChar '"' then none
      else if p ≠ ofChar '\\' then some (p, rest)
      else readEscape rest

theorem readChar_quotationMark (rest : Str) : readChar (ofChar '"' :: rest) = none := rfl

/-- An escape reads as the character it stands for. -/
theorem readChar_escapeCodePoint (p : CodePoint) (rest : Str) :
    readChar (escapeCodePoint p ++ rest) = some (p, rest) := by
  have hhex : ∀ n < 32, 16 * hexValue (hexDigit (n / 16)) + hexValue (hexDigit (n % 16)) = n := by
    decide
  unfold escapeCodePoint
  split_ifs with h₁ h₂ h₃ h₄ h₅ h₆ h₇ h₈
  · rw [h₁]
    rfl
  · rw [h₂]
    rfl
  · rw [show p = ofChar '\x08' from Fin.ext h₃]
    rfl
  · rw [show p = ofChar '\t' from Fin.ext h₄]
    rfl
  · rw [show p = ofChar '\n' from Fin.ext h₅]
    rfl
  · rw [show p = ofChar '\x0c' from Fin.ext h₆]
    rfl
  · rw [show p = ofChar '\r' from Fin.ext h₇]
    rfl
  · have hread : readChar (py "\\u00" ++ [hexDigit (p.val / 16), hexDigit (p.val % 16)] ++ rest) =
        some (ofChar (Char.ofNat
          (16 * hexValue (hexDigit (p.val / 16)) + hexValue (hexDigit (p.val % 16)))), rest) :=
      readHex_cons _ _ _ _ _
    have hvalid : p.val.isValidChar := Or.inl (by omega)
    rw [hread, hhex p.val h₈, ofChar_of_toChar? (p := p) (by unfold toChar?; rw [if_pos hvalid])]
  · unfold readChar
    exact (if_neg h₁).trans (if_pos h₂)

/-- The inside of a quoted text can be read in one way only. -/
theorem append_inj_of_escaped {s t r r' : Str}
    (h : s.flatMap escapeCodePoint ++ ofChar '"' :: r =
      t.flatMap escapeCodePoint ++ ofChar '"' :: r') : s = t ∧ r = r' := by
  induction s generalizing t with
  | nil =>
      cases t with
      | nil => exact ⟨rfl, (List.cons.inj h).2⟩
      | cons q t =>
          rw [List.flatMap_cons, List.append_assoc] at h
          have hread := congrArg readChar h
          rw [readChar_escapeCodePoint] at hread
          exact absurd hread (by simp [readChar_quotationMark])
  | cons p s ih =>
      rw [List.flatMap_cons, List.append_assoc] at h
      have hread := congrArg readChar h
      rw [readChar_escapeCodePoint] at hread
      cases t with
      | nil => exact absurd hread (by simp [readChar_quotationMark])
      | cons q t =>
          rw [List.flatMap_cons, List.append_assoc, readChar_escapeCodePoint, Option.some.injEq,
            Prod.mk.injEq] at hread
          obtain ⟨rfl, hrest⟩ := hread
          obtain ⟨rfl, hr⟩ := ih hrest
          exact ⟨rfl, hr⟩

theorem readable_quote (s : Str) :
    Readable (fun _ => True) (fun s t => s = t) (fun _ => True) quote s := by
  intro t _ r r' _ _ h
  have hquote : ∀ s r, quote s ++ r =
      ofChar '"' :: (s.flatMap escapeCodePoint ++ ofChar '"' :: r) := by
    intro s r
    have hmark : py "\"" = [ofChar '"'] := rfl
    unfold quote
    rw [hmark]
    simp
  rw [hquote, hquote] at h
  exact append_inj_of_escaped (List.cons.inj h).2

end Runtime

/-! ### Numbers -/

/-- The characters of the text of an integer. -/
def intChar (p : CodePoint) : Bool := asciiDigit p || p = ofChar '-'

/-- The characters of the text of a finite float. -/
def floatChar (p : CodePoint) : Bool := asciiDigit p || p ∈ py "+-.e"

/-- The characters that a number starts with. -/
def numberStart (p : CodePoint) : Bool := intChar p || p ∈ py "NI"

/-- The characters that come after a value. -/
def closing (p : CodePoint) : Bool := p ∈ py ",]\x7d"

/-- **What is assumed of the text of a finite float** that is not zero: it starts with a digit or a
sign, has digits, signs, a point or an exponent, is not the text of an integer or of a zero, and
belongs to one float. -/
structure FloatFormat (rt : Runtime) : Prop where
  start : ∀ neg m e, ∃ p s, rt.floatRepr neg (m + 1) e = p :: s ∧ intChar p = true
  chars : ∀ neg m e, ∀ p ∈ rt.floatRepr neg (m + 1) e, floatChar p = true
  notInt : ∀ neg m e, ∃ p ∈ rt.floatRepr neg (m + 1) e, intChar p = false
  notZero : ∀ neg m e, rt.floatRepr neg (m + 1) e ≠ py "0.0" ∧
    rt.floatRepr neg (m + 1) e ≠ py "-0.0"
  injective : ∀ neg neg' m m' e e', (Double.finite neg (m + 1) e).Canonical →
    (Double.finite neg' (m' + 1) e').Canonical →
    rt.floatRepr neg (m + 1) e = rt.floatRepr neg' (m' + 1) e' → neg = neg' ∧ m = m' ∧ e = e'

theorem asciiDigit_ofChar {c : Char} (h : c.isDigit = true) : asciiDigit (ofChar c) = true := by
  unfold asciiDigit
  rw [val_ofChar]
  simp only [Char.isDigit, Bool.and_eq_true, decide_eq_true_eq] at h ⊢
  exact h

/-- The text of an integer starts with a digit or a sign and has no other characters. -/
theorem intStr_chars (z : ℤ) :
    (∃ p s, intStr z = p :: s) ∧ ∀ p ∈ intStr z, intChar p = true := by
  have hdigits : ∀ n : ℕ, ∀ c ∈ Nat.toDigits 10 n, intChar (ofChar c) = true := by
    intro n c hc
    unfold intChar
    rw [asciiDigit_ofChar (Toml.isDigit_toDigits n c hc)]
    rfl
  unfold intStr py
  rw [Int.toString_eq_repr, Int.repr_eq_if]
  split_ifs with hz
  · rw [Nat.toList_repr]
    refine ⟨List.exists_cons_of_ne_nil (by simp [Nat.toDigits_ne_nil]), fun p hp => ?_⟩
    obtain ⟨c, hc, rfl⟩ := List.mem_map.1 hp
    exact hdigits _ c hc
  · rw [String.toList_append, Nat.toList_repr, List.map_append]
    refine ⟨⟨ofChar '-', _, rfl⟩, fun p hp => ?_⟩
    rcases List.mem_append.1 hp with hp | hp
    · obtain ⟨c, hc, rfl⟩ := List.mem_map.1 hp
      rw [show c = '-' by simpa using hc]
      rfl
    · obtain ⟨c, hc, rfl⟩ := List.mem_map.1 hp
      exact hdigits _ c hc

theorem intStr_injective {z z' : ℤ} (h : intStr z = intStr z') : z = z' := by
  have hread : Toml.decimal (toString z).toList = Toml.decimal (toString z').toList := by
    rw [py_injective h]
  rw [← List.append_nil (toString z).toList, ← List.append_nil (toString z').toList,
    Toml.decimal_toString _ rfl, Toml.decimal_toString _ rfl] at hread
  exact congrArg Prod.fst (Option.some.inj hread)

/-- The floats whose text is fixed. -/
def fixedText : Double → Option String
  | .nan => some "NaN"
  | .inf false => some "Infinity"
  | .inf true => some "-Infinity"
  | .finite false 0 _ => some "0.0"
  | .finite true 0 _ => some "-0.0"
  | _ => none

/-- The fixed texts. -/
def fixedTexts : List String := ["NaN", "Infinity", "-Infinity", "0.0", "-0.0"]

/-- A fixed text belongs to one canonical float. -/
theorem fixedText_injective {x y : Double} {t : String} (hx : x.Canonical) (hy : y.Canonical)
    (h : fixedText x = some t) (h' : fixedText y = some t) : x = y := by
  rw [← h'] at h
  cases x with
  | nan => rcases y with _ | ⟨_ | _⟩ | ⟨_ | _, _ | _, _⟩ <;> simp [fixedText] at h ⊢
  | inf neg =>
      cases neg <;> rcases y with _ | ⟨_ | _⟩ | ⟨_ | _, _ | _, _⟩ <;> simp [fixedText] at h ⊢
  | finite neg m e =>
      cases m with
      | succ m => rw [h'] at h; cases neg <;> simp [fixedText] at h
      | zero =>
          have he : e = 0 := by simpa [Double.Canonical] using hx
          cases neg <;> rcases y with _ | ⟨_ | _⟩ | ⟨_ | _, _ | _, e'⟩ <;>
            simp [fixedText, Double.Canonical, he] at h hy ⊢ <;> omega

namespace Runtime

variable {rt : Runtime}

/-- A float has a fixed text, or the runtime makes one. -/
theorem dumpsNumber_float (rt : Runtime) (x : Double) :
    (∃ t ∈ fixedTexts, fixedText x = some t ∧ rt.dumpsNumber (.float x) = py t) ∨
      ∃ neg m e, x = .finite neg (m + 1) e ∧
        rt.dumpsNumber (.float x) = rt.floatRepr neg (m + 1) e := by
  cases x with
  | nan => exact Or.inl ⟨"NaN", by decide, rfl, rfl⟩
  | inf neg =>
      cases neg with
      | false => exact Or.inl ⟨"Infinity", by decide, rfl, rfl⟩
      | true => exact Or.inl ⟨"-Infinity", by decide, rfl, rfl⟩
  | finite neg m e =>
      cases m with
      | succ m => exact Or.inr ⟨neg, m, e, rfl, by cases neg <;> rfl⟩
      | zero =>
          cases neg with
          | false => exact Or.inl ⟨"0.0", by decide, rfl, rfl⟩
          | true => exact Or.inl ⟨"-0.0", by decide, rfl, rfl⟩

/-- How a number starts. -/
theorem dumpsNumber_start (hfmt : FloatFormat rt) (n : Number) :
    ∃ p s, rt.dumpsNumber n = p :: s ∧ numberStart p = true := by
  have hint : ∀ p, intChar p = true → numberStart p = true := by
    intro p hp
    unfold numberStart
    rw [hp]
    rfl
  cases n with
  | int z =>
      obtain ⟨⟨p, s, hz⟩, hchars⟩ := intStr_chars z
      exact ⟨p, s, hz, hint p (hchars p (by rw [hz]; exact List.mem_cons_self))⟩
  | float x =>
      have hfixed : ∀ t ∈ fixedTexts, ∃ p s, py t = p :: s ∧ numberStart p = true := by
        unfold fixedTexts
        simp only [List.forall_mem_cons]
        exact ⟨⟨_, _, rfl, by decide⟩, ⟨_, _, rfl, by decide⟩, ⟨_, _, rfl, by decide⟩,
          ⟨_, _, rfl, by decide⟩, ⟨_, _, rfl, by decide⟩, by simp⟩
      rcases dumpsNumber_float rt x with ⟨t, ht, -, htext⟩ | ⟨neg, m, e, -, htext⟩
      · rw [htext]
        exact hfixed t ht
      · obtain ⟨p, s, hs, hp⟩ := hfmt.start neg m e
        exact ⟨p, s, htext.trans hs, hint p hp⟩

/-- No number has a character that comes after a value. -/
theorem dumpsNumber_plain (hfmt : FloatFormat rt) (n : Number) :
    ∀ p ∈ rt.dumpsNumber n, ¬ closing p = true := by
  have hclosing : ∀ p, closing p = true → intChar p = false ∧ floatChar p = false := by
    intro p hp
    have hall : (py ",]\x7d").all (fun q => !intChar q && !floatChar q) = true := by decide
    simpa using List.all_eq_true.1 hall p (of_decide_eq_true hp)
  intro p hp hclose
  obtain ⟨hint, hfloat⟩ := hclosing p hclose
  cases n with
  | int z =>
      rw [(intStr_chars z).2 p hp] at hint
      simp at hint
  | float x =>
      have hfixed : ∀ t ∈ fixedTexts, (py t).all (fun q => !closing q) = true := by decide
      rcases dumpsNumber_float rt x with ⟨t, ht, -, htext⟩ | ⟨neg, m, e, -, htext⟩
      · rw [htext] at hp
        have := List.all_eq_true.1 (hfixed t ht) p hp
        simp [hclose] at this
      · rw [htext] at hp
        rw [hfmt.chars neg m e p hp] at hfloat
        simp at hfloat

/-- The text of a float is not that of an integer. -/
theorem dumpsNumber_float_ne_int (hfmt : FloatFormat rt) (x : Double) (z : ℤ) :
    rt.dumpsNumber (.float x) ≠ rt.dumpsNumber (.int z) := by
  have hfixed : ∀ t ∈ fixedTexts, (py t).any (fun p => !intChar p) = true := by decide
  have hmark : ∃ p ∈ rt.dumpsNumber (.float x), intChar p = false := by
    rcases dumpsNumber_float rt x with ⟨t, ht, -, htext⟩ | ⟨neg, m, e, -, htext⟩
    · rw [htext]
      simpa using List.any_eq_true.1 (hfixed t ht)
    · rw [htext]
      exact hfmt.notInt neg m e
  obtain ⟨p, hp, hnot⟩ := hmark
  intro h
  rw [h] at hp
  rw [(intStr_chars z).2 p hp] at hnot
  simp at hnot

/-- A fixed text is not that of another float. -/
theorem floatRepr_ne_fixed (hfmt : FloatFormat rt) (neg : Bool) (m : ℕ) (e : ℤ) {t : String}
    (ht : t ∈ fixedTexts) : rt.floatRepr neg (m + 1) e ≠ py t := by
  have hletter : ∀ t ∈ ["NaN", "Infinity", "-Infinity"],
      (py t).any (fun p => !floatChar p) = true := by decide
  have hsplit : t ∈ ["NaN", "Infinity", "-Infinity"] ∨ t = "0.0" ∨ t = "-0.0" := by
    unfold fixedTexts at ht
    simp only [List.mem_cons, List.not_mem_nil, or_false] at ht ⊢
    tauto
  intro h
  rcases hsplit with hnamed | rfl | rfl
  · obtain ⟨p, hp, hnot⟩ := List.any_eq_true.1 (hletter t hnamed)
    rw [hfmt.chars neg m e p (h ▸ hp)] at hnot
    simp at hnot
  · exact (hfmt.notZero neg m e).1 h
  · exact (hfmt.notZero neg m e).2 h

/-- A number is told by its text. -/
theorem dumpsNumber_injective (hfmt : FloatFormat rt) {n n' : Number} (hn : n.Canonical)
    (hn' : n'.Canonical) (h : rt.dumpsNumber n = rt.dumpsNumber n') : n = n' := by
  cases n with
  | int z =>
      cases n' with
      | int z' => rw [intStr_injective h]
      | float x' => exact absurd h.symm (dumpsNumber_float_ne_int hfmt x' z)
  | float x =>
      cases n' with
      | int z' => exact absurd h (dumpsNumber_float_ne_int hfmt x z')
      | float x' =>
          rcases dumpsNumber_float rt x with ⟨t, ht, hfix, htext⟩ | ⟨neg, m, e, rfl, htext⟩
          · rcases dumpsNumber_float rt x' with
              ⟨t', ht', hfix', htext'⟩ | ⟨neg', m', e', rfl, htext'⟩
            · rw [htext, htext', py_inj] at h
              rw [fixedText_injective hn hn' hfix (h ▸ hfix')]
            · rw [htext, htext'] at h
              exact absurd h.symm (floatRepr_ne_fixed hfmt neg' m' e' ht)
          · rcases dumpsNumber_float rt x' with
              ⟨t', ht', hfix', htext'⟩ | ⟨neg', m', e', rfl, htext'⟩
            · rw [htext, htext'] at h
              exact absurd h (floatRepr_ne_fixed hfmt neg m e ht')
            · rw [htext, htext'] at h
              obtain ⟨rfl, rfl, rfl⟩ := hfmt.injective neg neg' m m' e e' hn hn' h
              rfl

end Runtime

/-! ### Reading values -/

/-- The kinds of values that the first character of a text tells apart. -/
inductive Shape
  | null
  | true
  | false
  | num
  | str
  | arr
  | obj
  deriving DecidableEq

def Json.shape : Json → Shape
  | .null => .null
  | .bool true => .true
  | .bool false => .false
  | .num _ => .num
  | .str _ => .str
  | .arr _ => .arr
  | .obj _ => .obj

/-- What the first character of a text tells. -/
def shapeOf : Str → Option Shape
  | [] => none
  | p :: _ =>
      if p = ofChar 'n' then some .null
      else if p = ofChar 't' then some .true
      else if p = ofChar 'f' then some .false
      else if p = ofChar '"' then some .str
      else if p = ofChar '[' then some .arr
      else if p = ofChar '\x7b' then some .obj
      else if numberStart p then some .num
      else none

namespace Runtime

variable {rt : Runtime}

/-- The first character of the text of a value tells what kind of value it is. -/
theorem shapeOf_dumps (hfmt : FloatFormat rt) (v : Json) (r : Str) :
    shapeOf (rt.dumps v ++ r) = some v.shape := by
  cases v with
  | null => rfl
  | bool b => cases b <;> rfl
  | str s => rfl
  | arr xs => rfl
  | obj kvs => rfl
  | num n =>
      obtain ⟨p, s, hs, hp⟩ := dumpsNumber_start hfmt n
      have hne : ∀ c, numberStart (ofChar c) = false → p ≠ ofChar c := by
        intro c hc heq
        rw [heq, hc] at hp
        simp at hp
      rw [dumps, hs, List.cons_append, shapeOf, if_neg (hne 'n' (by decide)),
        if_neg (hne 't' (by decide)), if_neg (hne 'f' (by decide)), if_neg (hne '"' (by decide)),
        if_neg (hne '[' (by decide)), if_neg (hne '\x7b' (by decide)), if_pos hp]
      rfl

/-- Values of different kinds have different texts, whatever comes next. -/
theorem shape_eq_of_append (hfmt : FloatFormat rt) {v w : Json} {r r' : Str}
    (h : rt.dumps v ++ r = rt.dumps w ++ r') : v.shape = w.shape := by
  have hshape := congrArg shapeOf h
  rw [shapeOf_dumps hfmt, shapeOf_dumps hfmt] at hshape
  exact Option.some.inj hshape

/-- The text of an array: its items with commas between them. -/
theorem dumps_arr (xs : List Json) (r : Str) :
    rt.dumps (.arr xs) ++ r =
      ofChar '[' :: (joined rt.dumps (py ", ") (ofChar ']') xs ++ r) := by
  have hopen : py "[" = [ofChar '['] := rfl
  have hclose : py "]" = [ofChar ']'] := rfl
  rw [dumps, dumpsItems_eq, hopen, hclose]
  unfold joined
  simp

/-- The text of one item of an object. -/
def dumpsItem (rt : Runtime) (kv : Str × Json) : Str := quote kv.1 ++ (py ": " ++ rt.dumps kv.2)

/-- The text of an object: its items in the order of their keys, with commas between them. -/
theorem dumps_obj (kvs : List (Str × Json)) (r : Str) :
    rt.dumps (.obj kvs) ++ r =
      ofChar '\x7b' :: (joined rt.dumpsItem (py ", ") (ofChar '\x7d') (sortedFields kvs) ++ r) := by
  have hopen : py "\x7b" = [ofChar '\x7b'] := rfl
  have hclose : py "\x7d" = [ofChar '\x7d'] := rfl
  have hitems : (sortedFields (rt.dumpsFields kvs)).map (fun kv => quote kv.1 ++ py ": " ++ kv.2) =
      (sortedFields kvs).map rt.dumpsItem := by
    rw [dumpsFields_eq, sortedFields_map, List.map_map]
    refine List.map_congr_left fun kv _ => ?_
    exact List.append_assoc _ _ _
  rw [dumps, dumpsObject_eq, hitems, hopen, hclose]
  unfold joined
  simp

/-- The keys and the values of two items are the same. -/
def SameItem (a b : Str × Json) : Prop := a.1 = b.1 ∧ a.2.Equiv b.2

/-- The text of an item can be read in one way only if that of its value can. -/
theorem readable_dumpsItem {kv : Str × Json}
    (h : Readable Json.Wellformed Json.Equiv (Ends fun p => closing p = true) rt.dumps kv.2) :
    Readable (fun kv => kv.2.Wellformed) SameItem (Ends fun p => closing p = true) rt.dumpsItem
      kv := by
  have hvalue : Readable Json.Wellformed Json.Equiv (Ends fun p => closing p = true)
      (fun v => py ": " ++ rt.dumps v) kv.2 := by
    intro w hw r r' hr hr' heq
    rw [List.append_assoc, List.append_assoc] at heq
    exact h w hw r r' hr hr' (List.append_cancel_left heq)
  intro kv' hkv' r r' hr hr' heq
  exact ((readable_quote kv.1).seq hvalue fun _ _ _ => trivial) kv' ⟨trivial, hkv'⟩ r r' hr hr' heq

/-- Two objects are the same tree if their sorted items are the same one by one. -/
theorem equiv_obj_of_sorted {kvs kvs' : List (Str × Json)}
    (h : List.Forall₂ SameItem (sortedFields kvs) (sortedFields kvs')) :
    (Json.obj kvs).Equiv (.obj kvs') := by
  have hmem : ∀ {l l' : List (Str × Json)}, List.Forall₂ SameItem l l' →
      ∀ kv ∈ l, ∃ kv' ∈ l', SameItem kv kv' := by
    intro l l' hall
    induction hall with
    | nil => simp
    | cons hsame _ ih =>
        rw [List.forall_mem_cons]
        refine ⟨⟨_, List.mem_cons_self, hsame⟩, fun kv hkv => ?_⟩
        obtain ⟨kv', hkv', hsame'⟩ := ih kv hkv
        exact ⟨kv', List.mem_cons_of_mem _ hkv', hsame'⟩
  rw [Json.equiv_obj]
  constructor
  · have hlen := h.length_eq
    unfold sortedFields at hlen
    rwa [List.length_insertionSort, List.length_insertionSort] at hlen
  · intro kv hkv
    obtain ⟨kv', hkv', hkey, hvalue⟩ := hmem h kv (mem_sortedFields.2 hkv)
    exact ⟨kv', mem_sortedFields.1 hkv', hkey.symm, hvalue⟩

/-- What may come after an item of an array or of an object. -/
theorem ends_separator (r : Str) : Ends (fun p => closing p = true) (py ", " ++ r) :=
  ends_cons.2 (by decide)

/-- **The text of a value** can be read in one way only. -/
theorem readable_dumps (hfmt : FloatFormat rt) {v : Json} (hv : v.Wellformed) :
    Readable Json.Wellformed Json.Equiv (Ends fun p => closing p = true) rt.dumps v := by
  induction v using Json.ind with
  | num n =>
      intro w hw r r' hr hr' h
      have hshape := shape_eq_of_append hfmt h
      cases w with
      | num n' =>
          have hnumber : Readable Number.Canonical (fun n n' => n = n')
              (Ends fun p => closing p = true) rt.dumpsNumber n :=
            readable_of_class (dumpsNumber_plain hfmt) fun n' hn' =>
              dumpsNumber_injective hfmt hv hn'
          exact hnumber n' hw r r' hr hr' h
      | bool b => cases b <;> simp [Json.shape] at hshape
      | _ => simp [Json.shape] at hshape
  | null =>
      intro w hw r r' hr hr' h
      have hshape := shape_eq_of_append hfmt h
      cases w with
      | null => exact ⟨trivial, List.append_cancel_left h⟩
      | bool b => cases b <;> simp [Json.shape] at hshape
      | _ => simp [Json.shape] at hshape
  | bool b =>
      intro w hw r r' hr hr' h
      have hshape := shape_eq_of_append hfmt h
      cases w with
      | bool b' =>
          obtain rfl : b = b' := by cases b <;> cases b' <;> simp [Json.shape] at hshape ⊢
          exact ⟨rfl, List.append_cancel_left h⟩
      | _ => cases b <;> simp [Json.shape] at hshape
  | str s =>
      intro w hw r r' hr hr' h
      have hshape := shape_eq_of_append hfmt h
      cases w with
      | str t => exact readable_quote s t trivial r r' trivial trivial h
      | bool b => cases b <;> simp [Json.shape] at hshape
      | _ => simp [Json.shape] at hshape
  | arr xs ih =>
      intro w hw r r' hr hr' h
      have hshape := shape_eq_of_append hfmt h
      cases w with
      | arr ys =>
          rw [dumps_arr, dumps_arr] at h
          rw [Json.wellformed_arr] at hv hw
          rw [Json.equiv_arr]
          refine readable_joined (fun r r' heq => ?_) ends_separator
            (fun r => ends_cons.2 (by decide)) (fun x r r' heq => ?_)
            (fun x hx => ih x hx (hv x hx)) ys hw r r' trivial trivial (List.cons.inj h).2
          · exact absurd (List.cons.inj heq).1 (by decide)
          · have hnone : shapeOf (ofChar ']' :: r) = none := rfl
            rw [heq, shapeOf_dumps hfmt] at hnone
            simp at hnone
      | bool b => cases b <;> simp [Json.shape] at hshape
      | _ => simp [Json.shape] at hshape
  | obj kvs ih =>
      intro w hw r r' hr hr' h
      have hshape := shape_eq_of_append hfmt h
      cases w with
      | obj kvs' =>
          rw [dumps_obj, dumps_obj] at h
          rw [Json.wellformed_obj] at hv hw
          obtain ⟨hitems, hr⟩ := readable_joined (fun r r' heq => absurd (List.cons.inj heq).1
              (by decide)) ends_separator (fun r => ends_cons.2 (by decide))
            (fun kv r r' heq => absurd (List.cons.inj heq).1 (by decide))
            (fun kv hkv => readable_dumpsItem
              (ih kv (mem_sortedFields.1 hkv) (hv.2 kv (mem_sortedFields.1 hkv))))
            (sortedFields kvs') (fun kv hkv => hw.2 kv (mem_sortedFields.1 hkv)) r r' trivial
            trivial (List.cons.inj h).2
          exact ⟨equiv_obj_of_sorted hitems, hr⟩
      | bool b => cases b <;> simp [Json.shape] at hshape
      | _ => simp [Json.shape] at hshape

/-- **The text is canonical**: two values have the same text exactly if they are the same tree up to
the order of object keys. -/
theorem dumps_eq_iff (hfmt : FloatFormat rt) {v w : Json} (hv : v.Wellformed)
    (hw : w.Wellformed) : rt.dumps v = rt.dumps w ↔ v.Equiv w := by
  constructor
  · intro h
    have happend : rt.dumps v ++ [] = rt.dumps w ++ [] := by rw [h]
    exact (readable_dumps hfmt hv w hw [] [] ends_nil ends_nil happend).1
  · exact dumps_of_equiv hv hw

end Runtime

end Py
