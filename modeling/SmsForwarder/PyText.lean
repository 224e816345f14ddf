/-
**Python text and JSON values.**

A Python `str` is a sequence of code points; unlike a Lean `String` it may hold lone surrogates,
which a JSON document can denote with an escape and which have no UTF-8 encoding.  A JSON value is
what `json.loads` returns: objects become dictionaries in document order, integers are unbounded
and floats include the infinities and NaN.

The parts of the Python runtime that depend on tables which no behaviour here rests on (Unicode
case mapping and decimal digits, the texts `int` reads, the shortest decimal form of a float, the
text of a container)
are fields of `Py.Runtime`, restricted by what is documented of them.

Main definitions:

* `Py.CodePoint`, `Py.Str`, `Py.py`, `Py.encode` — text, literals, and the UTF-8 encodable texts;
* `Py.Json` — JSON values, with truth value (`Py.Json.truthy`), dictionary access
  (`Py.Json.get`), `or` (`Py.Json.orElse`) and `str()` (`Py.Runtime.str`);
* `Py.Runtime`, `Py.asciiRuntime` — the runtime parameters and a runtime that knows ASCII only.

Main results:

* `Py.Json.ind` — structural induction over nested values;
* `Py.encode_py` — literals are encodable.
-/

import Mathlib.Data.List.Basic
import Mathlib.Data.List.Sort
import Mathlib.Tactic

set_option relaxedAutoImplicit false
set_option autoImplicit false

namespace Py

/-! ### Text -/

/-- A Unicode code point, surrogates included. -/
abbrev CodePoint := Fin 0x110000

/-- A Python `str`. -/
abbrev Str := List CodePoint

instance : LawfulBEq Str := inferInstanceAs (LawfulBEq (List CodePoint))

/-- The code point of a character. -/
def ofChar (c : Char) : CodePoint := Fin.ofNat 0x110000 c.toNat

/-- The Python `str` of a Lean string. -/
def py (s : String) : Str := s.toList.map ofChar

/-- The character of a code point, unless it is a surrogate. -/
def toChar? (p : CodePoint) : Option Char :=
  if p.val.isValidChar then some (Char.ofNat p.val) else none

/-- The characters of a text, or `none` if it holds a surrogate. -/
def chars? : Str → Option (List Char)
  | [] => some []
  | p :: s =>
      match toChar? p, chars? s with
      | some c, some cs => some (c :: cs)
      | _, _ => none

/-- `str.encode()`: the text as Unicode characters, or `none` where the UTF-8 codec raises. -/
def encode (s : Str) : Option String := (chars? s).map String.ofList

theorem val_ofChar (c : Char) : (ofChar c).val = c.toNat := by
  have hv : c.toNat.isValidChar := c.valid
  have hlt : c.toNat < 0x110000 := by
    rcases hv with h | ⟨-, h⟩
    · exact lt_trans h (by decide)
    · exact h
  simpa [ofChar] using Nat.mod_eq_of_lt hlt

@[simp] theorem toChar?_ofChar (c : Char) : toChar? (ofChar c) = some c := by
  have hv : c.toNat.isValidChar := c.valid
  simp [toChar?, val_ofChar, hv, Char.ofNat_toNat]

@[simp] theorem chars?_map_ofChar (cs : List Char) : chars? (cs.map ofChar) = some cs := by
  induction cs with
  | nil => rfl
  | cons c cs ih => simp [chars?, ih]

/-- Every Lean string is encodable, and encoding gives it back. -/
@[simp] theorem encode_py (s : String) : encode (py s) = some s := by
  simp [encode, py]

theorem py_injective : Function.Injective py := by
  intro s t h
  have := congrArg encode h
  simpa using this

@[simp] theorem py_inj {s t : String} : py s = py t ↔ s = t := py_injective.eq_iff

/-- `str.isascii`. -/
def isAscii (s : Str) : Bool := s.all fun p => p.val < 128

/-- Lower-casing of an ASCII code point. -/
def asciiLower (p : CodePoint) : CodePoint :=
  if 65 ≤ p.val ∧ p.val ≤ 90 then Fin.ofNat 0x110000 (p.val + 32) else p

/-- The ASCII decimal digits. -/
def asciiDigit (p : CodePoint) : Bool := 48 ≤ p.val && p.val ≤ 57

/-! ### JSON values -/

/-- A Python `float`: `± m * 2 ^ e`, an infinity or NaN. -/
inductive Double
  | nan
  | inf (neg : Bool)
  | finite (neg : Bool) (m : ℕ) (e : ℤ)

/-- A JSON number as `json.loads` returns it. -/
inductive Number
  | int (z : ℤ)
  | float (x : Double)

/-- A JSON value.  The fields of an object are the items of the dictionary, in order. -/
inductive Json
  | null
  | bool (b : Bool)
  | num (n : Number)
  | str (s : Str)
  | arr (xs : List Json)
  | obj (kvs : List (Str × Json))

/-- `bool(x)` of a float. -/
def Double.truthy : Double → Bool
  | .finite _ 0 _ => false
  | _ => true

/-- `int(x)` of a finite float: its integer part. -/
def truncate (neg : Bool) (m : ℕ) (e : ℤ) : ℤ :=
  let magnitude := if 0 ≤ e then m * 2 ^ e.toNat else m / 2 ^ (-e).toNat
  if neg then -magnitude else magnitude

namespace Json

/-- **Structural induction** over nested JSON values. -/
theorem ind {P : Json → Prop} (null : P null) (bool : ∀ b, P (bool b)) (num : ∀ n, P (num n))
    (str : ∀ s, P (str s)) (arr : ∀ xs, (∀ x ∈ xs, P x) → P (arr xs))
    (obj : ∀ kvs, (∀ kv ∈ kvs, P kv.2) → P (obj kvs)) (j : Json) : P j :=
  @Json.rec P (fun xs => ∀ x ∈ xs, P x) (fun kvs => ∀ kv ∈ kvs, P kv.2) (fun kv => P kv.2)
    null bool num str arr obj (by simp)
    (fun _ _ hx hxs => List.forall_mem_cons.2 ⟨hx, hxs⟩) (by simp)
    (fun _ _ hkv hkvs => List.forall_mem_cons.2 ⟨hkv, hkvs⟩) (fun _ _ h => h) j

/-- `bool(v)`. -/
def truthy : Json → Bool
  | null => false
  | bool b => b
  | num (.int z) => z != 0
  | num (.float x) => x.truthy
  | str s => !s.isEmpty
  | arr xs => !xs.isEmpty
  | obj kvs => !kvs.isEmpty

/-- `a or b`. -/
def orElse (a b : Json) : Json := if a.truthy then a else b

/-- `d.get(k)` of a dictionary with the given items: `None` is the value of an absent key. -/
def get (kvs : List (Str × Json)) (k : Str) : Json :=
  match kvs.find? (fun kv => kv.1 = k) with
  | some kv => kv.2
  | none => null

/-- `d.get(k, default)`. -/
def getD (kvs : List (Str × Json)) (k : Str) (default : Json) : Json :=
  match kvs.find? (fun kv => kv.1 = k) with
  | some kv => kv.2
  | none => default

/-- `isinstance(v, str)`. -/
def isStr : Json → Bool
  | str _ => true
  | _ => false

end Json

/-! ### The runtime -/

/-- The text of an integer in decimal. -/
def intStr (z : ℤ) : Str := py (toString z)

/-- What the model takes from the Python runtime without fixing its tables: `str.lower`, the
characters `\d` matches, the integer a text denotes for `int`, the text of a non-zero finite float
and of a non-empty container. -/
structure Runtime where
  lower : Str → Str
  isDigit : CodePoint → Bool
  parseInt : Str → Option ℤ
  floatRepr : Bool → ℕ → ℤ → Str
  containerStr : Json → Str
  /-- On ASCII text `str.lower` maps `A`–`Z` to `a`–`z` and keeps the rest. -/
  lower_ascii : ∀ s : Str, isAscii s = true → lower s = s.map asciiLower
  /-- Among the ASCII characters `\d` matches `0`–`9`. -/
  isDigit_ascii : ∀ c : CodePoint, c.val < 128 → isDigit c = asciiDigit c

namespace Runtime

variable (rt : Runtime)

/-- `str(x)` of a float. -/
def floatStr : Double → Str
  | .nan => py "nan"
  | .inf false => py "inf"
  | .inf true => py "-inf"
  | .finite false 0 _ => py "0.0"
  | .finite true 0 _ => py "-0.0"
  | .finite neg (m + 1) e => rt.floatRepr neg (m + 1) e

/-- `str(n)` of a number. -/
def numStr : Number → Str
  | .int z => intStr z
  | .float x => rt.floatStr x

/-- `str(v)`. -/
def str : Json → Str
  | .null => py "None"
  | .bool true => py "True"
  | .bool false => py "False"
  | .num n => rt.numStr n
  | .str s => s
  | .arr [] => py "[]"
  | .obj [] => py "\x7b\x7d"
  | v => rt.containerStr v

/-! ### `json.dumps` -/

/-- A hexadecimal digit. -/
def hexDigit (n : ℕ) : CodePoint := Fin.ofNat 0x110000 (if n < 10 then 48 + n else 87 + n)

/-- A code point inside a JSON text, with `ensure_ascii=False`. -/
def escapeCodePoint (p : CodePoint) : Str :=
  if p = ofChar '"' then py "\\\""
  else if p = ofChar '\\' then py "\\\\"
  else if p.val = 8 then py "\\b"
  else if p.val = 9 then py "\\t"
  else if p.val = 10 then py "\\n"
  else if p.val = 12 then py "\\f"
  else if p.val = 13 then py "\\r"
  else if p.val < 32 then py "\\u00" ++ [hexDigit (p.val / 16), hexDigit (p.val % 16)]
  else [p]

/-- A text in quotation marks. -/
def quote (s : Str) : Str := py "\"" ++ s.flatMap escapeCodePoint ++ py "\""

/-- The order of texts by code points. -/
def strLe : Str → Str → Bool
  | [], _ => true
  | _ :: _, [] => false
  | p :: s, q :: t => p < q || (p = q && strLe s t)

/-- A number in a JSON text. -/
def dumpsNumber : Number → Str
  | .float .nan => py "NaN"
  | .float (.inf false) => py "Infinity"
  | .float (.inf true) => py "-Infinity"
  | n => rt.numStr n

/-- The items of an object, sorted by key, from the texts of their values. -/
def dumpsObject (fields : List (Str × Str)) : Str :=
  let sorted := fields.insertionSort fun a b => strLe a.1 b.1 = true
  py "\x7b" ++ (py ", ").intercalate (sorted.map fun kv => quote kv.1 ++ py ": " ++ kv.2) ++
    py "\x7d"

mutual

/-- `json.dumps(v, sort_keys=True, ensure_ascii=False)`. -/
def dumps : Json → Str
  | .null => py "null"
  | .bool true => py "true"
  | .bool false => py "false"
  | .num n => rt.dumpsNumber n
  | .str s => quote s
  | .arr xs => py "[" ++ (py ", ").intercalate (dumpsItems xs) ++ py "]"
  | .obj kvs => dumpsObject (dumpsFields kvs)

/-- The texts of the items of an array. -/
def dumpsItems : List Json → List Str
  | [] => []
  | x :: xs => dumps x :: dumpsItems xs

/-- The items of an object, with the texts of their values. -/
def dumpsFields : List (Str × Json) → List (Str × Str)
  | [] => []
  | (key, item) :: kvs => (key, dumps item) :: dumpsFields kvs

end

end Runtime

/-- A runtime that knows the ASCII characters only, with a plain text for floats. -/
def asciiRuntime : Runtime where
  lower s := s.map asciiLower
  isDigit := asciiDigit
  parseInt s := (encode s).bind String.toInt?
  floatRepr neg m e := (if neg then py "-" else []) ++ intStr m ++ py "p" ++ intStr e
  containerStr _ := py "\x7b...\x7d"
  lower_ascii _ _ := rfl
  isDigit_ascii _ _ := rfl

end Py
