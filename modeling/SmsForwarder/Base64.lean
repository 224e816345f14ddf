/-
**Base64.**

Three bytes are written as four characters of an alphabet of sixty-four, and the last group is
filled up with padding characters.  The bytes can be read back, whatever the alphabet is; without
the padding they can be as well, if their number is known.

Main definitions:

* `Base64.Alphabet`, `Base64.standard`, `Base64.urlSafe` — alphabets;
* `Base64.encode`, `Base64.decode` — bytes as text, and back;
* `Base64.unpadded` — the text without the padding at its end.

Main results:

* `Base64.decode_encode` — **the bytes are read back**;
* `Base64.length_encode`, `Base64.mem_encode` — the length and the characters of the text;
* `Base64.encode_eq_unpadded_append` — the padding is determined by the number of the bytes;
* `Base64.take_five_encode` — how many bits of the bytes the first five characters show.
-/

import Mathlib.Data.Fin.Basic
import Mathlib.Data.List.Nodup
import Mathlib.Data.List.DropRight
import Mathlib.Tactic.Common

set_option relaxedAutoImplicit false
set_option autoImplicit false

namespace Base64

abbrev Byte := Fin 256

abbrev Sextet := Fin 64

/-! ### Alphabets -/

/-- Sixty-four characters, none of them the padding. -/
structure Alphabet where
  chars : List Char
  length_chars : chars.length = 64
  nodup : chars.Nodup
  ne_pad : '=' ∉ chars

/-- The alphabet of `base64.b64encode`. -/
def standard : Alphabet where
  chars := "ABCDEFGHIJKLMNOPQRSTUVWXYZabcdefghijklmnopqrstuvwxyz0123456789+/".toList
  length_chars := by decide
  nodup := by decide +kernel
  ne_pad := by decide

/-- The alphabet of `base64.urlsafe_b64encode`. -/
def urlSafe : Alphabet where
  chars := "ABCDEFGHIJKLMNOPQRSTUVWXYZabcdefghijklmnopqrstuvwxyz0123456789-_".toList
  length_chars := by decide
  nodup := by decide +kernel
  ne_pad := by decide

namespace Alphabet

variable (A : Alphabet)

/-- The character of a sextet. -/
def char (i : Sextet) : Char := A.chars.get (i.cast A.length_chars.symm)

/-- The sextet of a character. -/
def index (c : Char) : Option Sextet :=
  if h : c ∈ A.chars then
    some ⟨A.chars.idxOf c, A.length_chars ▸ List.idxOf_lt_length_of_mem h⟩
  else none

theorem char_mem (i : Sextet) : A.char i ∈ A.chars := List.get_mem _ _

theorem char_ne_pad (i : Sextet) : A.char i ≠ '=' := fun h => A.ne_pad (h ▸ A.char_mem i)

@[simp] theorem index_char (i : Sextet) : A.index (A.char i) = some i := by
  have hidx : A.chars.idxOf (A.char i) = i := by
    unfold char
    rw [List.get_eq_getElem, A.nodup.idxOf_getElem]
    rfl
  unfold index
  rw [dif_pos (A.char_mem i)]
  exact congrArg some (Fin.ext hidx)

@[simp] theorem char_inj {i j : Sextet} : A.char i = A.char j ↔ i = j := by
  constructor
  · intro h
    have hindex := congrArg A.index h
    simpa using hindex
  · exact congrArg A.char

end Alphabet

/-! ### Groups of six bits -/

def sextet1 (a : Byte) : Sextet := ⟨a / 4, by omega⟩

def sextet2 (a b : Byte) : Sextet := ⟨a % 4 * 16 + b / 16, by omega⟩

def sextet3 (b c : Byte) : Sextet := ⟨b % 16 * 4 + c / 64, by omega⟩

def sextet4 (c : Byte) : Sextet := ⟨c % 64, by omega⟩

def byte1 (s t : Sextet) : Byte := ⟨s * 4 + t / 16, by omega⟩

def byte2 (t u : Sextet) : Byte := ⟨t % 16 * 16 + u / 4, by omega⟩

def byte3 (u v : Sextet) : Byte := ⟨u % 4 * 64 + v, by omega⟩

@[simp] theorem byte1_sextets (a b : Byte) : byte1 (sextet1 a) (sextet2 a b) = a := by
  refine Fin.ext ?_
  simp only [byte1, sextet1, sextet2]
  omega

@[simp] theorem byte2_sextets (a b c : Byte) : byte2 (sextet2 a b) (sextet3 b c) = b := by
  refine Fin.ext ?_
  simp only [byte2, sextet2, sextet3]
  omega

@[simp] theorem byte3_sextets (b c : Byte) : byte3 (sextet3 b c) (sextet4 c) = c := by
  refine Fin.ext ?_
  simp only [byte3, sextet3, sextet4]
  omega

/-! ### Texts -/

variable (A : Alphabet)

/-- Bytes as text. -/
def encode : List Byte → List Char
  | [] => []
  | [a] => [A.char (sextet1 a), A.char (sextet2 a 0), '=', '=']
  | [a, b] => [A.char (sextet1 a), A.char (sextet2 a b), A.char (sextet3 b 0), '=']
  | a :: b :: c :: rest =>
      A.char (sextet1 a) :: A.char (sextet2 a b) :: A.char (sextet3 b c) :: A.char (sextet4 c) ::
        encode rest

/-- The bytes of a text, if it is one of whole groups. -/
def decode : List Char → Option (List Byte)
  | [] => some []
  | w :: x :: y :: z :: rest => do
      let s ← A.index w
      let t ← A.index x
      if y = '=' ∧ z = '=' ∧ rest = [] then
        return [byte1 s t]
      let u ← A.index y
      if z = '=' ∧ rest = [] then
        return [byte1 s t, byte2 t u]
      let v ← A.index z
      let bytes ← decode rest
      return byte1 s t :: byte2 t u :: byte3 u v :: bytes
  | _ => none

/-- **The bytes are read back.** -/
theorem decode_encode (bytes : List Byte) : decode A (encode A bytes) = some bytes := by
  induction bytes using encode.induct with
  | case1 => rfl
  | case2 a => simp [encode, decode]
  | case3 a b => simp [encode, decode, A.char_ne_pad]
  | case4 a b c rest ih => simp [encode, decode, A.char_ne_pad, ih]

theorem encode_injective {bytes bytes' : List Byte} (h : encode A bytes = encode A bytes') :
    bytes = bytes' := by
  have hdecode := congrArg (decode A) h
  rw [decode_encode, decode_encode] at hdecode
  exact Option.some.inj hdecode

theorem length_encode (bytes : List Byte) :
    (encode A bytes).length = 4 * ((bytes.length + 2) / 3) := by
  induction bytes using encode.induct with
  | case1 => rfl
  | case2 a => simp [encode]
  | case3 a b => simp [encode]
  | case4 a b c rest ih =>
      simp only [encode, List.length_cons, ih]
      omega

/-- The characters of a text are of the alphabet, or padding. -/
theorem mem_encode {bytes : List Byte} {c : Char} (h : c ∈ encode A bytes) :
    c ∈ A.chars ∨ c = '=' := by
  induction bytes using encode.induct with
  | case1 => simp [encode] at h
  | case2 a =>
      simp only [encode, List.mem_cons, List.not_mem_nil, or_false] at h
      rcases h with rfl | rfl | rfl | rfl <;> simp [A.char_mem]
  | case3 a b =>
      simp only [encode, List.mem_cons, List.not_mem_nil, or_false] at h
      rcases h with rfl | rfl | rfl | rfl <;> simp [A.char_mem]
  | case4 a b c rest ih =>
      simp only [encode, List.mem_cons] at h
      rcases h with rfl | rfl | rfl | rfl | h
      · exact Or.inl (A.char_mem _)
      · exact Or.inl (A.char_mem _)
      · exact Or.inl (A.char_mem _)
      · exact Or.inl (A.char_mem _)
      · exact ih h

/-! ### Texts without padding -/

/-- The text without the padding at its end. -/
def unpadded (bytes : List Byte) : List Char := (encode A bytes).rdropWhile (· = '=')

/-- A text with padding after it, without the padding. -/
theorem rdropWhile_append_padding {text : List Char} (h : ∀ c ∈ text, c ≠ '=') (n : ℕ) :
    (text ++ List.replicate n '=').rdropWhile (· = '=') = text := by
  induction n with
  | zero =>
      rw [List.replicate_zero, List.append_nil, List.rdropWhile_eq_self_iff]
      intro hne
      simpa using h _ (List.getLast_mem hne)
  | succ n ih =>
      rw [List.replicate_succ', ← List.append_assoc, List.rdropWhile_concat_pos _ _ _ (by simp)]
      exact ih

/-- The text is characters of the alphabet and the padding that the number of the bytes asks for. -/
theorem exists_encode_eq (bytes : List Byte) :
    ∃ text, encode A bytes = text ++ List.replicate ((3 - bytes.length % 3) % 3) '=' ∧
      ∀ c ∈ text, c ∈ A.chars := by
  induction bytes using encode.induct with
  | case1 => exact ⟨[], rfl, by simp⟩
  | case2 a =>
      refine ⟨[A.char (sextet1 a), A.char (sextet2 a 0)], rfl, ?_⟩
      simp [A.char_mem]
  | case3 a b =>
      refine ⟨[A.char (sextet1 a), A.char (sextet2 a b), A.char (sextet3 b 0)], rfl, ?_⟩
      simp [A.char_mem]
  | case4 a b c rest ih =>
      obtain ⟨text, htext, hmem⟩ := ih
      have hlen : (a :: b :: c :: rest).length % 3 = rest.length % 3 := by
        simp only [List.length_cons]
        omega
      refine ⟨A.char (sextet1 a) :: A.char (sextet2 a b) :: A.char (sextet3 b c) ::
        A.char (sextet4 c) :: text, ?_, ?_⟩
      · rw [hlen, encode, htext]
        rfl
      · simp only [List.mem_cons, forall_eq_or_imp]
        exact ⟨A.char_mem _, A.char_mem _, A.char_mem _, A.char_mem _, hmem⟩

/-- **The padding is determined by the number of the bytes**, and there is none before it. -/
theorem encode_eq_unpadded_append (bytes : List Byte) :
    encode A bytes = unpadded A bytes ++ List.replicate ((3 - bytes.length % 3) % 3) '=' ∧
      ∀ c ∈ unpadded A bytes, c ∈ A.chars := by
  obtain ⟨text, htext, hmem⟩ := exists_encode_eq A bytes
  have hpad : ∀ c ∈ text, c ≠ '=' := fun c hc heq => A.ne_pad (heq ▸ hmem c hc)
  have hunpadded : unpadded A bytes = text := by
    unfold unpadded
    rw [htext]
    exact rdropWhile_append_padding hpad _
  rw [hunpadded]
  exact ⟨htext, hmem⟩

/-- Texts without padding are read back if the number of the bytes is known. -/
theorem unpadded_injective {bytes bytes' : List Byte} (hlen : bytes.length = bytes'.length)
    (h : unpadded A bytes = unpadded A bytes') : bytes = bytes' := by
  refine encode_injective A ?_
  rw [(encode_eq_unpadded_append A bytes).1, (encode_eq_unpadded_append A bytes').1, h, hlen]

theorem length_unpadded (bytes : List Byte) :
    (unpadded A bytes).length = 4 * ((bytes.length + 2) / 3) - (3 - bytes.length % 3) % 3 := by
  have hlen := congrArg List.length (encode_eq_unpadded_append A bytes).1
  rw [length_encode, List.length_append, List.length_replicate] at hlen
  omega

/-! ### Prefixes -/

/-- **The first five characters show thirty bits**: the first three bytes, and the first six bits of
the fourth. -/
theorem take_five_encode {a b c d a' b' c' d' : Byte} {rest rest' : List Byte} :
    (encode A (a :: b :: c :: d :: rest)).take 5 =
        (encode A (a' :: b' :: c' :: d' :: rest')).take 5 ↔
      a = a' ∧ b = b' ∧ c = c' ∧ sextet1 d = sextet1 d' := by
  have hfirst : ∀ (d : Byte) (rest : List Byte), (encode A (d :: rest)).take 1 =
      [A.char (sextet1 d)] := by
    intro d rest
    match rest with
    | [] => rfl
    | [_] => rfl
    | _ :: _ :: _ => rfl
  have htake : ∀ (a b c d : Byte) (rest : List Byte),
      (encode A (a :: b :: c :: d :: rest)).take 5 =
        [A.char (sextet1 a), A.char (sextet2 a b), A.char (sextet3 b c), A.char (sextet4 c),
          A.char (sextet1 d)] := by
    intro a b c d rest
    rw [encode]
    simp only [List.take_succ_cons]
    rw [hfirst]
  rw [htake, htake]
  simp only [List.cons.injEq, A.char_inj, and_true]
  constructor
  · rintro ⟨h1, h2, h3, h4, h5⟩
    refine ⟨?_, ?_, ?_, h5⟩
    · rw [← byte1_sextets a b, h1, h2, byte1_sextets]
    · rw [← byte2_sextets a b c, h2, h3, byte2_sextets]
    · rw [← byte3_sextets b c, h3, h4, byte3_sextets]
  · rintro ⟨rfl, rfl, rfl, h5⟩
    exact ⟨rfl, rfl, rfl, rfl, h5⟩

end Base64
